import ArityLint.Proofs.Escapes
import ArityLint.Proofs.Findings
import ArityLint.Report.Format
import Mathlib.Data.List.Forall2
import Mathlib.Data.List.Infix

namespace ArityLint

theorem Except.forall₂_mapM {ε α β γ : Type} {f : α → Except ε β} {g : α → Except ε γ}
    {R : β → γ → Prop} {xs : List α}
    (h : ∀ x ∈ xs, ∃ y z, f x = .ok y ∧ g x = .ok z ∧ R y z) :
    ∃ ys zs, xs.mapM f = .ok ys ∧ xs.mapM g = .ok zs ∧ List.Forall₂ R ys zs := by
  induction xs with
  | nil => exact ⟨[], [], rfl, rfl, .nil⟩
  | cons x xs ih =>
    obtain ⟨y, z, hy, hz, hr⟩ := h x (by simp)
    obtain ⟨ys, zs, hys, hzs, hrs⟩ := ih fun x' hx' => h x' (by simp [hx'])
    refine ⟨y :: ys, z :: zs, ?_, ?_, .cons hr hrs⟩
    · rw [List.mapM_cons, hy, hys]
      rfl
    · rw [List.mapM_cons, hz, hzs]
      rfl

namespace Github

inductive Entry where
  | error (path message : String)
  | warning (path : String) (extent : Report.Extent) (title message : String)
  deriving DecidableEq, Repr

def annotations (r : Report) : Except Fault (List Entry) :=
  match r.error with
  | some e => .ok [.error r.path e]
  | none => r.findings.mapM fun f => do
    .ok (.warning r.path (r.extent f) Rule.name (← f.message))

section Reader

def endsField : List Char → Bool
  | ',' :: _ => true
  | ':' :: ':' :: _ => true
  | _ => false

/-- The text up to the next comma or pair of colons, and what is left from there on. -/
def field : List Char → List Char × List Char
  | [] => ([], [])
  | c :: cs =>
    if endsField (c :: cs) then ([], c :: cs) else (c :: (field cs).1, (field cs).2)

def natural? (digits : List Char) : Option Nat :=
  if digits ≠ [] ∧ digits.all Char.isDigit then some (Nat.ofDigitChars 10 digits 0) else none

def integer? : List Char → Option Int
  | '-' :: digits => (natural? digits).map fun n => -(n : Int)
  | digits => (natural? digits).map fun n => (n : Int)

def readError? (line : List Char) : Option Entry := do
  let (path, rest) := field (← line.dropPrefix? "::error file=".toList)
  let message ← rest.dropPrefix? "::".toList
  some (.error (String.ofList path) (String.ofList (unescape message)))

def readWarning? (line : List Char) : Option Entry := do
  let (path, rest) := field (← line.dropPrefix? "::warning file=".toList)
  let (startLine, rest) := field (← rest.dropPrefix? ",line=".toList)
  let (startColumn, rest) := field (← rest.dropPrefix? ",col=".toList)
  let (stopLine, rest) := field (← rest.dropPrefix? ",endLine=".toList)
  let (stopColumn, rest) := field (← rest.dropPrefix? ",endColumn=".toList)
  let (title, rest) := field (← rest.dropPrefix? ",title=".toList)
  let message ← rest.dropPrefix? "::".toList
  some (.warning (String.ofList path)
    ⟨⟨← integer? startLine, ← integer? startColumn⟩, ⟨← integer? stopLine, ← integer? stopColumn⟩⟩
    (String.ofList title) (String.ofList (unescape message)))

def read? (line : List Char) : Option Entry :=
  (readError? line).orElse fun _ => readWarning? line

def textLines (text : String) : List (List Char) :=
  if text = "" then [] else text.toList.splitOn '\n'

end Reader

section Field

/-- Nothing in `cs` ends a field, nor does its end before a colon. -/
structure Closed (cs : List Char) : Prop where
  no_comma : ',' ∉ cs
  no_colons : ¬[':', ':'] <:+: cs ++ [':']

theorem Closed.of_not_mem {cs : List Char} (hcomma : ',' ∉ cs) (hcolon : ':' ∉ cs) :
    Closed cs := by
  refine ⟨hcomma, fun hc => ?_⟩
  have hcount := hc.sublist.count_le ':'
  rw [List.count_append, List.count_eq_zero.2 hcolon] at hcount
  exact absurd hcount (by decide)

theorem Closed.tail {c : Char} {cs : List Char} (h : Closed (c :: cs)) : Closed cs :=
  ⟨fun hc => h.no_comma (by simp [hc]),
    fun hc => h.no_colons (hc.trans (List.suffix_cons ..).isInfix)⟩

theorem Closed.endsField_append {c : Char} {cs : List Char} (h : Closed (c :: cs))
    (rest : List Char) : endsField (c :: (cs ++ rest)) = false := by
  unfold endsField
  split
  · next heq =>
    cases heq
    exact absurd (List.mem_cons_self ..) h.no_comma
  · next heq =>
    obtain ⟨rfl, heq⟩ := List.cons.inj heq
    refine absurd ?_ h.no_colons
    cases cs with
    | nil => exact List.infix_rfl
    | cons d ds =>
      have hd : d = ':' := (List.cons.inj (List.cons.inj heq).2).1
      subst hd
      exact (List.prefix_append [':', ':'] (ds ++ [':'])).isInfix
  · rfl

theorem field_append {cs rest : List Char} (h : Closed cs) (hrest : endsField rest) :
    field (cs ++ rest) = (cs, rest) := by
  induction cs with
  | nil =>
    cases rest with
    | nil => rfl
    | cons c cs => rw [List.nil_append, field, if_pos hrest]
  | cons c cs ih =>
    rw [List.cons_append, field, h.endsField_append, if_neg (by simp), ih h.tail]

theorem field_append_eq (cs : List Char) : (field cs).1 ++ (field cs).2 = cs := by
  induction cs with
  | nil => rfl
  | cons c cs ih =>
    rw [field]
    split
    · rfl
    · rw [List.cons_append, ih]

theorem closed_field {cs rest : List Char} (h : (field cs).2 = ':' :: ':' :: rest) :
    Closed (field cs).1 := by
  induction cs with
  | nil => cases h
  | cons c cs ih =>
    rw [field] at h ⊢
    split at h
    · next hends =>
      rw [if_pos hends]
      exact .of_not_mem nofun nofun
    · next hends =>
      rw [if_neg hends]
      have ih := ih h
      have hcs := field_append_eq cs
      refine ⟨fun hc => ?_, fun hc => ?_⟩
      · rcases List.mem_cons.1 hc with rfl | hc
        · exact hends rfl
        · exact ih.no_comma hc
      · rcases List.infix_cons_iff.1 hc with hc | hc
        · -- the second colon is in the field or opens what follows it
          obtain ⟨hc, hnext⟩ := List.cons_prefix_cons.1 hc
          subst hc
          refine hends ?_
          rw [← hcs, h]
          cases hf : (field cs).1 with
          | nil => rfl
          | cons d ds =>
            rw [hf] at hnext
            obtain ⟨rfl, -⟩ := List.cons_prefix_cons.1 hnext
            rfl
        · exact ih.no_colons hc

theorem natural?_toDigits (n : Nat) : natural? (Nat.toDigits 10 n) = some n := by
  have hdigits : (Nat.toDigits 10 n).all Char.isDigit :=
    List.all_eq_true.2 fun c hc => Nat.isDigit_of_mem_toDigits (by decide) (by decide) hc
  rw [natural?, if_pos ⟨Nat.toDigits_ne_nil, hdigits⟩, Nat.ofDigitChars_ten_toDigits]

theorem integer?_of_isDigit {cs : List Char} (h : ∀ c ∈ cs, c.isDigit) :
    integer? cs = (natural? cs).map fun n => (n : Int) := by
  unfold integer?
  split
  · exact absurd (h '-' (List.mem_cons_self ..)) (by decide)
  · rfl

theorem toList_toString_natCast (n : Nat) : (toString (n : Int)).toList = Nat.toDigits 10 n := by
  rw [Int.toString_eq_repr, Int.repr_eq_if, if_pos (Int.natCast_nonneg n), Int.toNat_natCast,
    Nat.toList_repr]

theorem toList_toString_negSucc (n : Nat) :
    (toString (Int.negSucc n)).toList = '-' :: Nat.toDigits 10 (n + 1) := by
  rw [Int.toString_eq_repr, Int.repr_eq_if, if_neg (by omega), String.toList_append,
    Nat.toList_repr]
  rfl

@[simp] theorem integer?_toString (n : Int) : integer? (toString n).toList = some n := by
  cases n with
  | ofNat n =>
    rw [Int.ofNat_eq_natCast, toList_toString_natCast, integer?_of_isDigit fun c hc =>
      Nat.isDigit_of_mem_toDigits (by decide) (by decide) hc, natural?_toDigits]
    rfl
  | negSucc n =>
    rw [toList_toString_negSucc, integer?, natural?_toDigits]
    rfl

theorem mem_toString_int {n : Int} {c : Char} (h : c ∈ (toString n).toList) :
    c = '-' ∨ c.isDigit := by
  cases n with
  | ofNat n =>
    rw [Int.ofNat_eq_natCast, toList_toString_natCast] at h
    exact .inr (Nat.isDigit_of_mem_toDigits (by decide) (by decide) h)
  | negSucc n =>
    rw [toList_toString_negSucc] at h
    exact (List.mem_cons.1 h).imp id
      fun h => Nat.isDigit_of_mem_toDigits (by decide) (by decide) h

theorem not_mem_toString_int {c : Char} (hsign : c ≠ '-') (hdigit : c.isDigit = false) (n : Int) :
    c ∉ (toString n).toList := by
  intro h
  rcases mem_toString_int h with h | h
  · exact hsign h
  · rw [hdigit] at h
    cases h

theorem closed_toString (n : Int) : Closed (toString n).toList :=
  .of_not_mem (not_mem_toString_int (by decide) rfl n) (not_mem_toString_int (by decide) rfl n)

theorem newline_not_mem_toString (n : Int) : '\n' ∉ (toString n).toList :=
  not_mem_toString_int (by decide) rfl n

theorem closed_ruleName : Closed Rule.name.toList := .of_not_mem (by decide) (by decide)

end Field

section Line

theorem dropPrefix?_append (key rest : List Char) : (key ++ rest).dropPrefix? key = some rest :=
  List.dropPrefix?_append_of_beq rest BEq.rfl

/-- A path that can be read back: it stays on its line, and nothing in it ends its field. -/
structure IsPlain (path : String) : Prop where
  closed : Closed path.toList
  no_newline : '\n' ∉ path.toList

variable {path : String}

theorem read?_errorLine (h : IsPlain path) (error : String) :
    read? (errorLine path error).toList = some (.error path error) := by
  have herror : readError? (errorLine path error).toList = some (.error path error) := by
    simp only [readError?, errorLine, String.toList_append, List.append_assoc, dropPrefix?_append]
    rw [Option.bind_eq_bind, Option.bind_some, field_append h.closed rfl]
    simp only [dropPrefix?_append, Option.bind_some, unescape_escape, String.ofList_toList]
  rw [read?, herror]
  rfl

theorem toList_warningLine (path : String) (e : Report.Extent) (message : String) :
    (warningLine path e message).toList =
      "::warning file=".toList ++ (path.toList ++
        (",line=".toList ++ ((toString e.start.line).toList ++
        (",col=".toList ++ ((toString e.start.column).toList ++
        (",endLine=".toList ++ ((toString e.stop.line).toList ++
        (",endColumn=".toList ++ ((toString e.stop.column).toList ++
        (",title=".toList ++ (Rule.name.toList ++
        ("::".toList ++ (escape message).toList)))))))))))) := by
  unfold warningLine
  simp only [String.toList_append, List.append_assoc]

theorem read?_warningLine (h : IsPlain path) (e : Report.Extent) (message : String) :
    read? (warningLine path e message).toList = some (.warning path e Rule.name message) := by
  have herror : readError? (warningLine path e message).toList = none := by
    rw [readError?, toList_warningLine]
    rfl
  rw [read?, herror, Option.orElse_none, readWarning?, toList_warningLine]
  simp only [dropPrefix?_append, Option.bind_eq_bind, Option.bind_some]
  rw [field_append h.closed rfl]
  simp only [dropPrefix?_append, Option.bind_some]
  rw [field_append (closed_toString _) rfl]
  simp only [dropPrefix?_append, Option.bind_some]
  rw [field_append (closed_toString _) rfl]
  simp only [dropPrefix?_append, Option.bind_some]
  rw [field_append (closed_toString _) rfl]
  simp only [dropPrefix?_append, Option.bind_some]
  rw [field_append (closed_toString _) rfl]
  simp only [dropPrefix?_append, Option.bind_some]
  rw [field_append closed_ruleName rfl]
  simp only [dropPrefix?_append, Option.bind_some, integer?_toString, unescape_escape,
    String.ofList_toList]

theorem newline_not_mem_errorLine (h : '\n' ∉ path.toList) (error : String) :
    '\n' ∉ (errorLine path error).toList := by
  simp [errorLine, h, newline_not_mem_escape]

theorem newline_not_mem_warningLine (h : '\n' ∉ path.toList) (e : Report.Extent)
    (message : String) :
    '\n' ∉ (warningLine path e message).toList := by
  have hnumber := newline_not_mem_toString
  rw [toList_warningLine]
  simp_all [Rule.name, newline_not_mem_escape]

end Line

def IsLine (line : String) : Prop := '\n' ∉ line.toList ∧ line ≠ ""

/-- A line of its own that says `a`. -/
def Says (line : String) (a : Entry) : Prop := IsLine line ∧ read? line.toList = some a

theorem says_iff {line : String} {a : Entry} :
    Says line a ↔ '\n' ∉ line.toList ∧ read? line.toList = some a := by
  refine ⟨fun h => ⟨h.1.1, h.2⟩, fun h => ⟨⟨h.1, ?_⟩, h.2⟩⟩
  rintro rfl
  cases h.2

theorem lines_say {r : Report} (hplain : IsPlain r.path)
    (hmessages : r.error = none → ∀ f ∈ r.findings, f.HasMessage) :
    ∃ ls as, lines r = .ok ls ∧ annotations r = .ok as ∧ List.Forall₂ Says ls as := by
  unfold lines annotations
  cases herror : r.error with
  | some e =>
    have hsays :=
      says_iff.2 ⟨newline_not_mem_errorLine hplain.no_newline e, read?_errorLine hplain e⟩
    exact ⟨_, _, rfl, rfl, .cons hsays .nil⟩
  | none =>
    refine Except.forall₂_mapM fun f hf => ?_
    obtain ⟨m, hm⟩ := hmessages herror f hf
    rw [hm]
    exact ⟨_, _, rfl, rfl,
      says_iff.2 ⟨newline_not_mem_warningLine hplain.no_newline _ m, read?_warningLine hplain _ m⟩⟩

theorem textLines_intercalate {ls : List String} (h : ∀ l ∈ ls, IsLine l) :
    textLines ("\n".intercalate ls) = ls.map String.toList := by
  cases ls with
  | nil => rfl
  | cons l ls =>
    have hsplit :
        ("\n".intercalate (l :: ls)).toList.splitOn '\n' = (l :: ls).map String.toList := by
      rw [String.toList_intercalate]
      refine List.splitOn_intercalate '\n' (fun cs hcs => ?_) (by simp)
      obtain ⟨l', hl', rfl⟩ := List.mem_map.1 hcs
      exact (h l' hl').1
    rw [textLines, if_neg, hsplit]
    intro hempty
    rw [hempty] at hsplit
    obtain ⟨hl, -⟩ := List.cons.inj hsplit
    exact (h l (by simp)).2 (String.toList_eq_nil_iff.1 hl.symm)

theorem newline_not_mem_of_textLines {text : String} {l : List Char}
    (h : textLines text = [l]) : '\n' ∉ text.toList := by
  intro hmem
  obtain ⟨cs, cs', hcs⟩ := List.append_of_mem hmem
  rw [textLines] at h
  split at h
  · cases h
  · rw [hcs, List.splitOn_append_cons_self] at h
    have hlength := congrArg List.length h
    have hleft := List.length_pos_iff.2 (List.splitOn_ne_nil '\n' cs)
    have hright := List.length_pos_iff.2 (List.splitOn_ne_nil '\n' cs')
    simp only [List.length_append, List.length_singleton] at hlength
    omega

theorem textLines_of_isLine {l : String} (h : IsLine l) : textLines l = [l.toList] := by
  have hlines : ∀ l' ∈ [l], IsLine l' := by simpa using h
  simpa using textLines_intercalate hlines

theorem closed_of_readError? {path error : String}
    (h : readError? (errorLine path error).toList = some (.error path error)) :
    Closed path.toList := by
  simp only [readError?, errorLine, String.toList_append, List.append_assoc, dropPrefix?_append,
    Option.bind_eq_bind, Option.bind_some] at h
  obtain ⟨message, hmessage, h⟩ := Option.bind_eq_some_iff.1 h
  obtain ⟨colons, hrest, hcolons⟩ := List.dropPrefix?_eq_some_iff.1 hmessage
  have hpath := (Entry.error.inj (Option.some.inj h)).1
  rw [← hpath, String.toList_ofList]
  exact closed_field (by rw [hrest, eq_of_beq hcolons]; rfl)

theorem errorLine_reads_back_iff {path error : String} :
    (textLines (errorLine path error)).map read? = [some (.error path error)] ↔ IsPlain path := by
  constructor
  · intro h
    obtain ⟨l, hl, hread⟩ := List.map_eq_singleton_iff.1 h
    have hline : IsLine (errorLine path error) := by
      refine ⟨newline_not_mem_of_textLines hl, fun hempty => ?_⟩
      rw [hempty] at hl
      cases hl
    rw [textLines_of_isLine hline] at hl
    cases hl
    refine ⟨closed_of_readError? (?_ : readError? (errorLine path error).toList = _),
      fun hmem => hline.1 (by simp [errorLine, hmem])⟩
    cases herror : readError? (errorLine path error).toList with
    | none =>
      have hwarning : readWarning? (errorLine path error).toList = none := by
        simp only [readWarning?, errorLine, String.toList_append, List.append_assoc]
        rfl
      rw [read?, herror, Option.orElse_none, hwarning] at hread
      cases hread
    | some a =>
      rw [read?, herror] at hread
      exact hread
  · intro h
    have hline := says_iff.2 ⟨newline_not_mem_errorLine h.no_newline error, read?_errorLine h error⟩
    rw [textLines_of_isLine hline.1, List.map_singleton, hline.2]

/-- Reports with plain paths are written one line for each annotation, and each line gives its
annotation back, whatever the errors and the messages are. -/
theorem render_reads_back {reports : List Report} (hplain : ∀ r ∈ reports, IsPlain r.path)
    (hmessages : ∀ r ∈ reports, r.error = none → ∀ f ∈ r.findings, f.HasMessage) :
    ∃ text as, render reports = .ok text ∧ reports.mapM annotations = .ok as ∧
      (textLines text).map read? = as.flatten.map some := by
  obtain ⟨ls, as, hls, has, hsay⟩ :=
    Except.forall₂_mapM fun r hr => lines_say (hplain r hr) (hmessages r hr)
  refine ⟨"\n".intercalate ls.flatten, as, by rw [render, hls]; rfl, has, ?_⟩
  obtain ⟨hline, hread⟩ := (List.forall₂_and_left _ _).1 (List.rel_flatten hsay)
  rw [textLines_intercalate hline, List.map_map, ← List.forall₂_eq_eq_eq,
    List.forall₂_map_left_iff, List.forall₂_map_right_iff]
  exact hread

section Instances

def mixedReports : List Report :=
  [{ path := "a b%.ts", error := some "50%0A\r\nfile=x::y,\"" },
    { path := "c.js", source := some (.ofString "(a, b, c, d) => a"),
      findings := [⟨.str "ArrowFunctionExpression", ⟨0, 17⟩, Rule.messageId, [("count", .int 4)],
        none⟩] }]

theorem mixedReports_read_back :
    ∃ text as, render mixedReports = .ok text ∧ mixedReports.mapM annotations = .ok as ∧
      (textLines text).map read? = as.flatten.map some := by
  refine render_reads_back (fun r hr => ?_) fun r hr herror f hf => ?_
  · simp only [mixedReports, List.mem_cons, List.not_mem_nil, or_false] at hr
    rcases hr with rfl | rfl
    · exact ⟨.of_not_mem (by decide) (by decide), by decide⟩
    · exact ⟨.of_not_mem (by decide) (by decide), by decide⟩
  · simp only [mixedReports, List.mem_cons, List.not_mem_nil, or_false] at hr
    rcases hr with rfl | rfl
    · cases herror
    · cases List.mem_singleton.1 hf
      exact ⟨_, rfl⟩

theorem brokenPath_not_read_back :
    ∃ text, render [{ path := "a\nb.ts", error := some "boom" }] = .ok text ∧
      (textLines text).map read? = [none, none] := by
  refine ⟨_, rfl, ?_⟩
  decide

end Instances

end Github

end ArityLint
