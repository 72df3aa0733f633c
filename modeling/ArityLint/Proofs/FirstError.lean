import ArityLint.Proofs.Functions
import ArityLint.Proofs.Rounds

namespace ArityLint

namespace Concrete

variable {c d e : Concrete}

mutual

/-- How many nodes lie above one another that are searched for an error. -/
def searchHeight : Concrete → Nat
  | node _ cs => searchHeights cs + 1

def searchHeights : List Concrete → Nat
  | [] => 0
  | c :: cs =>
    max (if c.token.hasError || c.token.missing then c.searchHeight else 0) (searchHeights cs)

end

mutual

theorem exists_firstError? {levels : Nat} :
    ∀ c : Concrete, c.searchHeight ≤ levels → ∃ found, c.firstError? levels = .ok found
  | node t cs, h => by
    rw [searchHeight] at h
    obtain _ | below := levels
    · cases h
    · rw [firstError?]
      split
      · exact ⟨_, rfl⟩
      · exact exists_firstErrorIn? cs (Nat.le_of_succ_le_succ h)

theorem exists_firstErrorIn? {levels : Nat} :
    ∀ cs : List Concrete, searchHeights cs ≤ levels → ∃ found, firstErrorIn? levels cs = .ok found
  | [], _ => ⟨none, rfl⟩
  | c :: cs, h => by
    rw [searchHeights, Nat.max_le] at h
    have hrest := exists_firstErrorIn? cs h.2
    rw [firstErrorIn?]
    split
    · next hflag =>
      rw [if_pos hflag] at h
      obtain ⟨found, hfound⟩ := exists_firstError? c h.1
      rw [hfound]
      cases found with
      | none => exact hrest
      | some e => exact ⟨some e, rfl⟩
    · exact hrest

end

/-- An error is flagged at exactly the nodes that are one or have one below them. -/
def FlagsErrors (c : Concrete) : Prop :=
  ∀ d, c.Contains d → (d.token.hasError = true ↔ ∃ e, d.Contains e ∧ e.isError)

theorem FlagsErrors.child (h : c.FlagsErrors) (hd : d ∈ c.children) : d.FlagsErrors :=
  fun e he => h e (.under hd he)

theorem flagsErrors_iff :
    c.FlagsErrors ↔ ∀ d ∈ c.nodes, d.token.hasError = d.nodes.any isError := by
  simp only [FlagsErrors, ← mem_nodes]
  apply forall₂_congr
  intro d _
  rw [← List.any_eq_true, ← Bool.eq_iff_iff]

theorem FlagsErrors.of_children (hflag : c.token.hasError = true) (hc : ∃ e, c.Contains e ∧ e.isError)
    (h : ∀ d ∈ c.children, d.FlagsErrors) : c.FlagsErrors := by
  intro d hd
  cases hd with
  | self => exact iff_of_true hflag hc
  | under hmem hd => exact h _ hmem d hd

theorem FlagsErrors.of_leaf {t : Token} (h : t.hasError = (node t []).isError) :
    (node t []).FlagsErrors := by
  refine flagsErrors_iff.2 (List.forall_mem_singleton.2 ?_)
  rw [nodes, nodesIn, List.any_cons, List.any_nil, Bool.or_false, ← h, token]

theorem FlagsErrors.find?_eq_none (h : c.FlagsErrors) (hc : c.token.hasError = false) :
    c.nodes.find? isError = none := by
  rw [List.find?_eq_none]
  intro e he herror
  have hflag := (h c (.self c)).2 ⟨e, mem_nodes.1 he, herror⟩
  rw [hc] at hflag
  cases hflag

mutual

/-- A node and the nodes below it in pre-order, each with its depth; that of the first one is
given. -/
def nodesFrom (depth : Nat) : Concrete → List (Nat × Concrete)
  | node t cs => (depth, node t cs) :: nodesFromIn (depth + 1) cs

def nodesFromIn (depth : Nat) : List Concrete → List (Nat × Concrete)
  | [] => []
  | c :: cs => nodesFrom depth c ++ nodesFromIn depth cs

end

theorem nodesFromIn_eq (depth : Nat) (cs : List Concrete) :
    nodesFromIn depth cs = cs.flatMap (nodesFrom depth) := by
  induction cs with
  | nil => rfl
  | cons c cs ih => rw [nodesFromIn, ih, List.flatMap_cons]

theorem nodesFrom_eq (depth : Nat) (c : Concrete) :
    c.nodesFrom depth = (depth, c) :: c.children.flatMap (nodesFrom (depth + 1)) := by
  cases c with
  | node t cs => rw [nodesFrom, nodesFromIn_eq, children]

theorem map_snd_nodesFrom (depth : Nat) (c : Concrete) :
    (c.nodesFrom depth).map (·.2) = c.nodes := by
  induction c using induction generalizing depth with
  | h c ih =>
    rw [nodesFrom_eq, nodes_eq, List.map_cons, List.map_flatMap]
    exact congrArg _ (List.flatMap_congr fun d hd => ih d hd (depth + 1))

theorem le_of_mem_nodesFrom {k : Nat} {depth : Nat} (h : (k, d) ∈ c.nodesFrom depth) :
    depth ≤ k := by
  induction c using induction generalizing depth with
  | h c ih =>
    rw [nodesFrom_eq, List.mem_cons, List.mem_flatMap] at h
    obtain h | ⟨e, he, h⟩ := h
    · exact Nat.le_of_eq (congrArg Prod.fst h).symm
    · exact Nat.le_of_succ_le (ih e he h)

def firstFrom? (depth : Nat) (c : Concrete) : Option (Nat × Concrete) :=
  (c.nodesFrom depth).find? (·.2.isError)

theorem map_firstFrom? (depth : Nat) (c : Concrete) :
    (c.firstFrom? depth).map (·.2) = c.nodes.find? isError := by
  rw [← map_snd_nodesFrom depth, List.find?_map]
  rfl

theorem firstFrom?_eq (depth : Nat) (c : Concrete) :
    c.firstFrom? depth = if c.isError then some (depth, c)
      else (c.children.flatMap (nodesFrom (depth + 1))).find? (·.2.isError) := by
  rw [firstFrom?, nodesFrom_eq, List.find?_cons]
  cases c.isError <;> rfl

/-- The first error in pre-order, so many levels below the node. -/
def FirstError (c : Concrete) (depth : Nat) (e : Concrete) : Prop := c.firstFrom? 0 = some (depth, e)

theorem FirstError.find?_eq {depth : Nat} (h : c.FirstError depth e) :
    c.nodes.find? isError = some e := by
  rw [← map_firstFrom? 0, show c.firstFrom? 0 = _ from h]
  rfl

theorem exists_firstError (h : ∃ d, c.Contains d ∧ d.isError) : ∃ depth e, c.FirstError depth e := by
  obtain ⟨d, hd, herror⟩ := h
  have hsome : (c.firstFrom? 0).isSome := by
    rw [← Option.isSome_map (f := (·.2)), map_firstFrom?]
    exact List.find?_isSome.2 ⟨d, mem_nodes.2 hd, herror⟩
  obtain ⟨⟨depth, e⟩, he⟩ := Option.isSome_iff_exists.1 hsome
  exact ⟨depth, e, he⟩

theorem FlagsErrors.searched_eq (h : c.FlagsErrors) (depth : Nat) :
    (c.token.hasError || c.token.missing) = (c.firstFrom? depth).isSome := by
  rw [← Option.isSome_map (f := (·.2)), map_firstFrom?, Bool.eq_iff_iff, Bool.or_eq_true,
    h c (.self c), List.find?_isSome]
  simp only [mem_nodes]
  refine ⟨fun hc => hc.elim id fun hmissing => ⟨c, .self c, ?_⟩, .inl⟩
  rw [isError, hmissing, Bool.or_true]

theorem firstError?_succ (below : Nat) (c : Concrete) :
    c.firstError? (below + 1) =
      if c.isError then .ok (some c) else firstErrorIn? below c.children := by
  cases c with
  | node t cs => rw [firstError?, children]

/-- The search through some nodes, each of which is searched for its own first error. -/
theorem firstErrorIn?_eq {r : Except Fault (Option Concrete)} {levels depth k : Nat}
    (hr : r ≠ .ok none) {cs : List Concrete} (hflags : ∀ d ∈ cs, d.FlagsErrors)
    (hcs : ∀ d ∈ cs, d.firstFrom? depth = some (k, e) → d.firstError? levels = r)
    (h : (cs.flatMap (nodesFrom depth)).find? (·.2.isError) = some (k, e)) :
    firstErrorIn? levels cs = r := by
  induction cs with
  | nil => cases h
  | cons d cs ih =>
    obtain ⟨hd, hcs⟩ := List.forall_mem_cons.1 hcs
    obtain ⟨hflag, hflags⟩ := List.forall_mem_cons.1 hflags
    rw [List.flatMap_cons, List.find?_append] at h
    -- the flags tell which nodes hold an error, so no other is searched
    rw [firstErrorIn?, hflag.searched_eq depth]
    change (d.firstFrom? depth).or _ = _ at h
    cases hfirst : d.firstFrom? depth with
    | none =>
      rw [hfirst, Option.none_or] at h
      exact ih hflags hcs h
    | some first =>
      rw [hfirst] at h
      cases h
      rw [Option.isSome_some, if_pos rfl, hd hfirst]
      split
      · exact absurd rfl hr
      · rfl

/-- The search for an error finds the first one in pre-order, unless that lies too deep. -/
theorem firstError?_eq (hflags : c.FlagsErrors) {levels depth k : Nat}
    (h : c.firstFrom? depth = some (k, e)) :
    c.firstError? levels = if k < depth + levels then .ok (some e) else .error .nestedTree := by
  induction c using induction generalizing levels depth with
  | h c ih =>
    cases levels with
    | zero =>
      -- no level is left, and no error lies higher than the node itself
      have hdepth := le_of_mem_nodesFrom (List.mem_of_find?_eq_some h)
      rw [Nat.add_zero, if_neg (Nat.not_lt.2 hdepth)]
      cases c
      rfl
    | succ below =>
      rw [firstFrom?_eq] at h
      rw [firstError?_succ]
      cases herror : c.isError with
      | true =>
        rw [herror] at h
        cases h
        rw [if_pos rfl, if_pos (Nat.lt_add_of_pos_right (Nat.succ_pos below))]
      | false =>
        rw [herror] at h
        rw [if_neg Bool.false_ne_true, ← Nat.succ_add_eq_add_succ]
        have hr : (if k < depth + 1 + below then .ok (some e) else .error .nestedTree :
            Except Fault (Option Concrete)) ≠ .ok none := by
          split <;> nofun
        exact firstErrorIn?_eq hr (fun d hd => hflags.child hd)
          (fun d hd hfirst => ih d hd (hflags.child hd) hfirst) h

end Concrete

section Lines

/-- How many of the bytes before an offset are newlines. -/
def newlineBytesBefore (source : String) (offset : Nat) : Nat :=
  (source.toUTF8.data.toList.take offset).count 10

def Concrete.CountsRows (source : String) (c : Concrete) : Prop :=
  ∀ d, c.Contains d → d.token.row = newlineBytesBefore source d.start

theorem Concrete.countsRows_iff {source : String} {c : Concrete} :
    c.CountsRows source ↔ ∀ d ∈ c.nodes, d.token.row = newlineBytesBefore source d.start := by
  simp only [CountsRows, mem_nodes]

end Lines

def IsRefused {α : Type} (r : Except Error α) : Prop :=
  ∃ path language reason, r = .error (.failure (.parsing path language reason))

/-- The refusal of a text for an error on the given line. -/
def syntaxError (path language : String) (line : Nat) : Error :=
  .failure (.parsing (Path.ofString path) language ("syntax error near line " ++ toString line))

theorem syntaxError_injective {path path' language language' : String} {line line' : Nat}
    (h : syntaxError path language line = syntaxError path' language' line') : line = line' := by
  have htext := (Failure.parsing.inj (Error.failure.inj h)).2.2
  have hdigits : Nat.toDigits 10 line = Nat.toDigits 10 line' := by
    rw [← Nat.toList_repr, ← Nat.toList_repr]
    exact congrArg String.toList ((String.append_right_inj _).1 htext)
  rw [← Nat.ofDigitChars_ten_toDigits (n := line), hdigits, Nat.ofDigitChars_ten_toDigits]

section Refusal

variable {limits : Limits} {source language path : String} {c e : Concrete}

/-- What a text is answered with whose first error is known. -/
def refusal (limits : Limits) (source language path : String) (depth : Nat) (e : Concrete) : Error :=
  if depth < limits.search then
    syntaxError path language (1 + newlineBytesBefore source e.start)
  else .fault .nestedTree

theorem treeOver_of_firstError (hflags : c.FlagsErrors) (hrows : c.CountsRows source) {depth : Nat}
    (he : c.FirstError depth e) :
    treeOver limits source language path c =
      .error (refusal limits source language path depth e) := by
  have hmem := Concrete.mem_nodes.1 (List.mem_of_find?_eq_some he.find?_eq)
  have hflag : c.token.hasError = true :=
    (hflags c (.self c)).2 ⟨e, hmem, List.find?_some he.find?_eq⟩
  unfold treeOver errorLine refusal
  rw [hflag, if_pos rfl, Concrete.firstError?_eq hflags he, Nat.zero_add, Nat.add_comm 1,
    ← hrows e hmem]
  by_cases hreach : depth < limits.search
  · rw [if_pos hreach, if_pos hreach]
    rfl
  · rw [if_neg hreach, if_neg hreach]
    rfl

theorem treeOver_of_no_error (hflags : c.FlagsErrors) (hc : ¬∃ d, c.Contains d ∧ d.isError)
    (hroot : ∃ root,
      Lower.ofConcrete (Utf8.Encoded.ofString source) limits.lowering none c = .ok root) :
    ∃ t, treeOver limits source language path c = .ok t := by
  obtain ⟨root, hroot⟩ := hroot
  have hflag : c.token.hasError ≠ true := mt (hflags c (.self c)).1 hc
  unfold treeOver
  dsimp only
  rw [if_neg hflag, hroot]
  exact ⟨_, rfl⟩

end Refusal

/-- Where errors are flagged as they should be, rows count newlines and a tree without errors is
lowered, a text whose first error is within reach of the search is refused exactly when its concrete
tree holds an error. It is refused with the line of the first error, lines being counted from one;
an error out of reach ends in a fault, which is no refusal. -/
theorem treeOf_refuses_errors {g : Grammar} {lang : Language} {source language path : String}
    (hlang : Language.ofName language = .ok lang) (hflags : (g lang source).FlagsErrors)
    (hrows : (g lang source).CountsRows source)
    (hlowered : (¬∃ d, (g lang source).Contains d ∧ d.isError) → ∃ root,
      Lower.ofConcrete (Utf8.Encoded.ofString source) g.limits.lowering none (g lang source) =
        .ok root) :
    ∃ r, (treeOf g source language path).Yields r ∧
      ((∀ depth e, (g lang source).FirstError depth e → depth < g.limits.search) →
        (IsRefused r ↔ ∃ d, (g lang source).Contains d ∧ d.isError)) ∧
      (∀ depth e, (g lang source).FirstError depth e →
        r = .error (refusal g.limits source language path depth e)) ∧
      ∀ line, r = .error (syntaxError path language line) → line ≠ 0 := by
  have hyields := yields_treeOf g source language path
  rw [hlang] at hyields
  refine ⟨_, hyields, ?_⟩
  change (_ → (IsRefused (treeOver g.limits source language path (g lang source)) ↔ _)) ∧ _
  by_cases herror : ∃ d, (g lang source).Contains d ∧ d.isError
  · obtain ⟨depth, e, he⟩ := Concrete.exists_firstError herror
    have hr : treeOver g.limits source language path (g lang source) =
        .error (refusal g.limits source language path depth e) :=
      treeOver_of_firstError hflags hrows he
    refine ⟨fun hreach => ?_, ?_, ?_⟩
    · rw [refusal, if_pos (hreach depth e he)] at hr
      exact iff_of_true ⟨_, _, _, hr⟩ herror
    · intro depth' e' he'
      obtain ⟨rfl, rfl⟩ := Prod.mk.inj (Option.some.inj (he.symm.trans he'))
      exact hr
    · intro line hline
      have heq := Except.error.inj (hr.symm.trans hline)
      unfold refusal at heq
      split at heq
      · have hcount := syntaxError_injective heq
        omega
      · cases heq
  · obtain ⟨t, ht⟩ : ∃ t, treeOver g.limits source language path (g lang source) = .ok t :=
      treeOver_of_no_error hflags herror (hlowered herror)
    refine ⟨fun _ => iff_of_false ?_ herror, ?_, ?_⟩
    · rintro ⟨_, _, _, hr⟩
      cases ht.symm.trans hr
    · intro depth e he
      exact absurd ⟨e, Concrete.mem_nodes.1 (List.mem_of_find?_eq_some he.find?_eq),
        List.find?_some he.find?_eq⟩ herror
    · intro line hline
      cases ht.symm.trans hline

section Instances

def flawedToken (kind : String) (start stop row : Nat) (field : Option String) : Token :=
  ⟨kind, true, false, true, start, stop, row, field⟩

def missingBracket : Concrete := .node ⟨")", false, true, true, 7, 7, 2, none⟩ []

/-- A call without its closing bracket, and a line that makes no sense after it. -/
def unclosedTree : Concrete :=
  .node (flawedToken "program" 0 10 0 none)
    [.node (token "identifier" 0 1 none) [],
      .node (flawedToken "call_expression" 5 8 2 none)
        [.node { token "identifier" 5 6 (some "function") with row := 2 } [],
          .node (flawedToken "arguments" 6 7 2 (some "arguments"))
            [.node { (mark "(" 6).token with row := 2 } [], missingBracket]],
      .node (flawedToken "ERROR" 9 10 3 none) []]

def unclosedSource : String := "a;\n;\ng(;\n)"

theorem flagsErrors_unclosedTree : unclosedTree.FlagsErrors :=
  Concrete.flagsErrors_iff.2 (by decide)

theorem countsRows_unclosedTree : unclosedTree.CountsRows unclosedSource :=
  Concrete.countsRows_iff.2 (by decide +kernel)

theorem unclosedTree_is_refused :
    Language.ofName Language.javascript.name = .ok .javascript ∧ unclosedTree.FlagsErrors ∧
      unclosedTree.CountsRows unclosedSource ∧
      ∃ r, (treeOf (.constant unclosedTree) unclosedSource Language.javascript.name "a.js").Yields
          r ∧ IsRefused r ∧ r = .error (syntaxError "a.js" Language.javascript.name 3) := by
  have hfirst : unclosedTree.FirstError 3 missingBracket := rfl
  have hmem := Concrete.mem_nodes.1 (List.mem_of_find?_eq_some hfirst.find?_eq)
  have hlang : Language.ofName Language.javascript.name = .ok .javascript := rfl
  have herror : ∃ d, unclosedTree.Contains d ∧ d.isError :=
    ⟨_, hmem, List.find?_some hfirst.find?_eq⟩
  obtain ⟨r, hyields, hrefused, hline, _⟩ :=
    @treeOf_refuses_errors (.constant unclosedTree) .javascript unclosedSource _ "a.js" hlang
      flagsErrors_unclosedTree countsRows_unclosedTree fun h => absurd herror h
  have hreach : ∀ depth e, unclosedTree.FirstError depth e → depth < wideLimits.search := by
    intro depth e he
    obtain ⟨rfl, _⟩ := Prod.mk.inj (Option.some.inj (hfirst.symm.trans he))
    decide
  exact ⟨hlang, flagsErrors_unclosedTree, countsRows_unclosedTree, r, hyields,
    (hrefused hreach).2 herror, hline _ _ hfirst⟩

def buriedError (start : Nat) : Nat → List Concrete
  | 0 =>
    [.node (token "identifier" start (start + 1) none) [],
      .node (flawedToken "ERROR" (start + 2) (start + 3) 0 none)
        [.node (token "identifier" (start + 2) (start + 3) none) []]]
  | n + 1 =>
    [.node (flawedToken "parenthesized_expression" start (start + 2 * n + 5) 0 none)
      (mark "(" start :: buriedError (start + 1) n ++ [mark ")" (start + 2 * n + 4)])]

def buriedTree (n : Nat) : Concrete :=
  .node (flawedToken "program" 0 (2 * n + 3) 0 none)
    [.node (flawedToken "expression_statement" 0 (2 * n + 3) 0 none) (buriedError 0 n)]

def buriedSource (n : Nat) : String :=
  String.ofList (List.replicate n '(' ++ ("a b".toList ++ List.replicate n ')'))

theorem exists_mem_buriedError (start n : Nat) :
    ∃ d ∈ buriedError start n, ∃ e, d.Contains e ∧ e.isError := by
  induction n generalizing start with
  | zero => exact ⟨_, .tail _ (.head _), _, .self _, rfl⟩
  | succ n ih =>
    obtain ⟨d, hd, e, he, herror⟩ := ih (start + 1)
    exact ⟨_, .head _, e, .under (List.mem_append_left _ (.tail _ hd)) he, herror⟩

theorem flagsErrors_buriedError (start n : Nat) : ∀ d ∈ buriedError start n, d.FlagsErrors := by
  induction n generalizing start with
  | zero =>
    refine List.forall_mem_cons.2 ⟨.of_leaf rfl, List.forall_mem_singleton.2 ?_⟩
    exact .of_children rfl ⟨_, .self _, rfl⟩ (List.forall_mem_singleton.2 (.of_leaf rfl))
  | succ n ih =>
    obtain ⟨d, hd, e, he, herror⟩ := exists_mem_buriedError (start + 1) n
    refine List.forall_mem_singleton.2 (.of_children rfl
      ⟨e, .under (List.mem_append_left _ (.tail _ hd)) he, herror⟩ fun d hd => ?_)
    obtain hd | hd := List.mem_append.1 hd
    · obtain rfl | hd := List.mem_cons.1 hd
      · exact .of_leaf rfl
      · exact ih (start + 1) d hd
    · obtain rfl := List.mem_singleton.1 hd
      exact .of_leaf rfl

theorem flagsErrors_buriedTree (n : Nat) : (buriedTree n).FlagsErrors := by
  obtain ⟨d, hd, e, he, herror⟩ := exists_mem_buriedError 0 n
  refine .of_children rfl ⟨e, .under (.head _) (.under hd he), herror⟩ (List.forall_mem_singleton.2 ?_)
  exact .of_children rfl ⟨e, .under hd he, herror⟩ (flagsErrors_buriedError 0 n)

theorem find?_buriedError (start n depth : Nat) :
    ∃ e, ((buriedError start n).flatMap (Concrete.nodesFrom depth)).find? (·.2.isError) =
      some (depth + n, e) := by
  induction n generalizing start depth with
  | zero => exact ⟨_, rfl⟩
  | succ n ih =>
    obtain ⟨e, he⟩ := ih (start + 1) (depth + 1)
    refine ⟨e, ?_⟩
    rw [buriedError, List.flatMap_singleton, Concrete.nodesFrom_eq,
      List.find?_cons_of_neg (by exact Bool.false_ne_true)]
    change List.find? _ (List.flatMap _ (_ :: (_ ++ _))) = _
    rw [List.flatMap_cons, List.flatMap_append, List.find?_append, List.find?_append, he,
      Nat.add_right_comm, Nat.add_assoc depth]
    rfl

theorem firstError_buriedTree (n : Nat) : ∃ e, (buriedTree n).FirstError (2 + n) e := by
  obtain ⟨e, he⟩ := find?_buriedError 0 n 2
  refine ⟨e, ?_⟩
  change Concrete.firstFrom? 0 (.node _ [.node _ _]) = _
  rw [Concrete.firstFrom?_eq, if_neg (by exact Bool.false_ne_true), Concrete.children,
    List.flatMap_singleton, Concrete.nodesFrom_eq,
    List.find?_cons_of_neg (by exact Bool.false_ne_true)]
  exact he

theorem row_buriedError (start n : Nat) :
    ∀ d ∈ (buriedError start n).flatMap Concrete.nodes, d.token.row = 0 := by
  induction n generalizing start with
  | zero => simp [buriedError, Concrete.nodes, Concrete.nodesIn, flawedToken, token, Concrete.token]
  | succ n ih =>
    intro d hd
    rw [buriedError, List.flatMap_singleton, Concrete.nodes_eq, List.mem_cons] at hd
    obtain rfl | hd := hd
    · rfl
    · change d ∈ List.flatMap _ (_ :: (_ ++ _)) at hd
      rw [List.flatMap_cons, List.flatMap_append, List.mem_append, List.mem_append] at hd
      obtain hd | hd | hd := hd
      · obtain rfl := List.mem_singleton.1 hd
        rfl
      · exact ih _ d hd
      · obtain rfl := List.mem_singleton.1 hd
        rfl

theorem newlineBytesBefore_buriedSource (n offset : Nat) :
    newlineBytesBefore (buriedSource n) offset = 0 := by
  have hbytes : (buriedSource n).toUTF8.data.toList = (buriedSource n).toList.flatMap
      String.utf8EncodeChar := by
    rw [String.toUTF8_eq_toByteArray, ← String.utf8Encode_toList, List.utf8Encode]
    simp
  have hplain : ∀ c ∈ "a b".toList, 10 ∉ String.utf8EncodeChar c := by
    change ∀ c ∈ ['a', ' ', 'b'], _
    simp only [List.forall_mem_cons]
    exact ⟨by decide, by decide, by decide, nofun⟩
  refine List.count_eq_zero.2 fun hmem => ?_
  have hbyte := List.mem_of_mem_take hmem
  rw [hbytes, List.mem_flatMap] at hbyte
  obtain ⟨c, hc, hbyte⟩ := hbyte
  rw [buriedSource, String.toList_ofList, List.mem_append, List.mem_append] at hc
  obtain hc | hc | hc := hc
  · rw [List.eq_of_mem_replicate hc] at hbyte
    exact absurd hbyte (by decide)
  · exact hplain c hc hbyte
  · rw [List.eq_of_mem_replicate hc] at hbyte
    exact absurd hbyte (by decide)

theorem countsRows_buriedTree (n : Nat) : (buriedTree n).CountsRows (buriedSource n) := by
  refine Concrete.countsRows_iff.2 fun d hd => ?_
  rw [newlineBytesBefore_buriedSource]
  rw [buriedTree, Concrete.nodes_eq, Concrete.children, List.flatMap_singleton, Concrete.nodes_eq,
    List.mem_cons, List.mem_cons] at hd
  obtain rfl | rfl | hd := hd
  · rfl
  · rfl
  · exact row_buriedError 0 n d hd

theorem yields_treeOf_constant (c : Concrete) (source path : String) :
    (treeOf (.constant c) source Language.javascript.name path).Yields
      (treeOver wideLimits source Language.javascript.name path c) :=
  yields_treeOf (.constant c) source Language.javascript.name path

/-- An error out of reach of the search is not refused. -/
theorem buriedTree_is_not_refused :
    Language.ofName Language.javascript.name = .ok .javascript ∧ (buriedTree 1600).FlagsErrors ∧
      (buriedTree 1600).CountsRows (buriedSource 1600) ∧
      (∃ d, (buriedTree 1600).Contains d ∧ d.isError) ∧
      ∃ r, (treeOf (.constant (buriedTree 1600)) (buriedSource 1600) Language.javascript.name
          "a.js").Yields r ∧ ¬IsRefused r := by
  obtain ⟨e, he⟩ := firstError_buriedTree 1600
  have herror : ∃ d, (buriedTree 1600).Contains d ∧ d.isError :=
    ⟨e, Concrete.mem_nodes.1 (List.mem_of_find?_eq_some he.find?_eq), List.find?_some he.find?_eq⟩
  have hfault : treeOver wideLimits (buriedSource 1600) Language.javascript.name "a.js"
      (buriedTree 1600) = .error (.fault .nestedTree) := by
    rw [treeOver_of_firstError (flagsErrors_buriedTree 1600) (countsRows_buriedTree 1600) he,
      refusal, if_neg (by decide)]
  have hyields := yields_treeOf_constant (buriedTree 1600) (buriedSource 1600) "a.js"
  rw [hfault] at hyields
  exact ⟨rfl, flagsErrors_buriedTree 1600, countsRows_buriedTree 1600, herror, _, hyields, nofun⟩

end Instances

end ArityLint
