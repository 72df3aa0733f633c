import Mathlib.Data.List.Basic

namespace ArityLint.Brackets

def closing? : Char → Option Char
  | '(' => some ')'
  | '[' => some ']'
  | '{' => some '}'
  | _ => none

def isClosing (c : Char) : Bool := c = ')' || c = ']' || c = '}'

/-- The closing brackets owed after a character; nothing when it closes another bracket than the
innermost one. -/
def owe (owed : List Char) (c : Char) : Option (List Char) :=
  match closing? c with
  | some d => some (d :: owed)
  | none =>
    if isClosing c then
      if owed.head? = some c then some owed.tail else none
    else some owed

def oweAll (owed cs : List Char) : Option (List Char) := cs.foldlM owe owed

/-- Every bracket is closed by its own kind, and no other is. -/
def Balanced (cs : List Char) : Prop := oweAll [] cs = some []

instance (cs : List Char) : Decidable (Balanced cs) :=
  show Decidable (oweAll [] cs = some []) from inferInstance

/-- Does a character stand within brackets wherever it stands? -/
def encloses (sep : Char) (owed : List Char) : List Char → Bool
  | [] => true
  | c :: cs => (c ≠ sep || !owed.isEmpty) && encloses sep ((owe owed c).getD owed) cs

/-- The pieces of a text between the separators, each followed by a blank, outside all brackets. -/
def splitOutside (sep : Char) (owed : List Char) : List Char → List (List Char)
  | [] => [[]]
  | [c] => [[c]]
  | c :: d :: cs =>
    if owed.isEmpty && c = sep && d = ' ' then [] :: splitOutside sep [] cs
    else (splitOutside sep ((owe owed c).getD owed) (d :: cs)).modifyHead (c :: ·)

/-- The text up to the bracket that closes the last one owed, and the text after it. -/
def untilClosed (owed : List Char) : List Char → Option (List Char × List Char)
  | [] => none
  | c :: cs =>
    match owe owed c with
    | none => none
    | some [] => some ([], cs)
    | some now => (untilClosed now cs).map fun (inside, after) => (c :: inside, after)

def unpadded? : List Char → Option (List Char)
  | ' ' :: cs => if cs.getLast? = some ' ' then some cs.dropLast else none
  | _ => none

/-- What stands in a block of braces, with a blank inside each, and what comes after it. -/
def block? : List Char → Option (List Char × List Char)
  | '{' :: cs => (untilClosed ['}'] cs).bind fun (inside, after) =>
      (unpadded? inside).map (·, after)
  | _ => none

/-- A text cut at the first place where a mark stands in it. -/
def cutAt (mark : List Char) : List Char → Option (List Char × List Char)
  | [] => none
  | c :: cs =>
    if mark.isPrefixOf (c :: cs) then some ([], (c :: cs).drop mark.length)
    else (cutAt mark cs).map fun (before, after) => (c :: before, after)

section Balance

variable {owed now more cs ds : List Char} {c sep : Char}

theorem owe_append (h : owe owed c = some now) : owe (owed ++ more) c = some (now ++ more) := by
  unfold owe at *
  cases hc : closing? c with
  | some d =>
    rw [hc] at h
    cases h
    rfl
  | none =>
    rw [hc] at h
    by_cases hclosing : isClosing c
    · simp only [hclosing, if_true, Option.ite_none_right_eq_some] at h ⊢
      cases owed with
      | nil => cases h.1
      | cons d owed => exact ⟨h.1, congrArg (some <| · ++ more) (Option.some.inj h.2)⟩
    · simp only [hclosing] at h ⊢
      cases h
      rfl

theorem oweAll_cons_eq_some {last : List Char} :
    oweAll owed (c :: cs) = some last ↔ ∃ now, owe owed c = some now ∧ oweAll now cs = some last :=
  Option.bind_eq_some_iff

theorem oweAll_append (h : oweAll owed cs = some now) : oweAll owed (cs ++ ds) = oweAll now ds := by
  unfold oweAll at *
  rw [List.foldlM_append, h]
  rfl

theorem encloses_append (h : oweAll owed cs = some now) :
    encloses sep owed (cs ++ ds) = (encloses sep owed cs && encloses sep now ds) := by
  induction cs generalizing owed with
  | nil =>
    cases h
    rfl
  | cons c cs ih =>
    obtain ⟨next, hnext, h⟩ := oweAll_cons_eq_some.1 h
    rw [List.cons_append, encloses, encloses, hnext, Option.getD_some, ih h, Bool.and_assoc]

theorem encloses_of_notMem (h : sep ∉ cs) : encloses sep owed cs = true := by
  induction cs generalizing owed with
  | nil => rfl
  | cons c cs ih =>
    rw [List.mem_cons, not_or] at h
    obtain ⟨hc, hcs⟩ := h
    rw [encloses, ih hcs]
    simp [Ne.symm hc]

/-- The brackets match, and every separator stands within some. -/
def IsPiece (sep : Char) (cs : List Char) : Prop := Balanced cs ∧ encloses sep [] cs

instance (sep : Char) (cs : List Char) : Decidable (IsPiece sep cs) :=
  show Decidable (_ ∧ _) from inferInstance

theorem Balanced.append (h : Balanced cs) (h' : Balanced ds) : Balanced (cs ++ ds) :=
  (oweAll_append h).trans h'

theorem IsPiece.append (h : IsPiece sep cs) (h' : IsPiece sep ds) : IsPiece sep (cs ++ ds) := by
  refine ⟨h.1.append h'.1, ?_⟩
  rw [encloses_append h.1, h.2, h'.2]
  rfl

theorem balanced_intercalate {mark : List Char} (hmark : Balanced mark) {pieces : List (List Char)}
    (h : ∀ p ∈ pieces, Balanced p) : Balanced (mark.intercalate pieces) := by
  induction pieces with
  | nil => rfl
  | cons p pieces ih =>
    obtain ⟨hp, hpieces⟩ := List.forall_mem_cons.1 h
    cases pieces with
    | nil =>
      rw [List.intercalate_singleton]
      exact hp
    | cons q pieces =>
      rw [List.intercalate_cons_cons]
      exact (hp.append hmark).append (ih hpieces)

end Balance

section Splitting

variable {owed cs : List Char} {c sep : Char}

theorem splitOutside_cons {now : List Char} (hc : (c ≠ sep || !owed.isEmpty) = true)
    (hnow : owe owed c = some now) :
    splitOutside sep owed (c :: cs) = (splitOutside sep now cs).modifyHead (c :: ·) := by
  cases cs with
  | nil => rfl
  | cons d cs =>
    rw [splitOutside, if_neg, hnow, Option.getD_some]
    simp only [Bool.or_eq_true, decide_eq_true_eq, Bool.not_eq_true'] at hc
    rcases hc with hc | hc <;> simp [hc]

theorem splitOutside_append (h : oweAll owed cs = some []) (hsep : encloses sep owed cs)
    {ds first : List Char} {others : List (List Char)}
    (hds : splitOutside sep [] ds = first :: others) :
    splitOutside sep owed (cs ++ ds) = (cs ++ first) :: others := by
  -- the brackets opened so far stay owed, so the induction is for whatever is owed
  induction cs generalizing owed with
  | nil =>
    cases h
    exact hds
  | cons c cs ih =>
    obtain ⟨now, hnow, h⟩ := oweAll_cons_eq_some.1 h
    rw [encloses, hnow, Option.getD_some, Bool.and_eq_true] at hsep
    rw [List.cons_append, splitOutside_cons hsep.1 hnow, ih h hsep.2]
    rfl

theorem splitOutside_intercalate {pieces : List (List Char)} (hne : pieces ≠ [])
    (h : ∀ p ∈ pieces, IsPiece sep p) :
    splitOutside sep [] ([sep, ' '].intercalate pieces) = pieces := by
  induction pieces with
  | nil => exact absurd rfl hne
  | cons p pieces ih =>
    obtain ⟨hp, hpieces⟩ := List.forall_mem_cons.1 h
    cases pieces with
    | nil =>
      have hpiece : splitOutside sep [] (p ++ []) = [p ++ []] := splitOutside_append hp.1 hp.2 rfl
      rw [List.append_nil] at hpiece
      rw [List.intercalate_singleton]
      exact hpiece
    | cons q pieces =>
      have hrest : splitOutside sep [] ([sep, ' '] ++ [sep, ' '].intercalate (q :: pieces)) =
          [] :: q :: pieces := by
        rw [List.cons_append, List.cons_append, List.nil_append, splitOutside, if_pos (by simp),
          ih (List.cons_ne_nil q pieces) hpieces]
      rw [List.intercalate_cons_cons, List.append_assoc, splitOutside_append hp.1 hp.2 hrest,
        List.append_nil]

end Splitting

section Blocks

variable {owed now cs ds : List Char}

theorem untilClosed_append {d : Char} (h : oweAll owed cs = some now) :
    untilClosed (owed ++ [d]) (cs ++ ds) =
      (untilClosed (now ++ [d]) ds).map fun (inside, after) => (cs ++ inside, after) := by
  induction cs generalizing owed with
  | nil =>
    cases h
    exact (Option.map_id' ..).symm
  | cons c cs ih =>
    obtain ⟨next, hnext, h⟩ := oweAll_cons_eq_some.1 h
    have hstep : untilClosed (owed ++ [d]) (c :: (cs ++ ds)) =
        (untilClosed (next ++ [d]) (cs ++ ds)).map fun (inside, after) => (c :: inside, after) := by
      rw [untilClosed, owe_append hnext]
      cases next <;> rfl
    rw [List.cons_append, hstep, ih h, Option.map_map]
    rfl

theorem unpadded?_padded (cs : List Char) : unpadded? (' ' :: (cs ++ [' '])) = some cs := by
  simp [unpadded?]

theorem block?_append (h : Balanced cs) (ds : List Char) :
    block? ('{' :: ' ' :: (cs ++ ' ' :: '}' :: ds)) = some (cs, ds) := by
  have hblank : Balanced [' '] := rfl
  have hpadded : Balanced (' ' :: (cs ++ [' '])) := hblank.append (h.append hblank)
  have hclosed : untilClosed ([] ++ ['}']) (' ' :: (cs ++ [' ']) ++ '}' :: ds) = _ :=
    untilClosed_append hpadded
  have hinside : ' ' :: (cs ++ ' ' :: '}' :: ds) = ' ' :: (cs ++ [' ']) ++ '}' :: ds := by simp
  rw [hinside]
  change (untilClosed ([] ++ ['}']) _).bind _ = _
  rw [hclosed]
  change (unpadded? (' ' :: (cs ++ [' ']) ++ [])).map (·, ds) = _
  rw [List.append_nil, unpadded?_padded]
  rfl

end Blocks

section Cutting

variable {m : Char} {mark cs ds : List Char}

theorem cutAt_append (h : m ∉ cs) :
    cutAt (m :: mark) (cs ++ (m :: mark) ++ ds) = some (cs, ds) := by
  induction cs with
  | nil => simp [cutAt]
  | cons c cs ih =>
    rw [List.mem_cons, not_or] at h
    obtain ⟨hc, hcs⟩ := h
    rw [List.cons_append, List.cons_append, cutAt, if_neg (by simp [hc]), ih hcs]
    rfl

theorem cutAt_eq_none (h : m ∉ cs) : cutAt (m :: mark) cs = none := by
  induction cs with
  | nil => rfl
  | cons c cs ih =>
    rw [List.mem_cons, not_or] at h
    obtain ⟨hc, hcs⟩ := h
    rw [cutAt, if_neg (by simp [hc]), ih hcs]
    rfl

end Cutting

end ArityLint.Brackets
