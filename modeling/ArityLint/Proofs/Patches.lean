import ArityLint.Proofs.Edits

namespace ArityLint

/-- The text `cs`, which starts at offset `i`, becomes `out` by replacing the ranges of the edits,
in their order, and nothing else. -/
inductive Patched : Nat → List Char → List Edit → List Char → Prop
  | rest (i : Nat) (cs : List Char) : Patched i cs [] cs
  | edit {i : Nat} {kept old cs out : List Char} {e : Edit} {es : List Edit} :
      e.span = ⟨(i + kept.length : Nat), (i + kept.length + old.length : Nat)⟩ →
      Patched (i + kept.length + old.length) cs es out →
      Patched i (kept ++ (old ++ cs)) (e :: es) (kept ++ (e.text.toList ++ out))

theorem Patched.suffix {i k : Nat} {cs out : List Char} {es : List Edit} (h : Patched i cs es out)
    (hstop : ∀ e ∈ es, e.span.stop ≤ k) (hik : i ≤ k) : cs.drop (k - i) <:+ out := by
  induction h with
  | rest i cs => exact List.drop_suffix _ _
  | @edit i kept old cs out e es hspan _ ih =>
    obtain ⟨he, hstop⟩ := List.forall_mem_cons.1 hstop
    rw [hspan] at he
    dsimp only at he
    have hle : i + kept.length + old.length ≤ k := by omega
    have hdrop : (kept ++ (old ++ cs)).drop (k - i) =
        cs.drop (k - (i + kept.length + old.length)) := by
      have hsplit : k - i = (kept ++ old).length + (k - (i + kept.length + old.length)) := by
        rw [List.length_append]
        omega
      rw [← List.append_assoc, hsplit, List.drop_length_add_append]
    rw [hdrop]
    have hrest := (ih hstop hle).trans (List.suffix_append e.text.toList out)
    exact hrest.trans (List.suffix_append kept _)

theorem drop_eq_append {α : Type} {xs : List α} {i j : Nat} (hij : i ≤ j) (hj : j ≤ xs.length) :
    xs.drop i = (xs.take j).drop i ++ xs.drop j := by
  have hi : i ≤ (xs.take j).length := by
    rw [List.length_take_of_le hj]
    exact hij
  rw [← List.drop_append_of_le_length hi, List.take_append_drop]

theorem patched_splice {source : List Char} {es : List Edit} {i : Nat} (hi : i ≤ source.length)
    (hle : ∀ e ∈ es, e.span.start ≤ e.span.stop) (hstop : ∀ e ∈ es, e.span.stop ≤ source.length)
    (hstart : ∀ e ∈ es, i ≤ e.span.start)
    (hes : es.Pairwise fun a b => a.span.stop ≤ b.span.start) :
    Patched i (source.drop i) es (splice source i es) := by
  induction es generalizing i with
  | nil =>
    rw [splice, Text.cutFrom, Text.place_natCast hi]
    exact .rest i _
  | cons e es ih =>
    obtain ⟨hle_e, hle⟩ := List.forall_mem_cons.1 hle
    obtain ⟨hstop_e, hstop⟩ := List.forall_mem_cons.1 hstop
    obtain ⟨hstart_e, _⟩ := List.forall_mem_cons.1 hstart
    obtain ⟨hfollow, hes⟩ := List.pairwise_cons.1 hes
    obtain ⟨a, ha⟩ : ∃ a : Nat, e.span.start = a := ⟨_, (Int.toNat_of_nonneg (by omega)).symm⟩
    obtain ⟨b, hb⟩ : ∃ b : Nat, e.span.stop = b := ⟨_, (Int.toNat_of_nonneg (by omega)).symm⟩
    have hia : i ≤ a := by omega
    have hab : a ≤ b := by omega
    have hbn : b ≤ source.length := by omega
    -- up to the edit the text is kept, then comes what the edit replaces
    have hkept : Text.cut source i e.span.start = (source.take a).drop i := by
      rw [Text.cut, ha, Text.place_natCast hi, Text.place_natCast (by omega)]
    have ha' : i + ((source.take a).drop i).length = a := by
      rw [List.length_drop, List.length_take]
      omega
    have hb' : a + ((source.take b).drop a).length = b := by
      rw [List.length_drop, List.length_take]
      omega
    rw [splice, hkept, drop_eq_append hia (by omega), drop_eq_append hab hbn]
    refine .edit ?_ ?_
    · rw [ha', hb', ← ha, ← hb]
    · rw [ha', hb', hb]
      exact ih hbn hle hstop (fun f hf => hb ▸ hfollow f hf) hes

theorem mem_of_mem_acceptedFrom {cursor : Int} {es : List Edit} {e : Edit}
    (h : e ∈ acceptedFrom cursor es) : e ∈ es := by
  induction es generalizing cursor with
  | nil => exact h
  | cons a es ih =>
    rw [acceptedFrom] at h
    split at h
    · exact List.mem_cons_of_mem _ (ih h)
    · rcases List.mem_cons.1 h with rfl | h
      · exact List.mem_cons_self
      · exact List.mem_cons_of_mem _ (ih h)

theorem mem_of_mem_accepted {edits : List Edit} {e : Edit} (h : e ∈ accepted edits) : e ∈ edits :=
  (List.mergeSort_perm _ _).mem_iff.1 (mem_of_mem_acceptedFrom h)

/-- The range of the edit lies in a text of `n` characters. -/
def Edit.Fits (e : Edit) (n : Nat) : Prop :=
  0 ≤ e.span.start ∧ e.span.start ≤ e.span.stop ∧ e.span.stop ≤ n

/-- What is accepted of edits that lie in the text is put in place and nothing else changes. -/
theorem patched_accepted {source : String} {edits : List Edit}
    (h : ∀ e ∈ edits, e.Fits source.length) :
    Patched 0 source.toList (accepted edits) (splice source.toList 0 (accepted edits)) := by
  have hfits : ∀ e ∈ accepted edits, e.Fits source.length := fun e he => h e (mem_of_mem_accepted he)
  have hpair : (accepted edits).Pairwise fun a b => a.span.stop ≤ b.span.start := by
    refine (pairwise_acceptedFrom_of_le fun a ha => ?_).2
    exact (h a ((List.mergeSort_perm _ _).mem_iff.1 ha)).2.1
  exact patched_splice (Nat.zero_le _) (fun e he => (hfits e he).2.1)
    (fun e he => String.length_toList ▸ (hfits e he).2.2) (fun e he => (hfits e he).1) hpair

/-- Applying edits that lie in the text replaces some of their ranges and keeps all else. -/
theorem applyEdits_keeps {source : String} {edits : List Edit}
    (h : ∀ e ∈ edits, e.Fits source.length) :
    ∃ es out, (∀ e ∈ es, e ∈ edits) ∧
      applyEdits source edits = (String.ofList out, es.length) ∧
      Patched 0 source.toList es out :=
  ⟨accepted edits, _, fun _ he => mem_of_mem_accepted he, applyEdits_eq source edits,
    patched_accepted h⟩

end ArityLint
