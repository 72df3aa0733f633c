import ArityLint.Proofs.Run
import ArityLint.Value.Toml
import Mathlib.Data.List.Nodup

namespace ArityLint

section Fields

variable {α : Type} {fields more : List (String × α)}

theorem lookup_cons_ite (key k : String) (v : α) (fields : List (String × α)) :
    ((key, v) :: fields).lookup k = if k = key then some v else fields.lookup k := by
  rw [List.lookup_cons]
  by_cases hk : k = key
  · rw [if_pos hk, beq_iff_eq.2 hk]
  · rw [if_neg hk, beq_false_of_ne hk]

theorem lookup_eq_none_of_notMem {k : String} (h : k ∉ fields.map (·.1)) :
    fields.lookup k = none := by
  refine List.lookup_eq_none_iff.2 fun f hf => bne_iff_ne.2 fun heq => h ?_
  rw [heq]
  exact List.mem_map_of_mem hf

theorem lookup_setField (fields : List (String × α)) (key : String) (v : α) (k : String) :
    (setField fields key v).lookup k = if k = key then some v else fields.lookup k := by
  induction fields with
  | nil => exact lookup_cons_ite key k v []
  | cons f fields ih =>
    obtain ⟨j, w⟩ := f
    rw [setField]
    split
    · next hj =>
      subst hj
      rw [lookup_cons_ite, lookup_cons_ite]
      split <;> rfl
    · next hj =>
      rw [lookup_cons_ite, lookup_cons_ite, ih]
      by_cases hk : k = j
      · rw [if_pos hk, if_pos hk, if_neg (hk ▸ hj)]
      · rw [if_neg hk, if_neg hk]

theorem mem_keys_setField {key k : String} {v : α}
    (h : k ∈ (setField fields key v).map (·.1)) : k = key ∨ k ∈ fields.map (·.1) := by
  induction fields with
  | nil => exact .inl (List.mem_singleton.1 h)
  | cons f fields ih =>
    rw [setField] at h
    split at h
    · exact .inr h
    · rcases List.mem_cons.1 h with rfl | h
      · exact .inr List.mem_cons_self
      · exact (ih h).imp id (List.mem_cons_of_mem _)

theorem nodup_setField (h : (fields.map (·.1)).Nodup) (key : String) (v : α) :
    ((setField fields key v).map (·.1)).Nodup := by
  induction fields with
  | nil => exact List.nodup_singleton key
  | cons f fields ih =>
    obtain ⟨hf, hfields⟩ := List.nodup_cons.1 h
    rw [setField]
    split
    · exact h
    · next hkey =>
      refine List.nodup_cons.2 ⟨fun hmem => ?_, ih hfields⟩
      exact (mem_keys_setField hmem).elim hkey hf

theorem lookup_setFields (hmore : (more.map (·.1)).Nodup) (k : String) :
    (setFields fields more).lookup k = (more.lookup k).or (fields.lookup k) := by
  induction more generalizing fields with
  | nil => rfl
  | cons f more ih =>
    obtain ⟨key, v⟩ := f
    obtain ⟨hf, hmore⟩ := List.nodup_cons.1 hmore
    change (setFields (setField fields key v) more).lookup k = _
    rw [ih hmore, lookup_setField, lookup_cons_ite]
    by_cases hk : k = key
    · rw [if_pos hk, if_pos hk, lookup_eq_none_of_notMem (hk ▸ hf), Option.none_or, Option.some_or]
    · rw [if_neg hk, if_neg hk]

theorem lookup_filter_key (p : String → Bool) (fields : List (String × α)) (k : String) :
    (fields.filter fun f => p f.1).lookup k = if p k then fields.lookup k else none := by
  induction fields with
  | nil => simp
  | cons f fields ih =>
    obtain ⟨j, v⟩ := f
    rw [List.filter_cons, lookup_cons_ite]
    by_cases hk : k = j
    · subst hk
      by_cases hp : p k <;> simp [hp, ih]
    · split <;> simp [hk, ih, lookup_cons_ite]

theorem lookup_filter_value (p : α → Bool) (h : (fields.map (·.1)).Nodup) (k : String) :
    (fields.filter fun f => p f.2).lookup k = (fields.lookup k).filter p := by
  induction fields with
  | nil => rfl
  | cons f fields ih =>
    obtain ⟨j, v⟩ := f
    obtain ⟨hf, hfields⟩ := List.nodup_cons.1 h
    rw [List.filter_cons, lookup_cons_ite]
    by_cases hk : k = j
    · subst hk
      by_cases hp : p v <;>
        simp [hp, ih hfields, lookup_eq_none_of_notMem hf, Option.filter]
    · split <;> simp [hk, ih hfields, lookup_cons_ite]

end Fields

namespace Toml

theorem exists_setField_of_put {number : Nat} {v : Value} {key : List String} {items now : Items}
    (h : put number v key items = some now) : ∃ k i, now = setField items k i := by
  unfold put at h
  split at h
  · cases h
  · split at h <;> cases h
    exact ⟨_, _, rfl⟩
  · split at h
    · obtain ⟨inner, _, h⟩ := Option.bind_eq_some_iff.1 h
      cases h
      exact ⟨_, _, rfl⟩
    · split at h
      · obtain ⟨inner, _, h⟩ := Option.bind_eq_some_iff.1 h
        cases h
        exact ⟨_, _, rfl⟩
      · cases h
    · cases h

theorem exists_setField_of_alter {f : Option Item → Option Item} {header : List String}
    {items now : Items} (h : alter f header items = some now) : ∃ k i, now = setField items k i := by
  unfold alter at h
  split at h
  · cases h
  · obtain ⟨item, _, h⟩ := Option.bind_eq_some_iff.1 h
    cases h
    exact ⟨_, _, rfl⟩
  · split at h
    iterate 3
      obtain ⟨inner, _, h⟩ := Option.bind_eq_some_iff.1 h
      cases h
      exact ⟨_, _, rfl⟩
    cases h

theorem keys_fieldsOf (items : Items) : (fieldsOf items).map (·.1) = items.map (·.1) := by
  induction items with
  | nil => rfl
  | cons f items ih =>
    rw [fieldsOf, List.map_cons, List.map_cons, ih]

theorem exists_setField_of_assign {s now : State} {key : List String} {v : Value}
    (h : s.assign key v = some now) : ∃ k i, now.items = setField s.items k i := by
  unfold State.assign at h
  dsimp only at h
  split at h
  · obtain ⟨items, hitems, h⟩ := Option.bind_eq_some_iff.1 h
    cases h
    exact exists_setField_of_put hitems
  · obtain ⟨items, hitems, h⟩ := Option.bind_eq_some_iff.1 h
    cases h
    exact exists_setField_of_alter hitems

theorem exists_setField_of_enter {s now : State} {f : Option Item → Option Item}
    {header : List String} (h : s.enter f header = some now) :
    ∃ k i, now.items = setField s.items k i := by
  obtain ⟨items, hitems, h⟩ := Option.bind_eq_some_iff.1 h
  cases h
  exact exists_setField_of_alter hitems

theorem ofOption_eq_ok {α : Type} {o : Option α} {a : α} (h : ofOption o = .ok a) : o = some a := by
  cases o with
  | none => cases h
  | some b =>
    cases h
    rfl

/-- A statement sets one field, a header its table and an assignment the first part of its key. -/
theorem exists_setField_of_statement {steps : Nat} {s now : State} {cs rest : List Char}
    (h : statement steps s cs = .ok (now, rest)) : ∃ k i, now.items = setField s.items k i := by
  unfold statement at h
  split at h
  iterate 2
    obtain ⟨header, _, h⟩ := Except.bind_eq_ok h
    obtain ⟨s', hs', h⟩ := Except.bind_eq_ok h
    split at h <;> cases h
    exact exists_setField_of_enter (ofOption_eq_ok hs')
  obtain ⟨⟨parts, after⟩, _, h⟩ := Except.bind_eq_ok h
  dsimp only at h
  split at h
  · obtain ⟨⟨v, tail⟩, _, h⟩ := Except.bind_eq_ok h
    obtain ⟨s', hs', h⟩ := Except.bind_eq_ok h
    cases h
    exact exists_setField_of_assign (ofOption_eq_ok hs')
  · cases h

theorem statements_succ {steps : Nat} {s last : State} {cs : List Char}
    (h : statements (steps + 1) s cs = .ok last) :
    ∃ now : State, (now = s ∨ ∃ k i, now.items = setField s.items k i) ∧
      (last = now ∨ ∃ rest, statements steps now rest = .ok last) := by
  rw [statements] at h
  split at h
  · cases h
    exact ⟨s, .inl rfl, .inl rfl⟩
  · exact ⟨s, .inl rfl, .inr ⟨_, h⟩⟩
  · dsimp only at h
    split at h
    all_goals
      obtain ⟨⟨now, rest⟩, hnow, h⟩ := Except.bind_eq_ok h
      obtain ⟨tail, _, h⟩ := Except.bind_eq_ok h
      have hlast : last = now ∨ ∃ rest, statements steps now rest = .ok last := by
        split at h
        · exact .inl (Except.ok.inj h).symm
        · exact .inr ⟨_, h⟩
        · cases h
    · cases hnow
      exact ⟨s, .inl rfl, hlast⟩
    · exact ⟨now, .inr (exists_setField_of_statement hnow), hlast⟩

theorem nodup_statements {steps : Nat} {s last : State} {cs : List Char}
    (h : statements steps s cs = .ok last) (hs : (s.items.map (·.1)).Nodup) :
    (last.items.map (·.1)).Nodup := by
  induction steps generalizing s cs with
  | zero => cases h
  | succ steps ih =>
    obtain ⟨now, hnow, h⟩ := statements_succ h
    have hnodup : (now.items.map (·.1)).Nodup := by
      rcases hnow with rfl | ⟨k, i, hitems⟩
      · exact hs
      · rw [hitems]
        exact nodup_setField hs k i
    rcases h with rfl | ⟨rest, h⟩
    · exact hnodup
    · exact ih h hnodup

theorem nodup_parse {s : String} {fields : List (String × Value)} (h : parse s = .ok fields) :
    (fields.map (·.1)).Nodup := by
  obtain ⟨state, hstate, h⟩ := Except.bind_eq_ok h
  cases h
  rw [keys_fieldsOf]
  exact nodup_statements hstate List.nodup_nil

end Toml

end ArityLint
