import ArityLint.Tree.Estree
import Mathlib.Data.List.Forall2
import Mathlib.Data.List.Nodup
import Mathlib.Logic.Relation

namespace ArityLint

section Agree

variable {ε α β : Type}

/-- Both results are errors, or both are values that are related. -/
inductive Except.Agree (R : α → β → Prop) : Except ε α → Except ε β → Prop
  | ok {a : α} {b : β} : R a b → Agree R (.ok a) (.ok b)
  | error {e e' : ε} : Agree R (.error e) (.error e')

namespace Except.Agree

variable {γ δ : Type} {R : α → β → Prop} {S : γ → δ → Prop} {x : Except ε α} {y : Except ε β}

theorem of_eq {x y : Except ε α} (h : x = y) : Agree Eq x y := by
  subst h
  cases x with
  | ok a => exact .ok rfl
  | error e => exact .error

theorem imp {R' : α → β → Prop} (h : Agree R x y) (hR : ∀ a b, R a b → R' a b) : Agree R' x y := by
  cases h with
  | ok h => exact .ok (hR _ _ h)
  | error => exact .error

theorem trans {z : Except ε γ} {S : β → γ → Prop} (h : Agree R x y) (h' : Agree S y z) :
    Agree (Relation.Comp R S) x z := by
  cases h with
  | ok h =>
    cases h' with
    | ok h' => exact .ok ⟨_, h, h'⟩
  | error =>
    cases h' with
    | error => exact .error

theorem bind {f : α → Except ε γ} {g : β → Except ε δ} (h : Agree R x y)
    (hfg : ∀ a b, R a b → Agree S (f a) (g b)) : Agree S (x >>= f) (y >>= g) := by
  cases h with
  | ok h => exact hfg _ _ h
  | error => exact .error

theorem map {f : α → γ} {g : β → δ} (h : Agree R x y) (hfg : ∀ a b, R a b → S (f a) (g b)) :
    Agree S (f <$> x) (g <$> y) := by
  cases h with
  | ok h => exact .ok (hfg _ _ h)
  | error => exact .error

theorem exists_iff (h : Agree R x y) : (∃ a, x = .ok a) ↔ ∃ b, y = .ok b := by
  cases h with
  | ok h => exact ⟨fun _ => ⟨_, rfl⟩, fun _ => ⟨_, rfl⟩⟩
  | error => exact ⟨nofun, nofun⟩

theorem of_ok {a : α} {b : β} (h : Agree R x y) (hx : x = .ok a) (hy : y = .ok b) : R a b := by
  subst hx hy
  cases h with
  | ok h => exact h

theorem mapM {T : γ → δ → Prop} {f : γ → Except ε α} {g : δ → Except ε β} {xs : List γ}
    {ys : List δ} (h : List.Forall₂ T xs ys) (hfg : ∀ a b, T a b → Agree R (f a) (g b)) :
    Agree (List.Forall₂ R) (xs.mapM f) (ys.mapM g) := by
  induction h with
  | nil => exact .ok .nil
  | cons hab _ ih =>
    rw [List.mapM_cons, List.mapM_cons]
    exact (hfg _ _ hab).bind fun a b h => ih.bind fun as bs hs => .ok (.cons h hs)

theorem mapM_perm {f : γ → Except ε α} {xs ys : List γ} (h : xs.Perm ys) :
    Agree List.Perm (xs.mapM f) (ys.mapM f) := by
  induction h with
  | nil => exact .ok .nil
  | cons x _ ih =>
    rw [List.mapM_cons, List.mapM_cons]
    exact (of_eq rfl).bind fun a b h => ih.bind fun as bs hs => .ok (h ▸ hs.cons a)
  | swap x y xs =>
    simp only [List.mapM_cons]
    cases f x with
    | error e => cases f y <;> exact .error
    | ok a =>
      cases f y with
      | error e => exact .error
      | ok b =>
        cases xs.mapM f with
        | error e => exact .error
        | ok as => exact .ok (.swap _ _ _)
  | trans _ _ ih ih' => exact (ih.trans ih').imp fun _ _ ⟨_, h, h'⟩ => h.trans h'

end Except.Agree

end Agree

/-- The values differ only in the order of the fields of objects, at any depth. -/
inductive Value.Reordered : Value → Value → Prop
  | refl (v : Value) : Reordered v v
  | arr {vs ws : List Value} : List.Forall₂ Reordered vs ws → Reordered (.arr vs) (.arr ws)
  | obj {fs gs hs : List (String × Value)} : (fs.map (·.1)).Nodup → fs.map (·.1) = gs.map (·.1) →
      List.Forall₂ Reordered (fs.map (·.2)) (gs.map (·.2)) → gs.Perm hs →
      Reordered (.obj fs) (.obj hs)

namespace Value

variable {v w : Value} {fs gs hs : List (String × Value)}

theorem field?_perm (h : gs.Perm hs) (hnodup : (gs.map (·.1)).Nodup) (key : String) :
    field? gs key = field? hs key := by
  induction h with
  | nil => rfl
  | cons f _ ih =>
    obtain ⟨k, v⟩ := f
    rw [field?, field?, List.lookup_cons, List.lookup_cons, ← field?, ← field?,
      ih (List.nodup_cons.1 hnodup).2]
  | swap f g l =>
    obtain ⟨k, v⟩ := f
    obtain ⟨l, w⟩ := g
    simp only [List.map_cons, List.nodup_cons, List.mem_cons, not_or] at hnodup
    simp only [field?, List.lookup_cons]
    split <;> split <;> simp_all
  | trans h _ ih ih' => exact (ih hnodup).trans (ih' ((h.map _).nodup_iff.1 hnodup))

/-- The fields have the same keys and reordered values, in some order. -/
def SameFields (fs hs : List (String × Value)) : Prop :=
  ∃ gs, List.Forall₂ (fun f g => f.1 = g.1 ∧ f.2.Reordered g.2) fs gs ∧ gs.Perm hs ∧
    ∀ key, field? gs key = field? hs key

theorem forall₂_fields {R : Value → Value → Prop} (hkeys : fs.map (·.1) = gs.map (·.1))
    (h : List.Forall₂ R (fs.map (·.2)) (gs.map (·.2))) :
    List.Forall₂ (fun f g => f.1 = g.1 ∧ R f.2 g.2) fs gs := by
  induction fs generalizing gs with
  | nil =>
    obtain rfl := List.map_eq_nil_iff.1 hkeys.symm
    exact .nil
  | cons f fs ih =>
    cases gs with
    | nil => cases hkeys
    | cons g gs =>
      obtain ⟨hkey, hkeys⟩ := List.cons.inj hkeys
      obtain ⟨hv, h⟩ := List.forall₂_cons.1 h
      exact .cons ⟨hkey, hv⟩ (ih hkeys h)

theorem Reordered.sameFields (h : (Value.obj fs).Reordered (.obj hs)) : SameFields fs hs := by
  cases h with
  | refl => exact ⟨fs, List.forall₂_same.2 fun f _ => ⟨rfl, .refl f.2⟩, .refl _, fun _ => rfl⟩
  | obj hnodup hkeys hvalues hperm =>
    exact ⟨_, forall₂_fields hkeys hvalues, hperm, field?_perm hperm (hkeys ▸ hnodup)⟩

theorem SameFields.field? (h : SameFields fs hs) (key : String) :
    Option.Rel Reordered (field? fs key) (field? hs key) := by
  obtain ⟨gs, hvalues, -, heq⟩ := h
  rw [← heq]
  clear heq
  induction hvalues with
  | nil => exact .none
  | @cons f g _ _ hfg _ ih =>
    obtain ⟨k, v⟩ := f
    obtain ⟨l, w⟩ := g
    obtain ⟨rfl, hvw⟩ : k = l ∧ v.Reordered w := hfg
    simp only [Value.field?, List.lookup_cons] at ih ⊢
    cases key == k with
    | true => exact .some hvw
    | false => exact ih

theorem SameFields.isEmpty (h : SameFields fs hs) : fs.isEmpty = hs.isEmpty := by
  obtain ⟨gs, hvalues, hperm, -⟩ := h
  rw [← hperm.isEmpty_eq]
  cases hvalues <;> rfl

theorem Reordered.truthy (h : v.Reordered w) : v.truthy = w.truthy := by
  cases h with
  | refl => rfl
  | arr h => cases h <;> rfl
  | obj hnodup hkeys hvalues hperm =>
    have hempty := (Reordered.obj hnodup hkeys hvalues hperm).sameFields.isEmpty
    rw [Value.truthy, Value.truthy, hempty]

theorem Reordered.typeName (h : v.Reordered w) : v.typeName = w.typeName := by
  cases h <;> rfl

theorem Reordered.toOffset (h : v.Reordered w) : v.toOffset = w.toOffset := by
  cases h <;> rfl

theorem Reordered.eq_of_str {s : String} (h : (str s).Reordered w) : w = .str s := by
  cases h
  rfl

theorem Reordered.exists_obj (h : (Value.obj fs).Reordered w) : ∃ hs, w = .obj hs := by
  cases h <;> exact ⟨_, rfl⟩

theorem depthFields_eq (fs : List (String × Value)) :
    depthFields fs = depthItems (fs.map (·.2)) := by
  induction fs with
  | nil => rfl
  | cons f fs ih =>
    obtain ⟨k, v⟩ := f
    rw [depthFields, ih]
    rfl

theorem depthItems_perm {vs ws : List Value} (h : vs.Perm ws) : depthItems vs = depthItems ws := by
  induction h with
  | nil => rfl
  | cons v _ ih => rw [depthItems, depthItems, ih]
  | swap v w vs =>
    simp only [depthItems]
    exact Nat.max_left_comm _ _ _
  | trans _ _ ih ih' => exact ih.trans ih'

theorem Reordered.depth (h : v.Reordered w) : v.depth = w.depth := by
  refine @Reordered.rec (fun v w _ => v.depth = w.depth)
    (fun vs ws _ => depthItems vs = depthItems ws) (fun _ => rfl) ?_ ?_ rfl ?_ v w h
  · intro vs ws _ ih
    rw [Value.depth, Value.depth, ih]
  · intro fs gs hs _ _ _ hperm ih
    rw [Value.depth, Value.depth, depthFields_eq, depthFields_eq, ih,
      depthItems_perm (hperm.map (·.2))]
  · intro v w vs ws _ _ hv hvs
    rw [depthItems, depthItems, hv, hvs]

end Value

end ArityLint
