import ArityLint.Session
import Mathlib.Data.List.Forall2

namespace ArityLint

namespace Except

variable {ε α β : Type} {x : Except ε α} {f : α → Except ε β}

theorem bind_eq_ok {b : β} (h : (x >>= f) = .ok b) : ∃ a, x = .ok a ∧ f a = .ok b := by
  cases x with
  | error e => cases h
  | ok a => exact ⟨a, rfl, h⟩

theorem exists_bind_eq_ok (hx : ∃ a, x = .ok a) (hf : ∀ a, ∃ b, f a = .ok b) :
    ∃ b, (x >>= f) = .ok b := by
  obtain ⟨a, rfl⟩ := hx
  exact hf a

theorem map_eq_ok {g : α → β} {b : β} (h : g <$> x = .ok b) : ∃ a, x = .ok a ∧ g a = b := by
  cases x with
  | error e => cases h
  | ok a => exact ⟨a, rfl, Except.ok.inj h⟩

theorem mapM_cons_eq_ok {y : α} {xs : List α} {ys : List β} (h : (y :: xs).mapM f = .ok ys) :
    ∃ z zs, f y = .ok z ∧ xs.mapM f = .ok zs ∧ ys = z :: zs := by
  rw [List.mapM_cons] at h
  obtain ⟨z, hz, h⟩ := bind_eq_ok h
  obtain ⟨zs, hzs, h⟩ := bind_eq_ok h
  cases h
  exact ⟨z, zs, hz, hzs, rfl⟩

theorem exists_of_mem_mapM {xs : List α} {ys : List β} {y : β} (h : xs.mapM f = .ok ys)
    (hy : y ∈ ys) : ∃ x ∈ xs, f x = .ok y := by
  induction xs generalizing ys with
  | nil =>
    cases h
    cases hy
  | cons x xs ih =>
    obtain ⟨z, zs, hz, hzs, rfl⟩ := mapM_cons_eq_ok h
    rcases List.mem_cons.1 hy with rfl | hy
    · exact ⟨x, by simp, hz⟩
    · obtain ⟨x', hx', hy⟩ := ih hzs hy
      exact ⟨x', by simp [hx'], hy⟩

theorem map_eq_of_mapM {γ : Type} {g : α → γ} {k : β → γ} {xs : List α} {ys : List β}
    (h : xs.mapM f = .ok ys) (hk : ∀ x y, f x = .ok y → k y = g x) : ys.map k = xs.map g := by
  induction xs generalizing ys with
  | nil =>
    cases h
    rfl
  | cons x xs ih =>
    obtain ⟨z, zs, hz, hzs, rfl⟩ := mapM_cons_eq_ok h
    rw [List.map_cons, List.map_cons, hk x z hz, ih hzs]

theorem exists_mapM_eq_ok {xs : List α} (h : ∀ x ∈ xs, ∃ y, f x = .ok y) :
    ∃ ys, xs.mapM f = .ok ys := by
  induction xs with
  | nil => exact ⟨[], rfl⟩
  | cons x xs ih =>
    obtain ⟨y, hy⟩ := h x (by simp)
    obtain ⟨ys, hys⟩ := ih fun z hz => h z (by simp [hz])
    exact ⟨y :: ys, by rw [List.mapM_cons, hy, hys]; rfl⟩

theorem mapError_bind {δ : Type} (k : ε → δ) (x : Except ε α) (f : α → Except ε β) :
    (x >>= f).mapError k = x.mapError k >>= fun a => (f a).mapError k := by
  cases x <;> rfl

theorem mapError_eq_ok {δ : Type} {g : ε → δ} {a : α} : x.mapError g = .ok a ↔ x = .ok a := by
  cases x with
  | error e => exact ⟨nofun, nofun⟩
  | ok b => exact ⟨fun h => congrArg _ (Except.ok.inj h), fun h => congrArg _ (Except.ok.inj h)⟩

end Except

section Run

variable {σ α β : Type} {m : ExceptT Error (StateM σ) α} {f : α → ExceptT Error (StateM σ) β}
  {s s' : σ}

theorem run_bind_ok {a : α} (h : m.run.run s = (.ok a, s')) :
    (m >>= f).run.run s = (f a).run.run s' := by
  change (ExceptT.bindCont f (m.run.run s).1).run (m.run.run s).2 = _
  rw [h]
  rfl

theorem run_bind_error {e : Error} (h : m.run.run s = (.error e, s')) :
    (m >>= f).run.run s = (.error e, s') := by
  change (ExceptT.bindCont f (m.run.run s).1).run (m.run.run s).2 = _
  rw [h]
  rfl

end Run

namespace LintM

variable {α β : Type} {m : LintM α} {f : α → LintM β} {a : α} {r : Except Error α}
  {q : Except Error β} {s : Session}

def exec (m : LintM α) (s : Session) : Except Error α × Session := m.run.run s

@[simp] theorem exec_pure (a : α) (s : Session) : exec (pure a) s = (.ok a, s) := rfl

@[simp] theorem exec_ofExcept (r : Except Error α) (s : Session) : exec (ofExcept r) s = (r, s) := rfl

@[simp] theorem exec_log (level : Level) (channel message : String) (s : Session) :
    exec (log level channel message) s =
      (.ok (), { s with log := s.log ++ [⟨level, channel, message⟩] }) := rfl

@[simp] theorem exec_get (s : Session) : exec get s = (.ok s, s) := rfl

@[simp] theorem exec_modify (f : Session → Session) (s : Session) :
    exec (modify f) s = (.ok (), f s) := rfl

theorem exec_bind (m : LintM α) (f : α → LintM β) (s : Session) :
    exec (m >>= f) s =
      match exec m s with
      | (.ok a, s') => exec (f a) s'
      | (.error e, s') => (.error e, s') := by
  unfold exec
  rcases h : m.run.run s with ⟨_ | a, s'⟩
  · exact run_bind_error h
  · exact run_bind_ok h

theorem exec_bind_eq_ok {b : β} {s' : Session} (h : exec (m >>= f) s = (.ok b, s')) :
    ∃ a s₁, exec m s = (.ok a, s₁) ∧ exec (f a) s₁ = (.ok b, s') := by
  rw [exec_bind] at h
  cases hm : exec m s with
  | mk r s₁ =>
    rw [hm] at h
    cases r with
    | error e => cases h
    | ok a => exact ⟨a, s₁, rfl, h⟩

/-- The step gives `r` in every session and leaves it as it was but for parsers and debug records.
-/
def Yields (m : LintM α) (r : Except Error α) : Prop :=
  ∀ s, ∃ (parsers : List Language) (notes : List Record),
    exec m s = (r, ⟨parsers, s.log ++ notes⟩) ∧ ∀ x ∈ notes, x.level = .debug

theorem Yields.fst_exec (h : Yields m r) (s : Session) : (exec m s).1 = r := by
  obtain ⟨_, _, he, _⟩ := h s
  rw [he]

theorem Yields.unique {r' : Except Error α} (h : Yields m r) (h' : Yields m r') : r = r' := by
  rw [← h.fst_exec {}, h'.fst_exec {}]

theorem yields_ofExcept (r : Except Error α) : Yields (ofExcept r) r := by
  intro s
  exact ⟨s.parsers, [], by simp, by simp⟩

theorem yields_pure (a : α) : Yields (pure a) (.ok a) := yields_ofExcept (.ok a)

theorem yields_ofFault (r : Except Fault α) : Yields (ofFault r) (r.mapError .fault) :=
  yields_ofExcept _

theorem yields_debug (channel message : String) : Yields (log .debug channel message) (.ok ()) := by
  intro s
  exact ⟨s.parsers, [⟨.debug, channel, message⟩], by simp, by simp⟩

theorem Yields.bind {g : α → Except Error β} (hm : Yields m r)
    (hf : ∀ a, r = .ok a → Yields (f a) (g a)) : Yields (m >>= f) (r >>= g) := by
  intro s
  obtain ⟨parsers, notes, he, hd⟩ := hm s
  rw [exec_bind, he]
  cases r with
  | error e => exact ⟨parsers, notes, rfl, hd⟩
  | ok a =>
    obtain ⟨parsers', notes', he', hd'⟩ := hf a rfl ⟨parsers, s.log ++ notes⟩
    refine ⟨parsers', notes ++ notes', ?_, ?_⟩
    · change exec (f a) _ = (g a, _)
      rw [he', List.append_assoc]
    · intro x hx
      rcases List.mem_append.1 hx with h | h
      · exact hd x h
      · exact hd' x h

theorem Yields.bind_ok (hm : Yields m (.ok a)) (hf : Yields (f a) q) : Yields (m >>= f) q :=
  hm.bind (g := fun _ => q) fun b hb => by cases hb; exact hf

theorem Yields.bind_error {e : Error} (hm : Yields m (.error e)) : Yields (m >>= f) (.error e) :=
  hm.bind (g := fun _ => .error e) nofun

/-- The step gives `r` in every session, whatever it does to it. -/
def Gives (m : LintM α) (r : Except Error α) : Prop := ∀ s, (exec m s).1 = r

theorem Yields.gives (h : Yields m r) : Gives m r := h.fst_exec

theorem gives_pure (a : α) : Gives (pure a) (.ok a) := fun _ => rfl

theorem gives_log (level : Level) (channel message : String) :
    Gives (log level channel message) (.ok ()) := fun _ => rfl

theorem Gives.bind_ok (hm : Gives m (.ok a)) (hf : Gives (f a) q) : Gives (m >>= f) q := by
  intro s
  rw [exec_bind, show exec m s = (.ok a, (exec m s).2) from Prod.ext (hm s) rfl]
  exact hf _

theorem Gives.bind_error {e : Error} (hm : Gives m (.error e)) : Gives (m >>= f) (.error e) := by
  intro s
  rw [exec_bind, show exec m s = (.error e, (exec m s).2) from Prod.ext (hm s) rfl]

theorem yields_needParser (language : Language) : Yields (needParser language) (.ok ()) := by
  intro s
  unfold needParser
  rw [exec_bind, exec_get]
  dsimp only
  split
  · exact ⟨s.parsers, [], by simp, by simp⟩
  · obtain ⟨parsers, notes, he, hd⟩ := yields_debug Channel.parser
      ("Created tree-sitter parser for " ++ language.name)
      { s with parsers := s.parsers ++ [language] }
    rw [exec_bind, exec_modify]
    exact ⟨parsers, notes, he, hd⟩

end LintM

section Meets

variable {σ α β : Type}

/-- From every state with `I` the step ends in a state with `I`, with a result that satisfies `Q` or
an error that satisfies `P`. -/
structure Meets (I : σ → Prop) (m : ExceptT Error (StateM σ) α) (P : Error → Prop)
    (Q : α → Prop) : Prop where
  ok : ∀ s a s', I s → m.run.run s = (.ok a, s') → I s' ∧ Q a
  error : ∀ s e s', I s → m.run.run s = (.error e, s') → I s' ∧ P e

variable {I : σ → Prop} {m : ExceptT Error (StateM σ) α} {f : α → ExceptT Error (StateM σ) β}
  {P P' : Error → Prop} {Q : α → Prop} {R : β → Prop}

theorem meets_pure {a : α} (h : Q a) : Meets I (pure a) P Q where
  ok s b s' hs hb := by
    cases hb
    exact ⟨hs, h⟩
  error s e s' _ he := by cases he

theorem meets_throw {e : Error} (h : P e) : Meets I (throw e) P Q where
  ok s a s' _ ha := by cases ha
  error s e' s' hs he := by
    cases he
    exact ⟨hs, h⟩

theorem Meets.bind (hm : Meets I m P Q) (hf : ∀ a, Q a → Meets I (f a) P R) :
    Meets I (m >>= f) P R where
  ok s b s' hi h := by
    rcases hs : m.run.run s with ⟨_ | a, s₁⟩
    · cases (run_bind_error hs).symm.trans h
    · obtain ⟨hi, ha⟩ := hm.ok s a s₁ hi hs
      exact (hf a ha).ok s₁ b s' hi ((run_bind_ok hs).symm.trans h)
  error s e s' hi h := by
    rcases hs : m.run.run s with ⟨e' | a, s₁⟩
    · cases (run_bind_error hs).symm.trans h
      exact hm.error s e s' hi hs
    · obtain ⟨hi, ha⟩ := hm.ok s a s₁ hi hs
      exact (hf a ha).error s₁ e s' hi ((run_bind_ok hs).symm.trans h)

theorem Meets.imp {Q' : α → Prop} (hm : Meets I m P Q) (h : ∀ a, Q a → Q' a) : Meets I m P Q' where
  ok s a s' hi hs := (hm.ok s a s' hi hs).imp_right (h a)
  error := hm.error

theorem run_tryCatch_ok {handle : Error → ExceptT Error (StateM σ) α} {a : α} {s s' : σ}
    (h : m.run.run s = (.ok a, s')) : (tryCatch m handle).run.run s = (.ok a, s') := by
  change (ExceptT.tryCatch m handle).run.run s = _
  simp only [ExceptT.tryCatch, ExceptT.run_mk, StateT.run_bind]
  rw [show StateT.run m s = (.ok a, s') from h]
  rfl

theorem run_tryCatch_error {handle : Error → ExceptT Error (StateM σ) α} {e : Error} {s s' : σ}
    (h : m.run.run s = (.error e, s')) :
    (tryCatch m handle).run.run s = (handle e).run.run s' := by
  change (ExceptT.tryCatch m handle).run.run s = _
  simp only [ExceptT.tryCatch, ExceptT.run_mk, StateT.run_bind]
  rw [show StateT.run m s = (.error e, s') from h]
  rfl

theorem Meets.tryCatch {handle : Error → ExceptT Error (StateM σ) α} (hm : Meets I m P Q)
    (hh : ∀ e, P e → Meets I (handle e) P' Q) : Meets I (tryCatch m handle) P' Q where
  ok s a s' hi h := by
    rcases hs : m.run.run s with ⟨e | b, s₁⟩
    · obtain ⟨hi, he⟩ := hm.error s e s₁ hi hs
      exact (hh e he).ok s₁ a s' hi ((run_tryCatch_error hs).symm.trans h)
    · cases (run_tryCatch_ok hs).symm.trans h
      exact hm.ok s a s' hi hs
  error s e s' hi h := by
    rcases hs : m.run.run s with ⟨e' | b, s₁⟩
    · obtain ⟨hi, he⟩ := hm.error s e' s₁ hi hs
      exact (hh e' he).error s₁ e s' hi ((run_tryCatch_error hs).symm.trans h)
    · cases (run_tryCatch_ok hs).symm.trans h

theorem meets_mapM {T : α → β → Prop} {xs : List α} (h : ∀ x ∈ xs, Meets I (f x) P (T x)) :
    Meets I (xs.mapM f) P (List.Forall₂ T xs) := by
  induction xs with
  | nil => exact meets_pure .nil
  | cons x xs ih =>
    obtain ⟨hx, hxs⟩ := List.forall_mem_cons.1 h
    rw [List.mapM_cons]
    exact hx.bind fun y hy => (ih hxs).bind fun ys hys => meets_pure (.cons hy hys)

namespace LintM

/-- What a step that touches no disk ends with, from any session. -/
abbrev Ends (m : LintM α) (P : Error → Prop) (Q : α → Prop) : Prop := Meets (fun _ => True) m P Q

theorem Yields.ends {m : LintM α} {r : Except Error α} (h : m.Yields r)
    (hok : ∀ a, r = .ok a → Q a) (herror : ∀ e, r = .error e → P e) : Ends m P Q where
  ok s a _ _ hs := ⟨trivial, hok a ((h.fst_exec s).symm.trans (congrArg Prod.fst hs))⟩
  error s e _ _ hs := ⟨trivial, herror e ((h.fst_exec s).symm.trans (congrArg Prod.fst hs))⟩

theorem ends_log (level : Level) (channel message : String) :
    Ends (log level channel message) P fun _ => True where
  ok _ _ _ _ _ := ⟨trivial, trivial⟩
  error _ _ _ _ h := by cases h

end LintM

end Meets

end ArityLint
