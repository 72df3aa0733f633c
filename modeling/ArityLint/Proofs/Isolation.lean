import ArityLint.Proofs.Locations

namespace ArityLint

namespace LintM

variable {α β : Type} {m : LintM α} {f : α → LintM β}

/-- The step gives the same result in every session. -/
def IsSteady (m : LintM α) : Prop := ∃ r, ∀ s, (m.exec s).1 = r

theorem IsSteady.bind (hm : m.IsSteady) (hf : ∀ a, (f a).IsSteady) : (m >>= f).IsSteady := by
  obtain ⟨e | a, hr⟩ := hm
  · exact ⟨.error e, Gives.bind_error hr⟩
  · obtain ⟨q, hq⟩ := hf a
    exact ⟨q, Gives.bind_ok hr hq⟩

end LintM

/-- The disk with new bytes in one file, or as it is. -/
def Disk.put (d : Disk) : Option (Location × ByteArray) → Disk
  | none => d
  | some (l, bytes) => d.write l bytes

namespace WorkM

variable {α β : Type} {m : WorkM α} {f : α → WorkM β} {D : Disk → Prop}
  {change : Option (Location × ByteArray)}

theorem exec_bind_eq_ok {b : β} {w w' : Workspace} (h : exec (m >>= f) w = (.ok b, w')) :
    ∃ a w₁, exec m w = (.ok a, w₁) ∧ exec (f a) w₁ = (.ok b, w') := by
  rw [exec_bind] at h
  rcases hm : exec m w with ⟨e | a, w₁⟩
  · rw [hm] at h
    cases h
  · rw [hm] at h
    exact ⟨a, w₁, rfl, h⟩

/-- In every session, on every disk with `D`, the step ends with `r` and makes this change. -/
def Does (m : WorkM α) (D : Disk → Prop) (r : Except Error α)
    (change : Option (Location × ByteArray)) : Prop :=
  ∀ s d, D d → ∃ s', exec m ⟨s, d⟩ = (r, ⟨s', d.put change⟩)

theorem Does.bind_error {e : Error} (hm : Does m D (.error e) change) :
    Does (m >>= f) D (.error e) change := by
  intro s d hd
  obtain ⟨s', hs⟩ := hm s d hd
  exact ⟨s', by rw [exec_bind, hs]⟩

theorem Does.bind {a : α} {q : Except Error β} (hm : Does m D (.ok a) none)
    (hf : Does (f a) D q change) : Does (m >>= f) D q change := by
  intro s d hd
  obtain ⟨s₁, hs₁⟩ := hm s d hd
  obtain ⟨s₂, hs₂⟩ := hf s₁ d hd
  exact ⟨s₂, by rw [exec_bind, hs₁]; exact hs₂⟩

theorem Does.bind_none {a : α} {q : Except Error β} (hm : Does m D (.ok a) change)
    (hf : Does (f a) (fun _ => True) q none) : Does (m >>= f) D q change := by
  intro s d hd
  obtain ⟨s₁, hs₁⟩ := hm s d hd
  obtain ⟨s₂, hs₂⟩ := hf s₁ (d.put change) trivial
  exact ⟨s₂, by rw [exec_bind, hs₁]; exact hs₂⟩

end WorkM

section File

open WorkM

variable (g : Grammar) (cwd : Location) (settings : Settings) (fix : Bool) (path : Path)

/-- What a path opens, under the same restrictions as on the disk `base`. -/
def Disk.Opens (base : Disk) (opened : Except Error (Location × ByteArray)) (d : Disk) : Prop :=
  fileAt cwd d path = opened ∧ d.restrictions = base.restrictions

/-- The report that a run shows for the result of a file; none for an error that ends the run. -/
def captured : Except Error Report → Option Report
  | .ok report => some report
  | .error e => (e.forFile? path).map fun _ => { path := path.text, error := some e.message }

end File

section Run

open WorkM

variable (g : Grammar) (cwd : Location) (settings : Settings) (fix : Bool)

/-- The report of a file is that of a new linter over the file alone on the disk `before`, and a
repaired file holds on the disk `after` what its own repair makes of it. -/
structure Isolated (before after : Disk) (path : Path) (report : Report) : Prop where
  alone : ∃ r w, (lintFile g cwd settings fix path).exec ⟨{}, before⟩ = (r, w) ∧
    captured path r = some report
  asked : report.fixed = true → fix = true
  repaired : report.fixed = true → ∃ w language l bytes source r,
    (lintFile g cwd settings fix path).exec ⟨{}, before⟩ = (.ok report, w) ∧
    Reported g cwd settings path ⟨{}, before⟩ report w.disk language l bytes source r ∧
    after.file? l = some r.output.toUTF8

/-- Only files with `P` have changed. -/
structure Disk.ChangesOnly (before : Disk) (P : Path × Report → Prop) (after : Disk)
    (reports : List (Path × Report)) : Prop where
  names : after.SameNames before
  others : ∀ l, (∀ x ∈ reports, P x → before.lookUp cwd x.1 ≠ .found l) →
    after.file? l = before.file? l
  unfixed : (∀ x ∈ reports, ¬P x) → after = before

variable {cwd} in
theorem Disk.ChangesOnly.imp {P Q : Path × Report → Prop} {d d' : Disk} {xs : List (Path × Report)}
    (h : d.ChangesOnly cwd P d' xs) (hpq : ∀ x ∈ xs, P x → Q x) : d.ChangesOnly cwd Q d' xs where
  names := h.names
  others l hl := h.others l fun x hx hp => hl x hx (hpq x hx hp)
  unfixed hq := h.unfixed fun x hx hp => hq x hx (hpq x hx hp)

variable {cwd} in
theorem Disk.ChangesOnly.cons {P : Path × Report → Prop} {d d₁ d₂ : Disk} {x : Path × Report}
    {xs : List (Path × Report)} (h : d.ChangesOnly cwd P d₁ [x]) (hs : d₁.ChangesOnly cwd P d₂ xs) :
    d.ChangesOnly cwd P d₂ (x :: xs) where
  names := hs.names.trans h.names
  others l hl := by
    obtain ⟨hx, hxs⟩ := List.forall_mem_cons.1 hl
    rw [hs.others l fun y hy hp => h.names.lookUp cwd y.1 ▸ hxs y hy hp]
    exact h.others l (List.forall_mem_singleton.2 hx)
  unfixed hl := by
    obtain ⟨hx, hxs⟩ := List.forall_mem_cons.1 hl
    rw [hs.unfixed hxs, h.unfixed (List.forall_mem_singleton.2 hx)]

variable {g cwd settings fix}

theorem Disk.ChangesOnly.refl (P : Path × Report → Prop) (d : Disk) (xs : List (Path × Report)) :
    d.ChangesOnly cwd P d xs :=
  ⟨.refl d, fun _ _ => rfl, fun _ => rfl⟩

theorem Disk.ChangesOnly.write {P : Path × Report → Prop} {d : Disk} {path : Path} {l : Location}
    {old : ByteArray} {report : Report} (hl : d.lookUp cwd path = .found l)
    (hold : d.file? l = some old) (hchange : P (path, report)) (bytes : ByteArray) :
    d.ChangesOnly cwd P (d.write l bytes) [(path, report)] where
  names := Disk.sameNames_write hold bytes
  others k hk := by
    have hne : k ≠ l := by
      rintro rfl
      exact hk _ (List.mem_singleton_self _) hchange hl
    exact Disk.file?_write_of_ne bytes hne
  unfixed hnone := absurd hchange (hnone _ (List.mem_singleton_self _))

theorem Isolated.later {base d d' : Disk} {path : Path} {report : Report}
    {P : Path × Report → Prop} {xs : List (Path × Report)}
    (h : Isolated g cwd settings fix base d path report) (hnames : d.SameNames base)
    (hlater : d.ChangesOnly cwd P d' xs)
    (hapart : ∀ x ∈ xs, base.Apart cwd path x.1) :
    Isolated g cwd settings fix base d' path report where
  alone := h.alone
  asked := h.asked
  repaired hfixed := by
    obtain ⟨w, language, l, bytes, source, r, hexec, hr, hfile⟩ := h.repaired hfixed
    refine ⟨w, language, l, bytes, source, r, hexec, hr, ?_⟩
    rw [hlater.others l fun x hx _ => ?_, hfile]
    rw [hnames.lookUp]
    exact hapart x hx l hr.located.1

end Run

section Instances

open WorkM

end Instances

end ArityLint
