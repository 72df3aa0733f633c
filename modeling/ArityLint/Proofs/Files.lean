import ArityLint.LintFiles
import ArityLint.Proofs.Rounds

namespace ArityLint

namespace WorkM

variable {α β : Type}

def exec (m : WorkM α) (w : Workspace) : Except Error α × Workspace := m.run.run w

theorem exec_lint (m : LintM α) (w : Workspace) :
    exec (lint m) w = ((m.exec w.session).1, { w with session := (m.exec w.session).2 }) := rfl

theorem exec_bind (m : WorkM α) (f : α → WorkM β) (w : Workspace) :
    exec (m >>= f) w =
      match exec m w with
      | (.ok a, w') => exec (f a) w'
      | (.error e, w') => (.error e, w') := by
  unfold exec
  rcases h : m.run.run w with ⟨_ | a, w'⟩
  · exact run_bind_error h
  · exact run_bind_ok h

/-- The step ends with a result and a disk that satisfy `Q`, or with an error and a disk that
satisfy `E`. -/
structure Ensures (m : WorkM α) (w : Workspace) (Q : α → Disk → Prop) (E : Error → Disk → Prop) :
    Prop where
  ok : ∀ a w', exec m w = (.ok a, w') → Q a w'.disk
  error : ∀ e w', exec m w = (.error e, w') → E e w'.disk

variable {m : WorkM α} {f : α → WorkM β} {w : Workspace} {P : α → Disk → Prop}
  {Q : β → Disk → Prop} {E : Error → Disk → Prop}

theorem ensures_of_exec {r : Except Error β} {n : WorkM β} {v : Workspace} (h : exec n w = (r, v))
    (hok : ∀ b, r = .ok b → Q b v.disk) (herror : ∀ e, r = .error e → E e v.disk) :
    Ensures n w Q E where
  ok b w' hb := by
    obtain ⟨hr, rfl⟩ := Prod.mk.inj (h.symm.trans hb)
    exact hok b hr
  error e w' he := by
    obtain ⟨hr, rfl⟩ := Prod.mk.inj (h.symm.trans he)
    exact herror e hr

theorem ensures_lint (m : LintM α) (w : Workspace) :
    Ensures (lint m) w (fun a d => (∃ s', m.exec w.session = (.ok a, s')) ∧ d = w.disk)
      fun _ d => d = w.disk :=
  ensures_of_exec (exec_lint m w) (fun _ ha => ⟨⟨_, Prod.ext ha rfl⟩, rfl⟩) fun _ _ => rfl

theorem Ensures.imp {n : WorkM β} {Q' : β → Disk → Prop} {E' : Error → Disk → Prop}
    (h : Ensures n w Q E) (hQ : ∀ b d, Q b d → Q' b d) (hE : ∀ e d, E e d → E' e d) :
    Ensures n w Q' E' :=
  ⟨fun b w' hb => hQ b _ (h.ok b w' hb), fun e w' he => hE e _ (h.error e w' he)⟩

theorem Ensures.bind (hm : Ensures m w P E)
    (hf : ∀ a w', P a w'.disk → Ensures (f a) w' Q E) : Ensures (m >>= f) w Q E := by
  rcases hexec : exec m w with ⟨e | a, w'⟩
  · have h : exec (m >>= f) w = (.error e, w') := by rw [exec_bind, hexec]
    refine ensures_of_exec h nofun fun e' he => ?_
    cases he
    exact hm.error e w' hexec
  · have h : exec (m >>= f) w = exec (f a) w' := by rw [exec_bind, hexec]
    have hafter := hf a w' (hm.ok a w' hexec)
    exact ⟨fun b w'' hb => hafter.ok b w'' (h ▸ hb), fun e w'' he => hafter.error e w'' (h ▸ he)⟩

/-- A step that leaves the workspace alone is followed by the next one, or by nothing. -/
theorem ensures_ofExcept_bind {r : Except Error α} (hE : ∀ e, E e w.disk)
    (hf : ∀ a, r = .ok a → Ensures (f a) w Q E) : Ensures (ofExcept r >>= f) w Q E := by
  cases r with
  | error e => exact ensures_of_exec (v := w) (r := .error e) rfl nofun fun e' _ => hE e'
  | ok a => exact ⟨fun b w' hb => (hf a rfl).ok b w' hb, fun e w' he => (hf a rfl).error e w' he⟩

theorem exec_ofExcept_bind (a : α) (f : α → WorkM β) (w : Workspace) :
    exec (ofExcept (.ok a) >>= f) w = exec (f a) w := rfl

end WorkM

namespace Disk

theorem lookup_insert (entries : List (Location × ByteArray)) (l : Location) (bytes : ByteArray) :
    (insert entries l bytes).lookup l = some bytes := by
  induction entries with
  | nil => simp [insert]
  | cons entry rest ih =>
    obtain ⟨k, old⟩ := entry
    unfold insert
    split
    · next h => simp [h]
    · next h => rw [List.lookup_cons, show (l == k) = false by simpa using Ne.symm h, ih]

theorem lookup_insert_of_ne {entries : List (Location × ByteArray)} {l k : Location}
    (bytes : ByteArray) (h : k ≠ l) : (insert entries l bytes).lookup k = entries.lookup k := by
  have hkl : (k == l) = false := by simpa using h
  induction entries with
  | nil => rw [insert, List.lookup_cons, hkl]
  | cons entry rest ih =>
    obtain ⟨k', old⟩ := entry
    unfold insert
    split
    · next hk => rw [List.lookup_cons, List.lookup_cons, hk, hkl]
    · rw [List.lookup_cons, List.lookup_cons, ih]

theorem file?_write (d : Disk) (l : Location) (bytes : ByteArray) :
    (d.write l bytes).file? l = some bytes :=
  lookup_insert d.files l bytes

theorem file?_write_of_ne {d : Disk} {l k : Location} (bytes : ByteArray) (h : k ≠ l) :
    (d.write l bytes).file? k = d.file? k :=
  lookup_insert_of_ne bytes h

theorem file?_write_eq_some {d : Disk} {l k : Location} {bytes found : ByteArray}
    (h : (d.write l bytes).file? k = some found) : found = bytes ∨ d.file? k = some found := by
  by_cases hk : k = l
  · subst hk
    rw [file?_write] at h
    exact .inl (Option.some.inj h).symm
  · rw [file?_write_of_ne bytes hk] at h
    exact .inr h

def HasRoom (d : Disk) (l : Location) : Prop := d.restrictions.room.lookup l = none

theorem HasRoom.capacity_eq {d : Disk} {l : Location} (h : d.HasRoom l) (size : Nat) :
    d.capacity l size = size := by
  rw [capacity, show d.restrictions.room.lookup l = none from h, Option.getD_none, Nat.min_self]

section Overwrite

variable {d : Disk} {l : Location} {path : String} {bytes : ByteArray}

theorem overwrite_of_refused (h : d.isWritable l = false) :
    d.overwrite l path bytes = (.error (.permissionDenied path), d) := by
  unfold overwrite
  dsimp only
  rw [h, if_pos (by decide)]

theorem overwrite_of_short (h : d.isWritable l = true)
    (hshort : d.capacity l bytes.size < bytes.size) :
    d.overwrite l path bytes =
      (.error .noSpace, d.write l (bytes.extract 0 (d.capacity l bytes.size))) := by
  unfold overwrite
  dsimp only
  rw [h, if_neg (by decide), if_pos hshort]

theorem overwrite_of_fits (h : d.isWritable l = true)
    (hfits : ¬d.capacity l bytes.size < bytes.size) :
    d.overwrite l path bytes = (.ok (), d.write l bytes) := by
  unfold overwrite
  dsimp only
  rw [h, if_neg (by decide), if_neg hfits]

variable (d l path bytes)

theorem overwrite_cases :
    d.overwrite l path bytes = (.error (.permissionDenied path), d) ∨
    (d.capacity l bytes.size < bytes.size ∧ d.overwrite l path bytes =
      (.error .noSpace, d.write l (bytes.extract 0 (d.capacity l bytes.size)))) ∨
    d.overwrite l path bytes = (.ok (), d.write l bytes) := by
  cases h : d.isWritable l with
  | false => exact .inl (overwrite_of_refused h)
  | true =>
    by_cases hshort : d.capacity l bytes.size < bytes.size
    · exact .inr (.inl ⟨hshort, overwrite_of_short h hshort⟩)
    · exact .inr (.inr (overwrite_of_fits h hshort))

end Overwrite

structure TakesAny (d : Disk) (l : Location) : Prop where
  writable : d.isWritable l = true
  room : d.HasRoom l

theorem TakesAny.overwrite_eq {d : Disk} {l : Location} (h : d.TakesAny l) (path : String)
    (bytes : ByteArray) : d.overwrite l path bytes = (.ok (), d.write l bytes) := by
  refine overwrite_of_fits h.writable ?_
  rw [h.room.capacity_eq]
  exact Nat.lt_irrefl _

end Disk

section Files

open WorkM

variable (g : Grammar) (cwd : Location) (settings : Settings) (path : Path)

theorem fileAt_eq_ok {d : Disk} {l : Location} {bytes : ByteArray}
    (h : fileAt cwd d path = .ok (l, bytes)) :
    d.lookUp cwd path = .found l ∧ d.file? l = some bytes := by
  unfold fileAt at h
  dsimp only at h
  split at h
  · cases h
  · cases hl : d.lookUp cwd path with
    | found l' =>
      rw [hl] at h
      dsimp only at h
      split at h
      · cases h
      · split at h
        · next bytes' hb =>
          cases h
          exact ⟨rfl, hb⟩
        · cases h
    | _ =>
      rw [hl] at h
      cases h

theorem exec_openFile_bind {β : Type} (f : Location × ByteArray → WorkM β) (w : Workspace) :
    exec (openFile cwd path >>= f) w =
      exec (WorkM.ofExcept (fileAt cwd w.disk path) >>= f) w := rfl

theorem ensures_openFile_bind {β : Type} {f : Location × ByteArray → WorkM β} {w : Workspace}
    {Q : β → Disk → Prop} {E : Error → Disk → Prop} (hE : ∀ e, E e w.disk)
    (hf : ∀ l bytes, w.disk.lookUp cwd path = .found l ∧ w.disk.file? l = some bytes →
      Ensures (f (l, bytes)) w Q E) :
    Ensures (openFile cwd path >>= f) w Q E :=
  have h := ensures_ofExcept_bind (r := fileAt cwd w.disk path) hE fun (l, bytes) ha =>
    hf l bytes (fileAt_eq_ok cwd path ha)
  ⟨h.ok, h.error⟩

def writeError (f : Fault) : Error := .failure (.fileAccess path f.message)

theorem exec_writeFile (l : Location) (text : String) (w : Workspace) :
    exec (writeFile path l text) w =
      ((w.disk.overwrite l path.text text.toUTF8).1.mapError (writeError path),
        { w with disk := (w.disk.overwrite l path.text text.toUTF8).2 }) := rfl

theorem sourceOf_eq_ok {bytes : ByteArray} {source : String}
    (h : sourceOf path bytes = .ok source) : readText bytes = .ok source := by
  unfold sourceOf at h
  split at h <;> cases h
  assumption

/-- A write of the text broke off, as the file has no room for it. -/
structure BreaksOff (before : Disk) (l : Location) (text : String) (e : Error) (after : Disk) :
    Prop where
  short : before.capacity l text.toUTF8.size < text.toUTF8.size
  error : e = writeError path .noSpace
  disk : after =
    before.write l (text.toUTF8.extract 0 (before.capacity l text.toUTF8.size))

theorem ensures_writeFile (l : Location) (text : String) (w : Workspace) :
    Ensures (writeFile path l text) w (fun _ d => d = w.disk.write l text.toUTF8)
      fun e d => d = w.disk ∨ BreaksOff path w.disk l text e d := by
  rcases w.disk.overwrite_cases l path.text text.toUTF8 with h | ⟨hshort, h⟩ | h
  all_goals
    refine ensures_of_exec (exec_writeFile path l text w) ?_ ?_
    all_goals rw [h]
  · exact nofun
  · exact fun _ _ => .inl rfl
  · exact nofun
  · intro e he
    cases he
    exact .inr ⟨hshort, rfl, rfl⟩
  · exact fun _ _ => rfl
  · exact nofun

/-- The repair in question ends with `r`. -/
def EndsWith (source language : String) (w : Workspace) (r : Repair) : Prop :=
  ∃ s', (repair g source language path.text settings.maxFixPasses).exec w.session = (.ok r, s')

/-- A repaired file holds the output of a finished repair; any other stays as it is. -/
theorem ensures_repairFile (l : Location) (source language : String) (w : Workspace) :
    Ensures (repairFile g settings path l source language) w
      (fun (output, fixed) d => ∃ r, EndsWith g settings path source language w r ∧
        output = r.output ∧ fixed = r.fixed ∧
        d = if r.fixed then w.disk.write l r.output.toUTF8 else w.disk)
      fun e d => d = w.disk ∨ ∃ r, EndsWith g settings path source language w r ∧ r.fixed = true ∧
        BreaksOff path w.disk l r.output e d := by
  refine ((ensures_lint _ w).imp (fun _ _ h => h) fun _ _ h => .inl h).bind ?_
  rintro r w' ⟨hr, hd⟩
  rw [← hd]
  cases hfixed : r.fixed with
  | false =>
    exact ensures_of_exec (v := w') (r := .ok (r.output, false)) rfl
      (fun _ h => Except.ok.inj h ▸ ⟨r, hr, rfl, hfixed.symm, by rw [hfixed]; rfl⟩) nofun
  | true =>
    refine ((ensures_writeFile path l r.output w').imp (fun _ _ h => h) fun e d h =>
      h.imp_right fun h => ⟨r, hr, hfixed, h⟩).bind ?_
    rintro _ w'' hd''
    refine ensures_of_exec (r := .ok (r.output, true)) rfl (fun _ h => ?_) nofun
    cases h
    exact ⟨r, hr, rfl, hfixed.symm, by rw [hfixed, if_pos rfl]; exact hd''⟩

/-- The file that a path leads to, and what its repair comes to. -/
structure Mended (w : Workspace) (language : Language) (l : Location) (bytes : ByteArray)
    (source : String) (r : Repair) : Prop where
  ofPath : Language.ofPath path = .ok language
  located : w.disk.lookUp cwd path = .found l ∧ w.disk.file? l = some bytes
  read : readText bytes = .ok source
  repaired : EndsWith g settings path source language.name w r

/-- What the report of a file is about and what is on the disk then. -/
structure Reported (w : Workspace) (report : Report) (d : Disk) (language : Language) (l : Location)
    (bytes : ByteArray) (source : String) (r : Repair) : Prop
    extends Mended g cwd settings path w language l bytes source r where
  fixed : report.fixed = r.fixed
  disk : d = if r.fixed then w.disk.write l r.output.toUTF8 else w.disk
  linted : Lints g language.name path.text r.output report.findings
  source : report.source = some (SourceText.ofString r.output)

/-- The error comes from a write of the repaired text that broke off. -/
def IsWriteError (w : Workspace) (e : Error) (d : Disk) : Prop :=
  ∃ language l bytes source r, Mended g cwd settings path w language l bytes source r ∧
    r.fixed = true ∧ BreaksOff path w.disk l r.output e d

/-- The report of a text that can be linted. -/
theorem exec_findings {language source : String} {fs : List Finding}
    (h : Lints g language path.text source fs) (fixed : Bool) (w : Workspace) :
    ∃ s', exec (do
        let findings ← WorkM.lint (lintSource g source language path.text)
        return ⟨path.text, findings, some (SourceText.ofString source), none, fixed⟩) w =
      (.ok (⟨path.text, fs, some (SourceText.ofString source), none, fixed⟩ : Report),
        { w with session := s' }) := by
  obtain ⟨parsers, notes, hexec, _⟩ := h w.session
  refine ⟨⟨parsers, w.session.log ++ notes⟩, ?_⟩
  rw [exec_bind, exec_lint, hexec]
  rfl

theorem ensures_lintFile (w : Workspace) :
    Ensures (lintFile g cwd settings true path) w
      (fun report d => ∃ language l bytes source r,
        Reported g cwd settings path w report d language l bytes source r)
      fun e d => d = w.disk ∨ IsWriteError g cwd settings path w e d := by
  unfold lintFile
  refine ensures_ofExcept_bind (fun _ => .inl rfl) fun language hlanguage => ?_
  refine ensures_openFile_bind cwd path (fun _ => .inl rfl) fun l bytes hfile => ?_
  refine ensures_ofExcept_bind (fun _ => .inl rfl) fun source hsource => ?_
  have hmended : ∀ r, EndsWith g settings path source language.name w r →
      Mended g cwd settings path w language l bytes source r := fun r hr =>
    ⟨hlanguage, hfile, sourceOf_eq_ok path hsource, hr⟩
  refine ((ensures_repairFile g settings path l source language.name w).imp (fun _ _ h => h)
    fun e d h => h.imp_right fun ⟨r, hr, hfixed, hbreaks⟩ =>
      ⟨language, l, bytes, source, r, hmended r hr, hfixed, hbreaks⟩).bind ?_
  rintro ⟨output, fixed⟩ w' ⟨r, hr, rfl, rfl, hw'⟩
  -- the text has been linted before, so linting it now cannot fail
  obtain ⟨s', hrepair⟩ := hr
  obtain ⟨_, _, _, findings, _, _, _, hlints, _⟩ := exec_repair hrepair
  obtain ⟨_, hexec⟩ := exec_findings g path hlints r.fixed w'
  refine ensures_of_exec hexec (fun _ h => ?_) nofun
  cases h
  exact ⟨language, l, bytes, source, r, hmended r ⟨s', hrepair⟩, rfl, hw', hlints, rfl⟩

/-- Linting a file with repair changes the disk only when the report says so, and then the file
holds the output of the repair, which is what the report is about. An error changes nothing unless
it is that of a write which broke off: once a repair has ended, its output can be linted. -/
theorem lintFile_writes_repaired (w : Workspace) :
    (∀ e w', (lintFile g cwd settings true path).exec w = (.error e, w') →
      w'.disk = w.disk ∨ IsWriteError g cwd settings path w e w'.disk) ∧
    (∀ report w', (lintFile g cwd settings true path).exec w = (.ok report, w') →
      report.fixed = false → w'.disk = w.disk) ∧
    (∀ report w', (lintFile g cwd settings true path).exec w = (.ok report, w') →
      report.fixed = true → ∃ language l bytes source r,
        Reported g cwd settings path w report w'.disk language l bytes source r ∧
        w'.disk.file? l = some r.output.toUTF8) ∧
    ∀ source language r s s',
      (repair g source language path.text settings.maxFixPasses).exec s = (.ok r, s') →
      ∀ s₁, ∃ findings s₂, (lintSource g r.output language path.text).exec s₁ =
        (.ok findings, s₂) := by
  have h := ensures_lintFile g cwd settings path w
  refine ⟨h.error, ?_, ?_, ?_⟩
  · intro report w' hexec hfixed
    obtain ⟨language, l, bytes, source, r, hr⟩ := h.ok report w' hexec
    rw [hr.disk, ← hr.fixed, hfixed]
    rfl
  · intro report w' hexec hfixed
    obtain ⟨language, l, bytes, source, r, hr⟩ := h.ok report w' hexec
    refine ⟨language, l, bytes, source, r, hr, ?_⟩
    rw [hr.disk, ← hr.fixed, hfixed]
    exact w.disk.file?_write l _
  · intro source language r s s' hrepair s₁
    obtain ⟨_, _, _, findings, _, _, _, hlints, _⟩ := exec_repair hrepair
    obtain ⟨parsers, notes, hexec, _⟩ := hlints s₁
    exact ⟨findings, _, hexec⟩

/-- The report of a file whose repair is known and whose writes succeed, and the disk then. -/
theorem exec_lintFile {l : Location} {w : Workspace} {lang : Language} {bytes : ByteArray}
    {source : String} {r : Repair} {fs : List Finding} (hlang : Language.ofPath path = .ok lang)
    (hfile : fileAt cwd w.disk path = .ok (l, bytes)) (hread : readText bytes = .ok source)
    (htakes : w.disk.TakesAny l)
    (hrepair : (repair g source lang.name path.text settings.maxFixPasses).Yields (.ok r))
    (hlints : Lints g lang.name path.text r.output fs) :
    ∃ report w', (lintFile g cwd settings true path).exec w = (.ok report, w') ∧
      report.fixed = r.fixed ∧
      w'.disk = if r.fixed then w.disk.write l r.output.toUTF8 else w.disk := by
  have hsource : sourceOf path bytes = .ok source := by
    unfold sourceOf
    rw [hread]
  obtain ⟨w₁, hrepaired, hdisk⟩ : ∃ w₁, exec (repairFile g settings path l source lang.name) w =
      (.ok (r.output, r.fixed), w₁) ∧
        w₁.disk = if r.fixed then w.disk.write l r.output.toUTF8 else w.disk := by
    obtain ⟨parsers, notes, hexec, _⟩ := hrepair w.session
    unfold repairFile
    rw [exec_bind, exec_lint, hexec]
    dsimp only
    cases hfixed : r.fixed with
    | true =>
      rw [if_pos rfl, exec_bind, exec_writeFile]
      dsimp only
      rw [htakes.overwrite_eq]
      exact ⟨_, rfl, rfl⟩
    | false => exact ⟨_, rfl, rfl⟩
  obtain ⟨s', hexec⟩ := exec_findings g path hlints r.fixed w₁
  refine ⟨⟨path.text, fs, some (SourceText.ofString r.output), none, r.fixed⟩,
    { w₁ with session := s' }, ?_, rfl, hdisk⟩
  unfold lintFile
  rw [hlang, exec_ofExcept_bind, exec_openFile_bind, hfile, exec_ofExcept_bind]
  dsimp only
  rw [hsource, exec_ofExcept_bind, if_pos rfl, exec_bind, hrepaired]
  exact hexec

end Files

section Instances

open WorkM

def oneFile (text : String) : Workspace := ⟨{}, ⟨[(["a.js"], text.toUTF8)], [], {}⟩⟩

def tenRounds : Settings := ⟨.arr [], .whole 2, .whole 10000, .whole 10, .stylish, .normal⟩

def fileName : Path := ⟨.relative, ["a.js"]⟩

theorem ofPath_fileName : Language.ofPath fileName = .ok .javascript := rfl

theorem fileAt_oneFile (text : String) :
    fileAt [] (oneFile text).disk fileName = .ok (["a.js"], text.toUTF8) := rfl

theorem takesAny_oneFile (text : String) : (oneFile text).disk.TakesAny ["a.js"] := ⟨rfl, rfl⟩

theorem exec_lintFile_oneFile (text : String) (h : readText text.toUTF8 = .ok namesText) :
    ∃ report w', (lintFile statementGrammar [] tenRounds true fileName).exec (oneFile text) =
        (.ok report, w') ∧ report.fixed = true ∧ w'.disk.file? ["a.js"] = some objectText.toUTF8 := by
  obtain ⟨fs, hfs, _⟩ := lints_object
  obtain ⟨report, w', hexec, hfixed, hdisk⟩ := exec_lintFile statementGrammar [] tenRounds fileName
    ofPath_fileName (fileAt_oneFile text) h (takesAny_oneFile text) yields_repair_names hfs
  refine ⟨report, w', hexec, hfixed, ?_⟩
  rw [hdisk, if_pos rfl]
  exact Disk.file?_write _ _ _

/-- The four names are written back as one object, and that is what the report is about. -/
theorem oneFile_holds_output :
    ∃ report w', (lintFile statementGrammar [] tenRounds true fileName).exec (oneFile namesText) =
        (.ok report, w') ∧ report.fixed = true ∧
      ∃ language l bytes source r,
        Reported statementGrammar [] tenRounds fileName (oneFile namesText) report w'.disk
          language l bytes source r ∧
        w'.disk.file? l = some r.output.toUTF8 := by
  obtain ⟨report, w', hexec, hfixed, _⟩ := exec_lintFile_oneFile namesText rfl
  exact ⟨report, w', hexec, hfixed, (lintFile_writes_repaired _ _ _ _ _).2.2.1 _ _ hexec hfixed⟩

end Instances

end ArityLint
