import ArityLint.Proofs.FirstError
import ArityLint.Proofs.LineEnds
import ArityLint.Proofs.Listing
import ArityLint.Proofs.Soundness

namespace ArityLint

theorem map_eq_of_forall₂ {α β γ : Type} {k : α → γ} {f : β → γ} {xs : List α} {ys : List β}
    (h : List.Forall₂ (fun a b => f b = k a) xs ys) : ys.map f = xs.map k := by
  induction h with
  | nil => rfl
  | cons hab _ ih => rw [List.map_cons, List.map_cons, hab, ih]

def Error.IsForFile (e : Error) : Prop := ∀ path, (e.forFile? path).isSome

/-- If the grammar finds no error in the text, its tree can be lowered, and no kind in it is the
type name of a function; an error that it finds lies within reach of the search. -/
structure Grammar.IsSoundAt (g : Grammar) (lang : Language) (source : String) : Prop where
  sound : (g lang source).token.hasError = false → (g lang source).AllSound source ∧
    (g lang source).AllKinds fun kind => ∀ k : FunctionKind, kind ≠ k.name
  reach : (g lang source).token.hasError = true →
    (g lang source).searchHeight ≤ g.limits.search

theorem isForFile_of_treeOver {limits : Limits} {source language path : String} {c : Concrete}
    {e : Error} (hc : c.token.hasError = false → c.AllSound source)
    (hreach : c.token.hasError = true → c.searchHeight ≤ limits.search)
    (h : treeOver limits source language path c = .error e) : e.IsForFile := by
  unfold treeOver at h
  dsimp only at h
  split at h
  · next hbad =>
    obtain ⟨found, hfound⟩ := c.exists_firstError? (hreach hbad)
    have hline : ∃ line, errorLine limits.search c = .ok line := by
      unfold errorLine
      rw [hfound]
      cases found <;> exact ⟨_, rfl⟩
    obtain ⟨line, hline⟩ := hline
    rw [hline] at h
    cases h
    exact fun _ => rfl
  · next hgood =>
    split at h
    · cases h
      exact fun _ => rfl
    · next f hfault =>
      have hsound := hc (Bool.eq_false_iff.2 hgood)
      exact absurd hfault (Lower.safe_ofConcrete rfl hsound _ _ f)
    · cases h

/-- The texts that a run over the files of a disk can meet: those of the files, what a round of a
repair makes of such a text, and what is read once that is written, as far as there is room. -/
inductive Arises (g : Grammar) (d : Disk) : String → Prop
  | file {l : Location} {bytes : ByteArray} {source : String} :
      d.file? l = some bytes → readText bytes = .ok source → Arises g d source
  | round {language path source : String} {fs : List Finding} :
      Arises g d source → Lints g language path source fs →
      Arises g d (applyEdits source (editsOf fs)).1
  | reread {source : String} :
      Arises g d source → Arises g d (String.ofList (unifyLineEnds source.toList))
  | cut {l : Location} {output source : String} :
      Arises g d output → d.capacity l output.toUTF8.size < output.toUTF8.size →
      readText (output.toUTF8.extract 0 (d.capacity l output.toUTF8.size)) = .ok source →
      Arises g d source

section Texts

variable {g : Grammar} {lang : Language}

theorem ends_lintSource {source : String} (path : String) (hg : g.IsSoundAt lang source) :
    (lintSource g source lang.name path).Ends Error.IsForFile
      (Lints g lang.name path source) := by
  cases htree : treeOver g.limits source lang.name path (g lang source) with
  | error e =>
    have hyields := yields_treeOver g lang source path
    rw [htree] at hyields
    refine (hyields.bind_error (f := Tree.check)).ends nofun ?_
    rintro e ⟨⟩
    exact isForFile_of_treeOver (fun hgood => (hg.sound hgood).1) hg.reach htree
  | ok t =>
    obtain ⟨vs, _, hlints⟩ := lints_report htree (hg.sound (hasError_of_treeOver htree)).2
    refine LintM.Yields.ends hlints ?_ nofun
    rintro fs ⟨⟩
    exact hlints

variable {d : Disk} (hg : ∀ source, Arises g d source → g.IsSoundAt lang source)
include hg

theorem ends_run (path : String) (left : Nat) {r : Repair} (hr : Arises g d r.output) :
    (Repair.run g lang.name path left r).Ends Error.IsForFile
      fun (r', _) => Arises g d r'.output := by
  induction left generalizing r with
  | zero => exact meets_pure hr
  | succ left ih =>
    have hpass : (Repair.pass g lang.name path r).Ends Error.IsForFile
        fun next => ∀ r' ∈ next, Arises g d r'.output := by
      refine (ends_lintSource path (hg _ hr)).bind fun fs hfs => ?_
      dsimp only
      split
      · exact meets_pure nofun
      · refine meets_pure ?_
        rintro r' ⟨⟩
        exact hr.round hfs
    refine hpass.bind fun next hnext => ?_
    cases next with
    | none => exact meets_pure hr
    | some next => exact ih (hnext next rfl)

theorem ends_repair {source : String} (path : String) (hsource : Arises g d source)
    {limit : Quantity} {rounds : Nat} (hrounds : limit.rounds = .ok rounds) :
    (repair g source lang.name path limit).Ends Error.IsForFile fun r => Arises g d r.output := by
  have hlimit : (LintM.ofFault limit.rounds).Ends Error.IsForFile fun _ => True := by
    rw [hrounds]
    exact meets_pure trivial
  refine hlimit.bind fun n _ => (ends_run hg path n hsource).bind fun (r, settled) hr => ?_
  have hpending : (r.pending g lang.name path).Ends Error.IsForFile fun _ => True :=
    (ends_lintSource path (hg _ hr)).bind fun fs _ => meets_pure trivial
  have hwarn : (r.warnPending g lang.name path limit).Ends Error.IsForFile fun _ => True := by
    refine hpending.bind fun pending _ => ?_
    split
    · exact meets_pure trivial
    · exact LintM.ends_log _ _ _
  dsimp only
  split
  · exact meets_pure hr
  · exact hwarn.bind fun _ _ => meets_pure hr

end Texts

/-- Every text in the workspace can arise from the files of a disk, and the same is kept from being
done. -/
structure Workspace.Descends (g : Grammar) (d : Disk) (w : Workspace) : Prop where
  restrictions : w.disk.restrictions = d.restrictions
  arises : ∀ l bytes source, w.disk.file? l = some bytes → readText bytes = .ok source →
    Arises g d source

section Files

variable {g : Grammar} {settings : Settings} {fix : Bool} {d : Disk} {path : Path}

theorem Workspace.Descends.overwrite {w : Workspace} {output : String} (h : w.Descends g d)
    (houtput : Arises g d output) (l : Location) (name : String) :
    Workspace.Descends g d { w with disk := (w.disk.overwrite l name output.toUTF8).2 } := by
  have hwrite : ∀ bytes, (∀ source, readText bytes = .ok source → Arises g d source) →
      Workspace.Descends g d { w with disk := w.disk.write l bytes } := by
    refine fun bytes harises => ⟨h.restrictions, fun k held source hheld hsource => ?_⟩
    rcases Disk.file?_write_eq_some hheld with rfl | hold
    · exact harises source hsource
    · exact h.arises k held source hold hsource
  -- nothing is written, the beginning of the output, or all of it
  rcases w.disk.overwrite_cases l name output.toUTF8 with hw | ⟨hshort, hw⟩ | hw
  all_goals rw [hw]
  · exact h
  · have hroom : w.disk.capacity l output.toUTF8.size = d.capacity l output.toUTF8.size := by
      rw [Disk.capacity, Disk.capacity, h.restrictions]
    rw [hroom] at hshort ⊢
    exact hwrite _ fun source => houtput.cut hshort
  · refine hwrite _ fun source hsource => ?_
    obtain ⟨text, htext, rfl⟩ := readText_eq_ok hsource
    obtain rfl : output = text := String.toByteArray_inj.1 htext
    exact houtput.reread

theorem meets_lint_of {α : Type} {I : Workspace → Prop} {m : LintM α} {P : Error → Prop}
    {Q : α → Prop} (hI : ∀ w session, I w → I { w with session }) (h : m.Ends P Q) :
    Meets I (WorkM.lint m) P Q where
  ok w a w' hw hr := by
    change WorkM.exec (WorkM.lint m) w = _ at hr
    rw [WorkM.exec_lint] at hr
    obtain ⟨ha, rfl⟩ := Prod.mk.inj hr
    exact ⟨hI w _ hw, (h.ok w.session a _ trivial (Prod.ext ha rfl)).2⟩
  error w e w' hw hr := by
    change WorkM.exec (WorkM.lint m) w = _ at hr
    rw [WorkM.exec_lint] at hr
    obtain ⟨he, rfl⟩ := Prod.mk.inj hr
    exact ⟨hI w _ hw, (h.error w.session e _ trivial (Prod.ext he rfl)).2⟩

theorem meets_lint {α : Type} {m : LintM α} {P : Error → Prop} {Q : α → Prop} (h : m.Ends P Q) :
    Meets (Workspace.Descends g d) (WorkM.lint m) P Q :=
  meets_lint_of (fun _ _ hw => ⟨hw.restrictions, hw.arises⟩) h

theorem meets_ofExcept {α : Type} {r : Except Error α} {P : Error → Prop} {Q : α → Prop}
    (hok : ∀ a, r = .ok a → Q a) (herror : ∀ e, r = .error e → P e) :
    Meets (Workspace.Descends g d) (WorkM.ofExcept r) P Q :=
  meets_lint ((LintM.yields_ofExcept r).ends hok herror)

theorem isForFile_of_ofPath {e : Error} (h : Language.ofPath path = .error e) : e.IsForFile := by
  unfold Language.ofPath at h
  split at h
  · cases h
  · cases h
    exact fun _ => rfl

theorem isForFile_of_sourceOf {bytes : ByteArray} {e : Error} (h : sourceOf path bytes = .error e) :
    e.IsForFile := by
  unfold sourceOf at h
  split at h
  · cases h
  · cases h
    exact fun _ => rfl

theorem isForFile_of_fileAt {cwd : Location} {e : Error} (hpath : path.hasNull = false)
    (h : fileAt cwd d path = .error e) : e.IsForFile := by
  unfold fileAt at h
  dsimp only at h
  rw [hpath] at h
  rw [if_neg Bool.false_ne_true] at h
  split at h
  case h_5 l =>
    split at h
    · cases h
      exact fun _ => rfl
    · split at h
      · cases h
      · cases h
        exact fun _ => rfl
  all_goals
    cases h
    exact fun _ => rfl

/-- A path without null characters is opened, or refused with a failure for its file. -/
theorem meets_openFile (cwd : Location) (hpath : path.hasNull = false) :
    Meets (Workspace.Descends g d) (openFile cwd path) Error.IsForFile
      fun (_, bytes) => ∀ source, readText bytes = .ok source → Arises g d source := by
  have hfile : ∀ w : Workspace, w.Descends g d →
      Meets (Workspace.Descends g d) (WorkM.ofExcept (fileAt cwd w.disk path)) Error.IsForFile
        fun (_, bytes) => ∀ source, readText bytes = .ok source → Arises g d source := by
    intro w hw
    refine meets_ofExcept ?_ fun e => isForFile_of_fileAt hpath
    rintro ⟨l, bytes⟩ hopened source
    exact hw.arises l bytes source (fileAt_eq_ok cwd path hopened).2
  exact ⟨fun w a w' hw h => (hfile w hw).ok w a w' hw h,
    fun w e w' hw h => (hfile w hw).error w e w' hw h⟩

theorem meets_writeFile {output : String} (houtput : Arises g d output) (l : Location) :
    Meets (Workspace.Descends g d) (writeFile path l output) Error.IsForFile fun _ => True where
  ok w _ w' hw h := by
    obtain ⟨_, rfl⟩ := Prod.mk.inj ((exec_writeFile path l output w).symm.trans h)
    exact ⟨hw.overwrite houtput l path.text, trivial⟩
  error w e w' hw h := by
    obtain ⟨he, rfl⟩ := Prod.mk.inj ((exec_writeFile path l output w).symm.trans h)
    refine ⟨hw.overwrite houtput l path.text, ?_⟩
    generalize (w.disk.overwrite l path.text output.toUTF8).1 = written at he
    cases written with
    | ok => cases he
    | error f =>
      cases he
      exact fun _ => rfl

variable (hlimit : fix = true → ∃ rounds, settings.maxFixPasses.rounds = .ok rounds)
include hlimit

theorem meets_repairFile {lang : Language} {source : String}
    (hg : ∀ source, Arises g d source → g.IsSoundAt lang source) (hsource : Arises g d source)
    (l : Location) (hfix : fix = true) :
    Meets (Workspace.Descends g d) (repairFile g settings path l source lang.name)
      Error.IsForFile fun (source, _) => Arises g d source := by
  obtain ⟨rounds, hrounds⟩ := hlimit hfix
  refine (meets_lint (ends_repair hg path.text hsource hrounds)).bind fun r hr => ?_
  dsimp only
  split
  · refine (meets_writeFile hr l).bind fun _ _ => ?_
    exact (meets_lint (LintM.ends_log _ _ _)).bind fun _ _ => meets_pure hr
  · exact meets_pure hr

variable (hg : ∀ lang, Language.ofPath path = .ok lang → ∀ source, Arises g d source →
  g.IsSoundAt lang source) (cwd : Location) (hpath : path.hasNull = false)
include hg hpath

theorem meets_lintFile :
    Meets (Workspace.Descends g d) (lintFile g cwd settings fix path) Error.IsForFile
      fun r => r.path = path.text := by
  refine (meets_ofExcept (Q := fun lang => Language.ofPath path = .ok lang)
    (fun _ => id) fun e => isForFile_of_ofPath).bind fun lang hlang => ?_
  refine (meets_openFile cwd hpath).bind fun (l, bytes) hbytes => ?_
  refine (meets_ofExcept (Q := Arises g d)
    (fun source hsource => hbytes source (sourceOf_eq_ok path hsource))
    fun e => isForFile_of_sourceOf).bind fun source hsource => ?_
  have hsound := hg lang hlang
  have hreport : ∀ (source : String) (fixed : Bool), Arises g d source →
      Meets (Workspace.Descends g d) (do
        let findings ← WorkM.lint (lintSource g source lang.name path.text)
        return { path := path.text, findings, source := some (SourceText.ofString source), fixed })
        Error.IsForFile fun r : Report => r.path = path.text := fun source fixed hsource =>
    (meets_lint (ends_lintSource path.text (hsound source hsource))).bind fun _ _ =>
      meets_pure rfl
  dsimp only
  split
  · next hfix =>
    exact (meets_repairFile hlimit hsound hsource l hfix).bind fun (source, fixed) hsource =>
      hreport source fixed hsource
  · exact hreport source false hsource

theorem meets_reportFile :
    Meets (Workspace.Descends g d) (reportFile g cwd settings fix path) (fun _ => False)
      fun r => r.path = path.text := by
  refine (meets_lintFile hlimit hg cwd hpath).tryCatch fun e he => ?_
  obtain ⟨message, hmessage⟩ := Option.isSome_iff_exists.1 (he path)
  rw [hmessage]
  exact (meets_lint (LintM.ends_log _ _ _)).bind fun _ _ => meets_pure rfl

end Files

def Disk.HasNames (d : Disk) : Prop := ∀ f ∈ d.files, ∀ part ∈ f.1, '\x00' ∉ part.toList

theorem hasNull_of_lookUp {d : Disk} {cwd l : Location} {p : Path}
    (h : d.lookUp cwd p = .found l) : p.hasNull = false := by
  unfold Disk.lookUp at h
  split at h
  · cases h
  · next hnull => exact Bool.eq_false_iff.2 hnull

namespace Collect

theorem hasNull_of_mem_search {d : Disk} {p : Path} {l : Location} (hd : d.HasNames)
    (hp : p.hasNull = false) : ∀ f ∈ search d p l, f.shut = false → f.path.hasNull = false := by
  intro f hf hopen
  obtain ⟨relative, hpath, _, entry, hentry, hlocation⟩ := mem_search hf hopen
  have hparts := hd entry hentry
  rw [hlocation] at hparts
  rw [hpath]
  simp only [Path.hasNull, List.any_append, Bool.or_eq_false_iff, List.any_eq_false,
    List.contains_iff_mem] at hp ⊢
  exact ⟨hp, fun part hpart => hparts part (List.mem_append_right l hpart)⟩

theorem keeps_hasNull : Haul.Keeps (fun h => ∀ p ∈ h.files, p.hasNull = false)
    fun p _ => p.hasNull = false where
  full _ hh := hh
  take h p _ hh hp _ := by
    intro q hq
    rcases List.mem_append.1 hq with hq | hq
    · exact hh q hq
    · rw [List.mem_singleton.1 hq]
      exact hp

end Collect

theorem ends_collect {d : Disk} (hd : d.HasNames) (cwd : Location) (s : Settings)
    (paths : List Path) : (collect d cwd s paths).Ends (fun _ => True)
      fun files => ∀ p ∈ files, p.hasNull = false :=
  (Collect.ends_addPaths Collect.keeps_hasNull (fun _ _ => hasNull_of_lookUp)
    (fun _ _ hl => Collect.hasNull_of_mem_search hd (hasNull_of_lookUp hl))
    fun _ hp => absurd hp List.not_mem_nil).bind fun _ hh => meets_pure hh

section Run

open WorkM

theorem exec_lintFiles (g : Grammar) {cwd : Location} {settings : Settings} (fix : Bool)
    {paths files : List Path} {w : Workspace} {s : Session}
    (h : (collect w.disk cwd settings paths).exec w.session = (.ok files, s)) :
    ∃ s₁, (lintFiles g cwd settings fix paths).exec w =
      (files.mapM (reportFile g cwd settings fix)).exec ⟨s₁, w.disk⟩ := by
  have hlint : exec (lint (collect w.disk cwd settings paths)) w = (.ok files, ⟨s, w.disk⟩) := by
    rw [exec_lint, h]
  have hbind : exec (lintFiles g cwd settings fix paths) w =
      exec (lint (collect w.disk cwd settings paths) >>= fun files => do
        WorkM.log .debug ("Linting " ++ toString files.length ++ " file(s)")
        files.mapM (reportFile g cwd settings fix)) w := rfl
  rw [hbind, exec_bind, hlint]
  exact ⟨_, rfl⟩

/-- A run over files whose collection succeeds gives exactly one report for each collected file, in
order, if the grammar is sound at the texts of the files and at those that rounds of a repair and
writes make of them: trees without an error can be lowered, and other trees are not too deep for the
search for their first error. -/
theorem lintFiles_reports_each {g : Grammar} {cwd : Location} {settings : Settings} {fix : Bool}
    {paths files : List Path} {w : Workspace} {s : Session}
    (hcollect : (collect w.disk cwd settings paths).exec w.session = (.ok files, s))
    (hg : ∀ p ∈ files, ∀ lang, Language.ofPath p = .ok lang → ∀ source, Arises g w.disk source →
      g.IsSoundAt lang source)
    (hlimit : fix = true → ∃ rounds, settings.maxFixPasses.rounds = .ok rounds)
    (hd : w.disk.HasNames) :
    ∃ reports w', (lintFiles g cwd settings fix paths).exec w = (.ok reports, w') ∧
      reports.map (·.path) = files.map (·.text) := by
  have hfiles := ((ends_collect hd cwd settings paths).ok _ _ _ trivial hcollect).2
  have hreports := meets_mapM fun p hp => meets_reportFile hlimit (hg p hp) cwd (hfiles p hp)
  obtain ⟨s₁, hs₁⟩ := exec_lintFiles g fix hcollect
  have hself : Workspace.Descends g w.disk ⟨s₁, w.disk⟩ := ⟨rfl, fun _ _ _ => .file⟩
  rcases hrun : (files.mapM (reportFile g cwd settings fix)).exec ⟨s₁, w.disk⟩ with
    ⟨e | reports, w'⟩
  · exact (hreports.error _ e w' hself hrun).2.elim
  · obtain ⟨_, hpaths⟩ := hreports.ok _ reports w' hself hrun
    exact ⟨reports, w', hs₁.trans hrun, map_eq_of_forall₂ hpaths⟩

end Run

section Instances

open WorkM

theorem isSoundAt_statementGrammar (lang : Language) (source : String) :
    statementGrammar.IsSoundAt lang source := by
  have hreach : (statementGrammar lang source).searchHeight ≤ 1000 := by
    unfold statementGrammar
    dsimp only
    split
    · decide
    · split <;> decide
  refine ⟨fun herror => ?_, fun _ => hreach⟩
  unfold statementGrammar at *
  dsimp only at *
  split
  · next hsource =>
    rw [hsource]
    exact ⟨Concrete.allSound_iff.2 (by decide +kernel), Concrete.allKinds_genuine (by decide)⟩
  · next hnames =>
    rw [if_neg hnames] at herror
    split
    · next hsource =>
      rw [hsource]
      exact ⟨Concrete.allSound_iff.2 (by decide +kernel), Concrete.allKinds_genuine (by decide)⟩
    · next hobject =>
      rw [if_neg hobject] at herror
      cases herror

/-- Beside the file that can be repaired there is one that cannot be parsed. -/
def twoFiles : Workspace :=
  ⟨{}, ⟨[(["a.js"], namesText.toUTF8), (["b.js"], "(".toUTF8)], [], {}⟩⟩

theorem twoFiles_reports_each :
    (collect twoFiles.disk [] tenRounds [fileName, ⟨.relative, ["b.js"]⟩]).exec {} =
        (.ok [fileName, ⟨.relative, ["b.js"]⟩], {}) ∧
      (∀ lang source, Arises statementGrammar twoFiles.disk source →
        statementGrammar.IsSoundAt lang source) ∧
      (∃ rounds, tenRounds.maxFixPasses.rounds = .ok rounds) ∧ twoFiles.disk.HasNames ∧
      ∃ reports w', (lintFiles statementGrammar [] tenRounds true
          [fileName, ⟨.relative, ["b.js"]⟩]).exec twoFiles = (.ok reports, w') ∧
        reports.map (·.path) = ["a.js", "b.js"] := by
  have hcollect : (collect twoFiles.disk [] tenRounds [fileName, ⟨.relative, ["b.js"]⟩]).exec {} =
      (.ok [fileName, ⟨.relative, ["b.js"]⟩], {}) := rfl
  have hsound : ∀ lang source, Arises statementGrammar twoFiles.disk source →
      statementGrammar.IsSoundAt lang source :=
    fun lang source _ => isSoundAt_statementGrammar lang source
  have hlimit : ∃ rounds, tenRounds.maxFixPasses.rounds = .ok rounds := ⟨10, rfl⟩
  have hnames : twoFiles.disk.HasNames := by
    unfold Disk.HasNames
    decide
  exact ⟨hcollect, hsound, hlimit, hnames,
    lintFiles_reports_each hcollect (fun _ _ lang _ => hsound lang) (fun _ => hlimit) hnames⟩

/-- `type T = [x?: 1];` -/
def tupleTree : Concrete :=
  .node (token "program" 0 18 none)
    [.node (token "type_alias_declaration" 0 17 none)
      [mark "type" 0, .node (token "type_identifier" 5 6 (some "name")) [], mark "=" 7,
        .node (token "tuple_type" 9 16 (some "value"))
          [mark "[" 9,
            .node (token "optional_parameter" 10 15 none)
              [.node (token "identifier" 10 11 (some "name")) [], mark "?" 11,
                .node (token "type_annotation" 12 15 (some "type"))
                  [mark ":" 12, .node (token "literal_type" 14 15 none)
                    [.node (token "number" 14 15 none) []]]],
            mark "]" 15],
        mark ";" 16]]

def tupleSource : String := "type T = [x?: 1];\n"

def tupleFile : Workspace := ⟨{}, ⟨[(["t.ts"], tupleSource.toUTF8)], [], {}⟩⟩

def tuplePath : Path := ⟨.relative, ["t.ts"]⟩

/-- A labelled member of a tuple type stops the run: it has no pattern. -/
theorem lintFiles_stops_at_labelled_tuple :
    tupleTree.token.hasError = false ∧
      (collect tupleFile.disk [] tenRounds [tuplePath]).exec {} = (.ok [tuplePath], {}) ∧
      ∃ w', (lintFiles (.constant tupleTree) [] tenRounds false [tuplePath]).exec tupleFile =
        (.error (.fault (.missingNode "end_byte")), w') := by
  exact ⟨rfl, rfl, _, rfl⟩

end Instances

end ArityLint
