import ArityLint.Command
import ArityLint.Proofs.Annotations
import ArityLint.Proofs.Origins
import ArityLint.Proofs.Survival
import ArityLint.Terminal.Print
import Mathlib.Data.List.Basic

namespace ArityLint

namespace Report

/-- The findings that count: those of a file with an error do not. -/
def counted (r : Report) : List Finding := if r.error.isSome then [] else r.findings

def HasMessages (r : Report) : Prop := ∀ f ∈ r.findings, f.HasMessage

end Report

section Messages

theorem meets_any {σ α : Type} (m : ExceptT Error (StateM σ) α) :
    Meets (fun _ => True) m (fun _ => True) fun _ => True where
  ok _ _ _ _ _ := ⟨trivial, trivial⟩
  error _ _ _ _ _ := ⟨trivial, trivial⟩

theorem ends_check_messages (t : Tree) :
    LintM.Ends t.check (fun _ => True) fun fs => ∀ f ∈ fs, f.HasMessage where
  ok _ _ _ _ h := ⟨trivial, hasMessage_of_check h⟩
  error _ _ _ _ _ := ⟨trivial, trivial⟩

variable (g : Grammar) (cwd : Location) (settings : Settings) (fix : Bool)

theorem meets_lintFile_messages (path : Path) :
    Meets (fun _ => True) (lintFile g cwd settings fix path) (fun _ => True) Report.HasMessages := by
  have hreport (source language : String) (fixed : Bool) : Meets (fun _ => True) (do
      let findings ← WorkM.lint (lintSource g source language path.text)
      return { path := path.text, findings, source := some (SourceText.ofString source), fixed })
      (fun _ => True) Report.HasMessages := by
    have hlint : LintM.Ends (lintSource g source language path.text) (fun _ => True)
        fun fs => ∀ f ∈ fs, f.HasMessage := (meets_any _).bind fun t _ => ends_check_messages t
    exact (meets_lint_of (fun _ _ => id) hlint).bind fun findings h => meets_pure h
  refine (meets_any _).bind fun language _ => (meets_any _).bind fun (l, bytes) _ => ?_
  refine (meets_any _).bind fun source _ => ?_
  dsimp only
  split
  · exact (meets_any _).bind fun (source, fixed) _ => hreport source language.name fixed
  · exact hreport source language.name false

theorem meets_reportFile_messages (path : Path) :
    Meets (fun _ => True) (reportFile g cwd settings fix path) (fun _ => True)
      Report.HasMessages := by
  refine (meets_lintFile_messages g cwd settings fix path).tryCatch fun e _ => ?_
  split
  · exact (meets_any _).bind fun _ _ => meets_pure nofun
  · exact meets_throw trivial

theorem hasMessages_of_lintFiles {g : Grammar} {cwd : Location} {settings : Settings} {fix : Bool}
    {paths : List Path} {w w' : Workspace} {reports : List Report}
    (h : (lintFiles g cwd settings fix paths).run.run w = (.ok reports, w')) :
    ∀ r ∈ reports, r.HasMessages := by
  have hmeets : Meets (fun _ => True) (lintFiles g cwd settings fix paths) (fun _ => True)
      fun reports => ∀ r ∈ reports, r.HasMessages := by
    refine (meets_any _).bind fun _ _ => (meets_any _).bind fun files _ => ?_
    refine (meets_any _).bind fun _ _ => ?_
    refine (meets_mapM fun path _ => meets_reportFile_messages g cwd settings fix path).imp ?_
    intro reports hreports
    induction hreports with
    | nil => nofun
    | cons hr _ ih => exact List.forall_mem_cons.2 ⟨hr, ih⟩
  exact (hmeets.ok w reports w' trivial h).2

end Messages

section Sums

theorem sum_map_filter {α : Type} (p : α → Bool) (f : α → Nat) (xs : List α) :
    ((xs.filter p).map f).sum = (xs.map fun x => if p x then f x else 0).sum := by
  induction xs with
  | nil => rfl
  | cons x xs ih => cases h : p x <;> simp [h, ih]

theorem countP_eq_sum {α : Type} (p : α → Bool) (xs : List α) :
    xs.countP p = (xs.map fun x => if p x then 1 else 0).sum := by
  induction xs with
  | nil => rfl
  | cons x xs ih => cases h : p x <;> simp [h, ih]; omega

theorem foldl_add_eq_sum {α : Type} (f : α → Nat) (xs : List α) (n : Nat) :
    xs.foldl (fun n x => n + f x) n = n + (xs.map f).sum := by
  induction xs generalizing n with
  | nil => rfl
  | cons x xs ih => rw [List.foldl_cons, ih, List.map_cons, List.sum_cons, Nat.add_assoc]

end Sums

namespace Stylish

/-- A count over the findings of the files without an error is one over the findings that count. -/
theorem foldl_linted {g : List Finding → Nat} (hg : g [] = 0) (reports : List Report) :
    (reports.filter (·.error.isNone)).foldl (fun n r => n + g r.findings) 0 =
      (reports.map fun r => g r.counted).sum := by
  rw [foldl_add_eq_sum, Nat.zero_add, sum_map_filter]
  congr 2
  funext r
  cases h : r.error <;> simp [Report.counted, h, hg]

theorem totals_problems (reports : List Report) :
    (totals reports).problems = (reports.map fun r => r.counted.length).sum :=
  foldl_linted rfl reports

theorem totals_fixable (reports : List Report) :
    (totals reports).fixable = (reports.map fun r => r.counted.countP (·.fixable)).sum :=
  foldl_linted rfl reports

theorem totals_errors (reports : List Report) :
    (totals reports).errors = (reports.map fun r => if r.error.isSome then 1 else 0).sum :=
  countP_eq_sum _ _

theorem line_ne_of_head {text text' : String} (n : Nat) (h : text.toList[n]? ≠ text'.toList[n]?) :
    Item.line text ≠ .line text' := by
  rintro ⟨⟩
  exact h rfl

theorem summary_eq_noProblems_iff (t : Totals) :
    t.summary = noProblems ↔ t.problems = 0 ∧ t.errors = 0 := by
  unfold Totals.summary
  split
  · next h => exact ⟨fun _ => h, fun _ => rfl⟩
  · next h =>
    refine ⟨fun heq => absurd heq ?_, fun h' => absurd h' h⟩
    exact line_ne_of_head 1 (by simp [String.toList_append])

section Items

variable {c : Console}

theorem exists_row (c : Console) {r : Report} {f : Finding} (h : f.HasMessage) :
    ∃ cells, row c r f = .ok cells :=
  Except.exists_bind_eq_ok h fun _ => ⟨_, rfl⟩

theorem exists_part (c : Console) {r : Report} (h : r.HasMessages) :
    ∃ items, part c r = .ok items := by
  unfold part
  split
  · exact ⟨_, rfl⟩
  · split
    · exact ⟨_, rfl⟩
    · exact Except.exists_bind_eq_ok
        (Except.exists_mapM_eq_ok fun f hf => exists_row c (h f hf)) fun _ => ⟨_, rfl⟩

/-- What is shown of one file begins with its path, so it is not the line for no problems. -/
theorem noProblems_not_mem_part {r : Report} {items : List Item} (h : part c r = .ok items) :
    noProblems ∉ items := by
  unfold part at h
  split at h
  · cases h
    simp only [List.mem_cons, List.not_mem_nil, or_false, not_or, noProblems]
    exact ⟨line_ne_of_head 1 (by simp [String.toList_append]),
      line_ne_of_head 0 (by simp [String.toList_append]), nofun⟩
  · split at h
    · cases h
      exact List.not_mem_nil
    · obtain ⟨rows, -, h⟩ := Except.bind_eq_ok h
      cases h
      simp only [List.mem_cons, List.not_mem_nil, or_false, not_or, noProblems]
      exact ⟨line_ne_of_head 1 (by simp [String.toList_append]), nofun, nofun⟩

theorem part_of_clean {r : Report} (h : r.error = none ∧ r.findings = []) : part c r = .ok [] := by
  rw [part, h.1, h.2]
  rfl

/-- What is handed to the console ends with the summary, and names no problems nowhere else. -/
theorem exists_items (c : Console) {reports : List Report} (h : ∀ r ∈ reports, r.HasMessages) :
    ∃ body, items c reports = .ok (body ++ [(totals reports).summary]) ∧ noProblems ∉ body ∧
      ((∀ r ∈ reports, r.error = none ∧ r.findings = []) → body = []) := by
  obtain ⟨parts, hparts⟩ := Except.exists_mapM_eq_ok fun r hr => exists_part c (h r hr)
  refine ⟨parts.flatten, ?_, ?_, fun hclean => ?_⟩
  · rw [items, hparts]
    rfl
  · intro hmem
    obtain ⟨part, hpart, hmem⟩ := List.mem_flatten.1 hmem
    obtain ⟨r, -, hr⟩ := Except.exists_of_mem_mapM hparts hpart
    exact noProblems_not_mem_part hr hmem
  · refine List.flatten_eq_nil_iff.2 fun part hpart => ?_
    obtain ⟨r, hr, hrpart⟩ := Except.exists_of_mem_mapM hparts hpart
    rw [part_of_clean (hclean r hr)] at hrpart
    exact (Except.ok.inj hrpart).symm

end Items

end Stylish

namespace Github

def isWarning (line : String) : Bool := "::warning ".toList.isPrefixOf line.toList

def isError (line : String) : Bool := "::error ".toList.isPrefixOf line.toList

theorem isWarning_warningLine (path : String) (e : Report.Extent) (message : String) :
    isWarning (warningLine path e message) = true ∧
      isError (warningLine path e message) = false := by
  rw [isWarning, isError, toList_warningLine]
  exact ⟨rfl, rfl⟩

theorem isError_errorLine (path error : String) :
    isWarning (errorLine path error) = false ∧ isError (errorLine path error) = true := by
  rw [isWarning, isError, errorLine]
  simp only [String.toList_append, List.append_assoc]
  exact ⟨rfl, rfl⟩

theorem counts_of_lines {r : Report} {ls : List String} (h : lines r = .ok ls) :
    ls.countP isWarning = r.counted.length ∧
      ls.countP isError = if r.error.isSome then 1 else 0 := by
  unfold lines at h
  unfold Report.counted
  cases herror : r.error with
  | some e =>
    rw [herror] at h
    cases h
    simp [isError_errorLine]
  | none =>
    rw [herror] at h
    have hwarning : ∀ l ∈ ls, isWarning l = true ∧ isError l = false := by
      intro l hl
      obtain ⟨f, -, hf⟩ := Except.exists_of_mem_mapM h hl
      obtain ⟨m, -, hm⟩ := Except.bind_eq_ok hf
      cases hm
      exact isWarning_warningLine _ _ _
    rw [List.countP_eq_length.2 fun l hl => (hwarning l hl).1,
      List.countP_eq_zero.2 fun l hl => by simp [(hwarning l hl).2],
      ← (Except.forall₂_of_mapM h).length_eq]
    exact ⟨rfl, rfl⟩

theorem counts_of_mapM {reports : List Report} {ls : List (List String)}
    (h : reports.mapM lines = .ok ls) :
    ls.flatten.countP isWarning = (Stylish.totals reports).problems ∧
      ls.flatten.countP isError = (Stylish.totals reports).errors := by
  rw [List.countP_flatten, List.countP_flatten, Stylish.totals_problems, Stylish.totals_errors,
    Except.map_eq_of_mapM h fun r l hl => (counts_of_lines hl).1,
    Except.map_eq_of_mapM h fun r l hl => (counts_of_lines hl).2]
  exact ⟨rfl, rfl⟩

theorem exists_lines {r : Report} (h : r.HasMessages) : ∃ ls, lines r = .ok ls := by
  unfold lines
  split
  · exact ⟨_, rfl⟩
  · exact Except.exists_mapM_eq_ok fun f hf => Except.exists_bind_eq_ok (h f hf) fun _ => ⟨_, rfl⟩

/-- Every line is an annotation, and one of a path without a line end stays one line. -/
theorem mem_lines {r : Report} {ls : List String} {l : String} (h : lines r = .ok ls)
    (hl : l ∈ ls) : (isWarning l ∨ isError l) ∧ ('\n' ∉ r.path.toList → '\n' ∉ l.toList) := by
  unfold lines at h
  split at h
  · next e _ =>
    cases h
    obtain rfl := List.mem_singleton.1 hl
    exact ⟨.inr (isError_errorLine _ _).2, fun hpath => newline_not_mem_errorLine hpath e⟩
  · obtain ⟨f, -, hf⟩ := Except.exists_of_mem_mapM h hl
    obtain ⟨m, -, hm⟩ := Except.bind_eq_ok hf
    cases hm
    exact ⟨.inl (isWarning_warningLine _ _ _).1, fun hpath => newline_not_mem_warningLine hpath _ m⟩

theorem ne_empty_of_marked {l : String} (h : isWarning l ∨ isError l) : l ≠ "" := by
  rintro rfl
  rcases h with h | h
  · cases h
  · cases h

theorem intercalate_eq_empty_iff {ls : List String} (h : ∀ l ∈ ls, isWarning l ∨ isError l) :
    "\n".intercalate ls = "" ↔ ls = [] := by
  refine ⟨fun hempty => ?_, fun hls => by rw [hls]; rfl⟩
  match ls with
  | [] => rfl
  | [l] =>
    rw [String.intercalate_singleton] at hempty
    exact absurd hempty (ne_empty_of_marked (h l (by simp)))
  | l :: l' :: ls =>
    rw [String.intercalate_cons_cons] at hempty
    simp at hempty

theorem eq_nil_iff {ls : List String} (h : ∀ l ∈ ls, isWarning l ∨ isError l) :
    ls = [] ↔ ls.countP isWarning = 0 ∧ ls.countP isError = 0 := by
  refine ⟨fun hls => by simp [hls], fun ⟨hwarning, herror⟩ => ?_⟩
  refine List.eq_nil_iff_forall_not_mem.2 fun l hl => ?_
  rcases h l hl with hl' | hl'
  · exact List.countP_eq_zero.1 hwarning l hl hl'
  · exact List.countP_eq_zero.1 herror l hl hl'

end Github

namespace JsonText

def field (entry : Value) (key : String) : Value :=
  match entry with
  | .obj fields => (Value.field? fields key).getD .null
  | _ => .null

def isNull : Value → Bool
  | .null => true
  | _ => false

def hasError (entry : Value) : Bool := !isNull (field entry "error")

def diagnostics (entry : Value) : List Value :=
  match field entry "diagnostics" with
  | .arr items => items
  | _ => []

def hasFix (diagnostic : Value) : Bool := !isNull (field diagnostic "fix")

/-- The diagnostics in the entries with a null error. -/
def linted (entries : List Value) : List Value :=
  (entries.filter fun e => !hasError e).flatMap diagnostics

theorem hasFix_of_findingValue {r : Report} {f : Finding} {v : Value}
    (h : findingValue r f = .ok v) : hasFix v = f.fixable := by
  obtain ⟨m, -, h⟩ := Except.bind_eq_ok h
  cases h
  rw [Finding.fixable]
  cases f.edit <;> rfl

theorem hasError_of_reportValue {r : Report} {v : Value} (h : reportValue r = .ok v) :
    hasError v = r.error.isSome := by
  obtain ⟨ds, -, h⟩ := Except.bind_eq_ok h
  cases h
  cases r.error <;> rfl

theorem diagnostics_of_reportValue {r : Report} {v : Value} (h : reportValue r = .ok v) :
    (diagnostics v).length = r.findings.length ∧
      (diagnostics v).countP hasFix = r.findings.countP (·.fixable) := by
  obtain ⟨ds, hds, h⟩ := Except.bind_eq_ok h
  cases h
  refine ⟨(Except.forall₂_of_mapM hds).length_eq.symm, ?_⟩
  have hmap := Except.map_eq_of_mapM hds fun f v hv => hasFix_of_findingValue hv
  have hcount := congrArg (List.countP id) hmap
  rwa [List.countP_map, List.countP_map] at hcount

theorem counted_of_reportValue {r : Report} {v : Value} (h : reportValue r = .ok v) :
    (if !hasError v then (diagnostics v).length else 0) = r.counted.length ∧
      (if !hasError v then (diagnostics v).countP hasFix else 0) =
        r.counted.countP (·.fixable) := by
  rw [hasError_of_reportValue h, (diagnostics_of_reportValue h).1, (diagnostics_of_reportValue h).2,
    Report.counted]
  cases r.error <;> exact ⟨rfl, rfl⟩

theorem counts_of_mapM {reports : List Report} {entries : List Value}
    (h : reports.mapM reportValue = .ok entries) :
    (linted entries).length = (Stylish.totals reports).problems ∧
      (linted entries).countP hasFix = (Stylish.totals reports).fixable ∧
      entries.countP hasError = (Stylish.totals reports).errors := by
  rw [linted, List.length_flatMap, List.countP_flatMap, sum_map_filter, sum_map_filter,
    countP_eq_sum hasError, Stylish.totals_problems, Stylish.totals_fixable, Stylish.totals_errors,
    Except.map_eq_of_mapM h fun r v hv => (counted_of_reportValue hv).1]
  refine ⟨rfl, ?_, ?_⟩
  · exact congrArg List.sum (Except.map_eq_of_mapM h fun r v hv => (counted_of_reportValue hv).2)
  · exact congrArg List.sum (Except.map_eq_of_mapM h fun r v hv => by
      rw [hasError_of_reportValue hv])

theorem exists_reportValue {r : Report} (h : r.HasMessages) : ∃ v, reportValue r = .ok v :=
  Except.exists_bind_eq_ok
    (Except.exists_mapM_eq_ok fun f hf => Except.exists_bind_eq_ok (h f hf) fun _ => ⟨_, rfl⟩)
    fun _ => ⟨_, rfl⟩

theorem clean_iff {entries : List Value} :
    (∀ e ∈ entries, hasError e = false ∧ diagnostics e = []) ↔
      (linted entries).length = 0 ∧ entries.countP hasError = 0 := by
  rw [linted, List.length_eq_zero_iff, List.flatMap_eq_nil_iff, List.countP_eq_zero]
  constructor
  · exact fun h => ⟨fun e he => (h e (List.mem_filter.1 he).1).2, fun e he => by simp [(h e he).1]⟩
  · intro ⟨hlinted, herror⟩ e he
    have herror := eq_false_of_ne_true (herror e he)
    exact ⟨herror, hlinted e (List.mem_filter.2 ⟨he, by simp [herror]⟩)⟩

end JsonText

namespace Command

theorem any_error_iff (reports : List Report) :
    reports.any (·.error.isSome) ↔ (Stylish.totals reports).errors ≠ 0 := by
  rw [List.any_eq_true, ← Nat.pos_iff_ne_zero]
  exact List.countP_pos_iff.symm

theorem any_finding_iff {reports : List Report} (h : ¬reports.any (·.error.isSome)) :
    (reports.any fun r => !r.findings.isEmpty) ↔ (Stylish.totals reports).problems ≠ 0 := by
  have hcounted : ∀ r ∈ reports, r.counted = r.findings := fun r hr =>
    if_neg fun herror => h (List.any_eq_true.2 ⟨r, hr, herror⟩)
  rw [Stylish.totals_problems, ne_eq, List.sum_eq_zero_iff_forall_eq_nat, List.any_eq_true]
  simp only [List.forall_mem_map, List.length_eq_zero_iff, not_forall, Bool.not_eq_true',
    List.isEmpty_eq_false_iff]
  constructor
  · rintro ⟨r, hr, hne⟩
    exact ⟨r, hr, by rwa [hcounted r hr]⟩
  · rintro ⟨r, hr, hne⟩
    exact ⟨r, hr, by rwa [hcounted r hr] at hne⟩

theorem exitCode_eq (reports : List Report) :
    exitCode reports = if (Stylish.totals reports).errors ≠ 0 then 2
      else if (Stylish.totals reports).problems ≠ 0 then 1 else 0 := by
  unfold exitCode
  by_cases h : reports.any (·.error.isSome)
  · rw [if_pos h, if_pos ((any_error_iff reports).1 h)]
  · rw [if_neg h, if_neg fun h' => h ((any_error_iff reports).2 h')]
    by_cases h' : reports.any fun r => !r.findings.isEmpty
    · rw [if_pos h', if_pos ((any_finding_iff h).1 h')]
    · rw [if_neg h', if_neg fun h'' => h' ((any_finding_iff h).2 h'')]

theorem exitCode_eq_zero_iff (reports : List Report) :
    exitCode reports = 0 ↔
      (Stylish.totals reports).problems = 0 ∧ (Stylish.totals reports).errors = 0 := by
  rw [exitCode_eq]
  split
  · omega
  · split <;> omega

theorem clean_of_exitCode {reports : List Report} (h : exitCode reports = 0) :
    ∀ r ∈ reports, r.error = none ∧ r.findings = [] := by
  unfold exitCode at h
  split at h
  · cases h
  · next herror =>
    split at h
    · cases h
    · next hfinding =>
      rw [List.any_eq_true, not_exists] at herror hfinding
      intro r hr
      exact ⟨by simpa using fun hsome => herror r ⟨hr, hsome⟩,
        by simpa using fun hsome => hfinding r ⟨hr, hsome⟩⟩

theorem exists_print (f : Format) {c : Console} {reports : List Report} {items : List Item}
    (h : ∀ r ∈ reports, r.HasMessages) (hitems : Stylish.items c reports = .ok items)
    (hprint : ∃ output, c.print items = .ok output) :
    ∃ output, f.print c reports = .ok output := by
  have hrender : ∃ text, f.render c reports = .ok text := by
    cases f with
    | stylish =>
      rw [Format.render, Stylish.render, hitems]
      exact hprint
    | json =>
      exact Except.exists_bind_eq_ok
        (Except.exists_mapM_eq_ok fun r hr => JsonText.exists_reportValue (h r hr))
        fun _ => ⟨_, rfl⟩
    | github =>
      exact Except.exists_bind_eq_ok
        (Except.exists_mapM_eq_ok fun r hr => Github.exists_lines (h r hr))
        fun _ => ⟨_, rfl⟩
  refine Except.exists_bind_eq_ok hrender fun text => ?_
  cases f <;> exact ⟨_, rfl⟩

/-- Once its files are linted, a check ends with the exit code of the reports, if they can be
printed. -/
theorem exit_lintAndPrint {c : Console} {g : Grammar} {cwd : Path} {r : CheckRequest}
    {settings : Settings} {logging : Logging} {d : Disk} {reports : List Report} {w : Workspace}
    {items : List Item} (hitems : Stylish.items c reports = .ok items)
    (hprint : ∃ output, c.print items = .ok output)
    (hlint : (lintFiles g cwd.parts settings r.fix r.paths).run.run ⟨{}, d⟩ = (.ok reports, w)) :
    (lintAndPrint c g cwd r settings logging d).exit = exitCode reports := by
  obtain ⟨output, houtput⟩ :=
    exists_print settings.format (hasMessages_of_lintFiles hlint) hitems hprint
  unfold lintAndPrint
  rw [hlint]
  dsimp only
  rw [houtput]

end Command

/-- An exit code, what a console is handed, the lines of annotations and the entries of a document
that tell of the same problems, fixes and errors. -/
structure TellTheSame (exit : Nat) (t : Stylish.Totals) (items : List Item) (lines : List String)
    (entries : List Value) : Prop where
  exit_eq : exit = if t.errors ≠ 0 then 2 else if t.problems ≠ 0 then 1 else 0
  items_iff : exit = 0 ↔ .line "[green]No problems found.[/green]" ∈ items
  items_eq : exit = 0 → items = [.line "[green]No problems found.[/green]"]
  summary : exit ≠ 0 → items.getLast? = some (.line ("[bold yellow]" ++
    (toString t.problems ++ " " ++ "problem" ++ (if t.problems = 1 then "" else "s") ++
      (if t.fixable = 0 then "" else ", " ++ toString t.fixable ++ " fixable with --fix") ++
      (if t.errors = 0 then "" else
        ", " ++ (toString t.errors ++ " " ++ "file" ++ (if t.errors = 1 then "" else "s")) ++
          " with errors")) ++ "[/bold yellow]"))
  output_iff : exit = 0 ↔ "\n".intercalate lines = ""
  entries_iff : exit = 0 ↔
    ∀ e ∈ entries, JsonText.hasError e = false ∧ JsonText.diagnostics e = []
  warnings : lines.countP Github.isWarning = t.problems
  diagnostics : (JsonText.linted entries).length = t.problems
  fixes : (JsonText.linted entries).countP JsonText.hasFix = t.fixable
  errors : lines.countP Github.isError = t.errors
  failures : entries.countP JsonText.hasError = t.errors

theorem formats_tell_the_same (c : Console) {reports : List Report}
    (h : ∀ r ∈ reports, r.HasMessages) :
    ∃ items lines entries,
      Stylish.items c reports = .ok items ∧ Stylish.render c reports = c.print items ∧
      reports.mapM Github.lines = .ok lines ∧
      Github.render reports = .ok ("\n".intercalate lines.flatten) ∧
      reports.mapM JsonText.reportValue = .ok entries ∧
      JsonText.render reports = .ok (Json.render 0 (.arr entries)) ∧
      TellTheSame (Command.exitCode reports) (Stylish.totals reports) items lines.flatten entries ∧
      ((∀ r ∈ reports, '\n' ∉ r.path.toList) →
        Github.textLines ("\n".intercalate lines.flatten) = lines.flatten.map String.toList) ∧
      ((∃ output, c.print items = .ok output) → ∀ g cwd r settings logging d w,
        (lintFiles g cwd.parts settings r.fix r.paths).run.run ⟨{}, d⟩ = (.ok reports, w) →
        (Command.lintAndPrint c g cwd r settings logging d).exit = Command.exitCode reports) := by
  obtain ⟨body, hitems, hbody, hempty⟩ := Stylish.exists_items c h
  obtain ⟨lines, hlines⟩ := Except.exists_mapM_eq_ok fun r hr => Github.exists_lines (h r hr)
  obtain ⟨entries, hentries⟩ :=
    Except.exists_mapM_eq_ok fun r hr => JsonText.exists_reportValue (h r hr)
  obtain ⟨hwarnings, herrors⟩ := Github.counts_of_mapM hlines
  obtain ⟨hdiagnostics, hfixes, hfailures⟩ := JsonText.counts_of_mapM hentries
  have hline : ∀ l ∈ lines.flatten, ∃ r ∈ reports, ∃ ls, Github.lines r = .ok ls ∧ l ∈ ls := by
    intro l hl
    obtain ⟨ls, hls, hl⟩ := List.mem_flatten.1 hl
    obtain ⟨r, hr, hrls⟩ := Except.exists_of_mem_mapM hlines hls
    exact ⟨r, hr, ls, hrls, hl⟩
  -- an annotation is never empty, so joining them loses nothing
  have hmarked : ∀ l ∈ lines.flatten, Github.isWarning l ∨ Github.isError l := by
    intro l hl
    obtain ⟨r, -, ls, hls, hl⟩ := hline l hl
    exact (Github.mem_lines hls hl).1
  refine ⟨_, lines, entries, hitems, by rw [Stylish.render, hitems]; rfl, hlines,
    by rw [Github.render, hlines]; rfl, hentries, by rw [JsonText.render, hentries]; rfl, ?_,
    fun hpaths => ?_, fun hprint _ _ _ _ _ _ _ => Command.exit_lintAndPrint hitems hprint⟩
  · have hzero := Command.exitCode_eq_zero_iff reports
    have hsummary := hzero.trans (Stylish.summary_eq_noProblems_iff _).symm
    exact
      { exit_eq := Command.exitCode_eq reports
        items_iff := by
          rw [hsummary, List.mem_append, List.mem_singleton]
          exact ⟨fun heq => .inr heq.symm, fun hmem => (hmem.resolve_left hbody).symm⟩
        items_eq := fun hexit => by
          rw [hempty (Command.clean_of_exitCode hexit), hsummary.1 hexit]
          rfl
        summary := fun hexit => by
          rw [List.getLast?_concat, Stylish.Totals.summary, if_neg (mt hzero.2 hexit)]
          rfl
        output_iff := by
          rw [hzero, Github.intercalate_eq_empty_iff hmarked, Github.eq_nil_iff hmarked,
            hwarnings, herrors]
        entries_iff := by rw [hzero, JsonText.clean_iff, hdiagnostics, hfailures]
        warnings := hwarnings
        diagnostics := hdiagnostics
        fixes := hfixes
        errors := herrors
        failures := hfailures }
  · refine Github.textLines_intercalate fun l hl => ?_
    obtain ⟨r, hr, ls, hls, hl'⟩ := hline l hl
    exact ⟨(Github.mem_lines hls hl').2 (hpaths r hr),
      Github.ne_empty_of_marked (hmarked l hl)⟩

section Instances

def fixableFinding : Finding :=
  ⟨.str "ArrowFunctionExpression", ⟨0, 17⟩, Rule.messageId, [("count", .int 4)],
    some ⟨⟨1, 11⟩, "\x7b a, b, c, d \x7d"⟩⟩

/-- A clean file, one with findings, and one with an error that keeps its findings. -/
def threeReports : List Report :=
  [{ path := "clean.ts", source := some (.ofString "") },
    { path := "[b]\\", source := some (.ofString "(a, b, c, d) => a"),
      findings := [fixableFinding, { fixableFinding with edit := none }] },
    { path := "both.js", findings := [fixableFinding], error := some "[/red]" }]

theorem threeReports_tell_the_same :
    (∀ r ∈ threeReports, r.HasMessages) ∧ ∃ items lines entries,
      Stylish.items (Terminal.console 80) threeReports = .ok items ∧
      items.getLast? = some (.line
        "[bold yellow]2 problems, 1 fixable with --fix, 1 file with errors[/bold yellow]") ∧
      threeReports.mapM Github.lines = .ok lines ∧
      threeReports.mapM JsonText.reportValue = .ok entries ∧
      TellTheSame 2 ⟨2, 1, 1⟩ items lines.flatten entries := by
  have hmessages : ∀ r ∈ threeReports, r.HasMessages := by
    intro r hr f hf
    simp only [threeReports, List.mem_cons, List.not_mem_nil, or_false] at hr
    rcases hr with rfl | rfl | rfl
    · cases hf
    · simp only [List.mem_cons, List.not_mem_nil, or_false] at hf
      rcases hf with rfl | rfl
      · exact ⟨_, rfl⟩
      · exact ⟨_, rfl⟩
    · cases List.mem_singleton.1 hf
      exact ⟨_, rfl⟩
  obtain ⟨items, lines, entries, hitems, -, hlines, -, hentries, -, hsame, -⟩ :=
    formats_tell_the_same (Terminal.console 80) hmessages
  exact ⟨hmessages, items, lines, entries, hitems, hsame.summary (by decide), hlines, hentries,
    hsame⟩

end Instances

end ArityLint
