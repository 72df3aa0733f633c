import ArityLint.Proofs.Files
import ArityLint.Proofs.Ranges

namespace ArityLint

theorem unifyLineEnds_eq_self {cs : List Char} (h : '\r' ∉ cs) : unifyLineEnds cs = cs := by
  fun_induction unifyLineEnds cs with
  | case1 rest => simp at h
  | case2 rest => simp at h
  | case3 c rest _ _ ih => rw [ih fun hmem => h (List.mem_cons_of_mem _ hmem)]
  | case4 => rfl

theorem Utf8.decode_eq_ok {bytes : ByteArray} {text : String} (h : decode bytes = .ok text) :
    bytes = text.toUTF8 := by
  unfold decode String.fromUTF8? at h
  by_cases hvalid : bytes.IsValidUTF8
  · rw [dif_pos hvalid] at h
    cases h
    rfl
  · rw [dif_neg hvalid] at h
    cases h

theorem readText_eq_ok {bytes : ByteArray} {source : String} (h : readText bytes = .ok source) :
    ∃ text : String, bytes = text.toUTF8 ∧ source = String.ofList (unifyLineEnds text.toList) := by
  obtain ⟨text, htext, rfl⟩ := Except.map_eq_ok h
  exact ⟨text, Utf8.decode_eq_ok htext, rfl⟩

/-- The text becomes another one in rounds, each of which replaces parameter lists of functions and
nothing else. -/
inductive Reworked (g : Grammar) (lang : Language) : String → String → Prop
  | done (source : String) : Reworked g lang source source
  | round {source next output : String} {es : List Edit} :
      (∀ e ∈ es, ∃ d ∈ (g lang source).functionLikes, ∃ list, InParams source d list e) →
      Patched 0 source.toList es next.toList → Reworked g lang next output →
      Reworked g lang source output

theorem hasError_of_treeOver {limits : Limits} {source language path : String} {c : Concrete}
    {t : Tree}
    (h : treeOver limits source language path c = .ok t) : c.token.hasError = false := by
  unfold treeOver at h
  dsimp only at h
  split at h
  · split at h <;> cases h
  · next herror => exact Bool.eq_false_iff.2 herror

/-- In trees without an error the ranges are as in the text. -/
def Grammar.Places (g : Grammar) (lang : Language) : Prop :=
  ∀ source, (g lang source).token.hasError = false → (g lang source).AllPlaced source

theorem Lints.inParams {g : Grammar} {lang : Language} {path source : String}
    {fs : List Finding} (hg : g.Places lang) (h : Lints g lang.name path source fs) :
    ∀ e ∈ editsOf fs, ∃ d ∈ (g lang source).functionLikes, ∃ list, InParams source d list e := by
  obtain ⟨parsers, notes, hexec, _⟩ := h {}
  obtain ⟨t, s, htree, hcheck⟩ := exec_lintSource_tree hexec
  exact edits_inParams htree (hg source (hasError_of_treeOver htree)) hcheck

theorem Rounds.reworked {g : Grammar} {lang : Language} {path source output : String}
    {ks : List Nat} (hg : g.Places lang) (h : Rounds g lang.name path source ks output) :
    Reworked g lang source output := by
  induction h with
  | done source => exact .done source
  | round hlints happly _ ih =>
    have hedits := hlints.inParams hg
    obtain ⟨es, out, hes, happly', hpatched⟩ := applyEdits_keeps fun e he =>
      have ⟨_, _, _, hlist⟩ := hedits e he
      hlist.fits
    obtain ⟨rfl, _⟩ := Prod.mk.inj (happly.symm.trans happly')
    refine .round (fun e he => hedits e (hes e he)) ?_ ih
    rw [String.toList_ofList]
    exact hpatched

section Files

open WorkM

/-- A file that is rewritten holds what its text, with unified line ends, becomes by replacing
parameter lists. Without carriage returns this is the text itself. -/
theorem lintFile_keeps_rest {g : Grammar} {cwd : Location} {settings : Settings} {path : Path}
    {w w' : Workspace} {report : Report}
    (hg : ∀ lang, Language.ofPath path = .ok lang → g.Places lang)
    (h : (lintFile g cwd settings true path).exec w = (.ok report, w'))
    (hfixed : report.fixed = true) :
    ∃ lang l text output, Language.ofPath path = .ok lang ∧ w.disk.lookUp cwd path = .found l ∧
      w.disk.file? l = some text.toUTF8 ∧ w'.disk.file? l = some output.toUTF8 ∧
      Reworked g lang (String.ofList (unifyLineEnds text.toList)) output ∧
      ('\r' ∉ text.toList → Reworked g lang text output) := by
  obtain ⟨lang, l, bytes, source, r, hr⟩ :=
    (ensures_lintFile g cwd settings path w).ok report w' h
  obtain ⟨text, rfl, rfl⟩ := readText_eq_ok hr.read
  obtain ⟨s', hrepair⟩ := hr.repaired
  obtain ⟨rounds, settled, ks, fs, notes, _, hks, _⟩ := exec_repair hrepair
  have hreworked := hks.rounds.reworked (hg lang hr.ofPath)
  refine ⟨lang, l, text, r.output, hr.ofPath, hr.located.1, hr.located.2, ?_, hreworked, ?_⟩
  · rw [hr.disk, ← hr.fixed, hfixed]
    exact w.disk.file?_write l _
  · intro hplain
    rw [unifyLineEnds_eq_self hplain, String.ofList_toList] at hreworked
    exact hreworked

end Files

section Instances

open Node LintM

theorem places_statementGrammar (lang : Language) : statementGrammar.Places lang := by
  intro source herror
  unfold statementGrammar at *
  dsimp only at *
  split
  · next hsource =>
    rw [hsource]
    decide +kernel
  · next hnames =>
    rw [if_neg hnames] at herror
    split
    · next hsource =>
      rw [hsource]
      decide +kernel
    · next hobject =>
      rw [if_neg hobject] at herror
      cases herror

theorem oneFile_keeps_rest :
    (∀ lang, Language.ofPath fileName = .ok lang → statementGrammar.Places lang) ∧
      ∃ report w', (lintFile statementGrammar [] tenRounds true fileName).exec (oneFile namesText) =
          (.ok report, w') ∧ report.fixed = true ∧
        ∃ lang l text output, Language.ofPath fileName = .ok lang ∧
          (oneFile namesText).disk.lookUp [] fileName = .found l ∧
          (oneFile namesText).disk.file? l = some text.toUTF8 ∧
          w'.disk.file? l = some output.toUTF8 ∧
          Reworked statementGrammar lang (String.ofList (unifyLineEnds text.toList)) output ∧
          ('\r' ∉ text.toList → Reworked statementGrammar lang text output) := by
  obtain ⟨report, w', hexec, hfixed, _⟩ := exec_lintFile_oneFile namesText rfl
  have hg : ∀ lang, Language.ofPath fileName = .ok lang → statementGrammar.Places lang :=
    fun lang _ => places_statementGrammar lang
  exact ⟨hg, report, w', hexec, hfixed, lintFile_keeps_rest hg hexec hfixed⟩

def returnText : String := "(a, b, c, d) => a\r\n"

theorem lintFile_changes_line_end :
    statementGrammar.Places .javascript ∧
      ∃ report w', (lintFile statementGrammar [] tenRounds true fileName).exec (oneFile returnText) =
          (.ok report, w') ∧ report.fixed = true ∧
        w'.disk.file? ["a.js"] = some objectText.toUTF8 ∧
        ∀ es : List Edit, (∀ e ∈ es, e.span.stop ≤ 12) →
          ¬Patched 0 returnText.toList es objectText.toList := by
  obtain ⟨report, w', hexec, hfixed, hfile⟩ := exec_lintFile_oneFile returnText rfl
  refine ⟨places_statementGrammar _, report, w', hexec, hfixed, hfile, fun es hes hpatched => ?_⟩
  have hsuffix := hpatched.suffix hes (Nat.zero_le 12)
  exact absurd hsuffix (by decide)

end Instances

end ArityLint
