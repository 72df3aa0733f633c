import ArityLint.Proofs.Edits
import ArityLint.Proofs.Functions
import ArityLint.Proofs.Reports
import Mathlib.Algebra.BigOperators.Group.List.Basic
import Mathlib.Algebra.Ring.Nat

namespace ArityLint

open LintM

variable {g : Grammar} {language path source : String} {fs : List Finding}

/-- Linting the text gives these findings, in whatever session it is done. -/
def Lints (g : Grammar) (language path source : String) (fs : List Finding) : Prop :=
  (lintSource g source language path).Yields (.ok fs)

theorem Lints.unique {fs' : List Finding} (h : Lints g language path source fs)
    (h' : Lints g language path source fs') : fs = fs' := by
  have he : Except.ok fs = Except.ok fs' := Yields.unique h h'
  exact Except.ok.inj he

theorem yields_lintSource (g : Grammar) (source language path : String) :
    ∃ r, (lintSource g source language path).Yields r := by
  have htree := yields_treeOf g source language path
  cases hr : Language.ofName language >>= fun lang =>
    treeOver g.limits source language path (g lang source) with
  | error e =>
    rw [hr] at htree
    exact ⟨_, htree.bind_error⟩
  | ok t =>
    rw [hr] at htree
    obtain ⟨r, hcheck, _⟩ := yields_check t
    exact ⟨r, htree.bind_ok hcheck⟩

theorem exec_lintSource {s s' : Session}
    (h : (lintSource g source language path).exec s = (.ok fs, s')) :
    Lints g language path source fs := by
  obtain ⟨r, hr⟩ := yields_lintSource g source language path
  have hok := hr.fst_exec s
  rw [h] at hok
  rw [← hok] at hr
  exact hr

theorem Language.ofName_name (lang : Language) : ofName lang.name = .ok lang := by
  cases lang <;> rfl

theorem exec_lintSource_tree {lang : Language} {s s' : Session}
    (h : (lintSource g source lang.name path).exec s = (.ok fs, s')) :
    ∃ t s₁, treeOver g.limits source lang.name path (g lang source) = .ok t ∧
      t.check.exec s₁ = (.ok fs, s') := by
  obtain ⟨t, s₁, htree, hcheck⟩ := exec_bind_eq_ok h
  have hr := (yields_treeOf g source lang.name path).fst_exec s
  rw [htree, lang.ofName_name] at hr
  exact ⟨t, s₁, hr.symm, hcheck⟩

theorem yields_treeOver (g : Grammar) (lang : Language) (source path : String) :
    (treeOf g source lang.name path).Yields
      (treeOver g.limits source lang.name path (g lang source)) := by
  have htree := yields_treeOf g source lang.name path
  rw [lang.ofName_name] at htree
  exact htree

/-- A text with a tree is linted, unless a concrete node bears a function's type name. -/
theorem lints_report {lang : Language} {t : Tree}
    (h : treeOver g.limits source lang.name path (g lang source) = .ok t)
    (hkinds : (g lang source).AllKinds fun kind => ∀ k : FunctionKind, kind ≠ k.name) :
    ∃ vs, t.Lists vs ∧ Lints g lang.name path source (vs.map t.report) := by
  have htree := yields_treeOver g lang source path
  rw [h] at htree
  obtain ⟨parsers, notes, hexec, _⟩ := htree {}
  have hbuilt : t.Built := .ofText hexec fun lang' hlang => by
    cases lang.ofName_name.symm.trans hlang
    exact hkinds
  obtain ⟨vs, hvs, hcheck⟩ := Tree.yields_check_report hbuilt.hasTexts hbuilt.allGenuine
  exact ⟨vs, hvs, htree.bind_ok hcheck⟩

theorem Lints.start_nonneg (h : Lints g language path source fs) :
    ∀ e ∈ editsOf fs, 0 ≤ e.span.start := by
  intro e he
  obtain ⟨parsers, notes, hexec, _⟩ := h {}
  obtain ⟨t, s₁, htree, hcheck⟩ := exec_bind_eq_ok hexec
  have hlow := allLowered_treeOf htree (Q := fun _ => True) (fun _ _ _ _ => trivial) trivial
  obtain ⟨v, hv, hve⟩ := List.mem_filterMap.1 ((editsOf_perm hcheck).mem_iff.1 he)
  obtain ⟨params, first, last, hp, hfirst, _, hspan⟩ := edit?_spansParams hve
  have hedge := Node.mem_edges_of_mem_params hp (List.mem_of_head? hfirst)
  rw [hspan]
  exact (hlow first ((Tree.mem_walk.1 hv).contains.child hedge)).1

/-- Rounds of linting and applying from one text to another, with the number of edits of each. -/
inductive Rounds (g : Grammar) (language path : String) : String → List Nat → String → Prop
  | done (source : String) : Rounds g language path source [] source
  | round {source next output : String} {fs : List Finding} {k : Nat} {ks : List Nat} :
      Lints g language path source fs → applyEdits source (editsOf fs) = (next, k) →
      Rounds g language path next ks output → Rounds g language path source (k :: ks) output

namespace Repair

/-- How a run of at most `left` rounds gets from one state to another: by rounds with the counts
`ks`, until nothing is left to apply or no round is left. -/
structure Reaches (g : Grammar) (language path : String) (left : Nat) (r r' : Repair)
    (settled : Bool) (ks : List Nat) : Prop where
  rounds : Rounds g language path r.output ks r'.output
  pos : ∀ k ∈ ks, 1 ≤ k
  passes : r'.passes = r.passes + ks.length
  applied : r'.applied = r.applied + ks.sum
  fixed : r'.fixed = (r.fixed || !ks.isEmpty)
  unsettled : settled = false → ks.length = left
  settled : settled = true →
    ks.length < left ∧ ∃ fs, Lints g language path r'.output fs ∧ editsOf fs = []

theorem yields_pass_none {r : Repair} (h : Lints g language path r.output fs)
    (hfs : editsOf fs = []) : (pass g language path r).Yields (.ok none) := by
  have hzero := (applyEdits_eq_zero_iff h.start_nonneg r.output).2 hfs
  apply h.bind_ok
  dsimp only
  rw [if_pos hzero]
  exact yields_pure _

theorem yields_pass_some {r : Repair} (h : Lints g language path r.output fs)
    (hfs : editsOf fs ≠ []) : (pass g language path r).Yields (.ok (some
      ⟨(applyEdits r.output (editsOf fs)).1, true,
        r.applied + (applyEdits r.output (editsOf fs)).2, r.passes + 1⟩)) := by
  have hpos := mt (applyEdits_eq_zero_iff h.start_nonneg r.output).1 hfs
  apply h.bind_ok
  dsimp only
  rw [if_neg hpos]
  exact yields_pure _

theorem Reaches.cons {left : Nat} {r r' : Repair} {settled : Bool} {ks : List Nat}
    (h : Lints g language path r.output fs) (hfs : editsOf fs ≠ [])
    (hr : Reaches g language path left
      ⟨(applyEdits r.output (editsOf fs)).1, true,
        r.applied + (applyEdits r.output (editsOf fs)).2, r.passes + 1⟩ r' settled ks) :
    Reaches g language path (left + 1) r r' settled
      ((applyEdits r.output (editsOf fs)).2 :: ks) where
  rounds := .round h rfl hr.rounds
  pos := by
    have hpos := mt (applyEdits_eq_zero_iff h.start_nonneg r.output).1 hfs
    exact List.forall_mem_cons.2 ⟨by omega, hr.pos⟩
  passes := by
    have hpasses := hr.passes
    simp only [List.length_cons] at *
    omega
  applied := by
    have happlied := hr.applied
    simp only [List.sum_cons] at *
    omega
  fixed := by simp [hr.fixed]
  unsettled := fun hs => by simp [hr.unsettled hs]
  settled := fun hs => by
    obtain ⟨hlt, hlast⟩ := hr.settled hs
    exact ⟨by simp only [List.length_cons]; omega, hlast⟩

theorem yields_run (g : Grammar) (language path : String) (left : Nat) (r : Repair) :
    ∃ q, (run g language path left r).Yields q ∧
      ∀ r' settled, q = .ok (r', settled) →
        ∃ ks, Reaches g language path left r r' settled ks := by
  induction left generalizing r with
  | zero =>
    refine ⟨_, yields_pure (r, false), ?_⟩
    rintro r' settled h
    cases h
    exact ⟨[], .done _, nofun, rfl, rfl, by simp, fun _ => rfl, nofun⟩
  | succ left ih =>
    obtain ⟨found, hfound⟩ := yields_lintSource g r.output language path
    cases found with
    -- a text that cannot be linted ends the run
    | error e => exact ⟨.error e, hfound.bind_error.bind_error, nofun⟩
    | ok fs =>
      by_cases hfs : editsOf fs = []
      -- nothing to apply: the run is settled where it is
      · refine ⟨.ok (r, true), (yields_pass_none hfound hfs).bind_ok (yields_pure _), ?_⟩
        rintro r' settled h
        cases h
        exact ⟨[], .done _, nofun, rfl, rfl, by simp, nofun, fun _ => ⟨by simp, fs, hfound, hfs⟩⟩
      -- otherwise one round, and the run from there
      · obtain ⟨q, hq, hreach⟩ := ih _
        refine ⟨q, (yields_pass_some hfound hfs).bind_ok hq, ?_⟩
        rintro r' settled h
        obtain ⟨ks, hks⟩ := hreach r' settled h
        exact ⟨_, hks.cons hfound hfs⟩

/-- The warning that edits are left when the limit is reached. -/
def pendingRecord (path : String) (pending : Nat) (limit : Quantity) : Record :=
  ⟨.warning, Channel.linter, path ++ ": " ++ toString pending ++ " fix(es) still pending after " ++
    limit.text ++ " passes"⟩

def notable (log : List Record) : List Record := log.filter fun x => x.level ≠ .debug

theorem notable_eq_nil {notes : List Record} (h : ∀ x ∈ notes, x.level = .debug) :
    notable notes = [] := by
  unfold notable
  rw [List.filter_eq_nil_iff]
  intro x hx
  simp [h x hx]

theorem notable_append (notes notes' : List Record) :
    notable (notes ++ notes') = notable notes ++ notable notes' :=
  List.filter_append _ _

theorem exec_warnPending {limit : Quantity} {r : Repair} {s s' : Session}
    (h : (r.warnPending g language path limit).exec s = (.ok (), s')) :
    ∃ fs notes, Lints g language path r.output fs ∧ s'.log = s.log ++ notes ∧
      notable notes =
        if editsOf fs = [] then [] else [pendingRecord path (editsOf fs).length limit] := by
  obtain ⟨k, s₁, hk, h⟩ := exec_bind_eq_ok h
  obtain ⟨fs, s₂, hfs, hk⟩ := exec_bind_eq_ok hk
  cases hk
  have hlints := exec_lintSource hfs
  obtain ⟨parsers, notes, hexec, hdebug⟩ := hlints s
  rw [hfs] at hexec
  cases hexec
  by_cases hnone : editsOf fs = []
  · rw [hnone] at h
    cases h
    exact ⟨fs, notes, hlints, rfl, by rw [if_pos hnone, notable_eq_nil hdebug]⟩
  · have hlen : (editsOf fs).length ≠ 0 := fun h => hnone (List.length_eq_zero_iff.1 h)
    rw [if_neg hlen] at h
    cases h
    refine ⟨fs, notes ++ [pendingRecord path (editsOf fs).length limit], hlints, ?_, ?_⟩
    · simp [pendingRecord]
    · rw [if_neg hnone, notable_append, notable_eq_nil hdebug]
      rfl

end Repair

/-- A repair that ends has gone through rounds and has linted its output; it warns only when the
limit stopped it and edits are left. -/
theorem exec_repair {limit : Quantity} {r : Repair} {s s' : Session}
    (h : (repair g source language path limit).exec s = (.ok r, s')) :
    ∃ rounds settled ks fs notes, limit.rounds = .ok rounds ∧
      Repair.Reaches g language path rounds ⟨source, false, 0, 0⟩ r settled ks ∧
      Lints g language path r.output fs ∧ s'.log = s.log ++ notes ∧
      Repair.notable notes =
        if settled = true ∨ editsOf fs = [] then []
        else [Repair.pendingRecord path (editsOf fs).length limit] := by
  obtain ⟨rounds, s₁, hrounds, h⟩ := exec_bind_eq_ok h
  obtain ⟨hlimit, hs⟩ := Prod.mk.inj hrounds
  have hlimit := Except.mapError_eq_ok.1 hlimit
  cases hs
  obtain ⟨⟨r', settled⟩, s₂, hrun, h⟩ := exec_bind_eq_ok h
  obtain ⟨q, hq, hreach⟩ := Repair.yields_run g language path rounds ⟨source, false, 0, 0⟩
  obtain ⟨parsers, notes, hexec, hdebug⟩ := hq s
  rw [hrun] at hexec
  cases hexec
  obtain ⟨ks, hks⟩ := hreach r' settled rfl
  cases settled with
  | true =>
    cases h
    obtain ⟨_, fs, hlints, hnone⟩ := hks.settled rfl
    exact ⟨rounds, true, ks, fs, notes, hlimit, hks, hlints, rfl,
      by rw [if_pos (.inl rfl), Repair.notable_eq_nil hdebug]⟩
  | false =>
    obtain ⟨_, s₃, hwarn, h⟩ := exec_bind_eq_ok h
    cases h
    obtain ⟨fs, notes', hlints, hlog, hnotable⟩ := Repair.exec_warnPending hwarn
    refine ⟨rounds, false, ks, fs, notes ++ notes', hlimit, hks, hlints, ?_, ?_⟩
    · rw [hlog, List.append_assoc]
    · rw [Repair.notable_append, Repair.notable_eq_nil hdebug, hnotable]
      simp

/-- What a finished repair says about itself: the counts `ks` of its rounds, the findings `fs` of
its output and the records it logged above debug. -/
structure Repair.Accounts (g : Grammar) (language path source : String) (n : Int) (r : Repair)
    (ks : List Nat) (fs : List Finding) (records : List Record) : Prop where
  rounds : Rounds g language path source ks r.output
  passes : ks.length = r.passes
  passes_le : (r.passes : Int) ≤ max n 0
  applied : ks.sum = r.applied
  pos : ∀ k ∈ ks, 1 ≤ k
  fixed_iff : r.fixed = true ↔ 0 < r.passes
  applied_iff : 0 < r.passes ↔ 0 < r.applied
  lints : Lints g language path r.output fs
  settled : (r.passes : Int) < n → editsOf fs = []
  warns : records =
    if (r.passes : Int) = max n 0 ∧ 0 < (editsOf fs).length then
      [Repair.pendingRecord path (editsOf fs).length (.whole n)]
    else []

/-- Whenever a repair with a limit of `n` rounds ends, its account is true. -/
theorem repair_accounts {n : Int} {r : Repair} {s s' : Session}
    (h : (repair g source language path (.whole n)).exec s = (.ok r, s')) :
    ∃ ks fs notes, s'.log = s.log ++ notes ∧
      Repair.Accounts g language path source n r ks fs (Repair.notable notes) := by
  obtain ⟨rounds, settled, ks, fs, notes, hlimit, hks, hlints, hlog, hnotable⟩ := exec_repair h
  obtain rfl : rounds = n.toNat := (Except.ok.inj hlimit).symm
  have hpasses : r.passes = ks.length := by simpa using hks.passes
  have happlied : r.applied = ks.sum := by simpa using hks.applied
  have hfixed : r.fixed = !ks.isEmpty := by simpa using hks.fixed
  have hsum : ks.length ≤ ks.sum := List.length_le_sum_of_one_le ks hks.pos
  have hlen : ks.length ≤ n.toNat := by
    cases settled with
    | true => exact Nat.le_of_lt (hks.settled rfl).1
    | false => exact Nat.le_of_eq (hks.unsettled rfl)
  have hnone : settled = true → editsOf fs = [] := by
    intro hs
    obtain ⟨_, fs', hlints', hnone⟩ := hks.settled hs
    rw [hlints.unique hlints', hnone]
  refine ⟨ks, fs, notes, hlog, hks.rounds, hpasses.symm, by omega, happlied.symm, hks.pos, ?_, ?_,
    hlints, ?_, ?_⟩
  · rw [hfixed, hpasses]
    cases ks <;> simp
  · rw [hpasses, happlied]
    constructor
    · omega
    · intro hpos
      cases ks with
      | nil => simp at hpos
      | cons k ks => simp
  · intro hlt
    cases settled with
    | true => exact hnone rfl
    | false =>
      -- all rounds were made, against `hlt`
      have hall := hks.unsettled rfl
      omega
  · rw [hnotable]
    cases settled with
    | true => simp [hnone rfl]
    | false =>
      have hall := hks.unsettled rfl
      have heq : (r.passes : Int) = max n 0 := by omega
      by_cases hempty : editsOf fs = []
      · simp [hempty]
      · rw [if_neg (by simp [hempty]), if_pos ⟨heq, List.length_pos_iff.2 hempty⟩]

section Instances

open Node

def wideLimits : Limits := ⟨1000, 1000⟩

/-- The grammar that reads every text as the same tree. -/
def Grammar.constant (c : Concrete) : Grammar := ⟨fun _ _ => c, wideLimits⟩

def token (kind : String) (start stop : Nat) (field : Option String) : Token :=
  ⟨kind, true, false, false, start, stop, 0, field⟩

def mark (text : String) (start : Nat) : Concrete :=
  .node ⟨text, false, false, false, start, start + text.length, 0, none⟩ []

/-- `(a, b, c, d)` -/
def fourNames (start : Nat) : Concrete :=
  .node (token "formal_parameters" start (start + 12) (some "parameters"))
    [mark "(" start, .node (token "identifier" (start + 1) (start + 2) none) [],
      mark "," (start + 2), .node (token "identifier" (start + 4) (start + 5) none) [],
      mark "," (start + 5), .node (token "identifier" (start + 7) (start + 8) none) [],
      mark "," (start + 8), .node (token "identifier" (start + 10) (start + 11) none) [],
      mark ")" (start + 11)]

theorem Tree.Lists.subperm {t : Tree} {vs : List Visit} (h : t.Lists vs) :
    (vs.map (·.node)).Subperm t.root.functions := by
  have hsub : vs ⊆ t.functions := by
    intro v hv
    obtain ⟨hoccurs, ⟨params, hp, _⟩, _⟩ := (h.mem_iff v).1 hv
    refine List.mem_filter.2 ⟨Tree.mem_walk.2 hoccurs, ?_⟩
    rw [Node.isFunction, hp, Option.isSome_some]
  have hnodup : vs.Nodup := List.Nodup.of_map _ h.nodup
  obtain ⟨zs, hzs, hzsub⟩ := List.subperm_of_subset hnodup hsub
  exact List.Subperm.trans ⟨_, hzs.map _, hzsub.map _⟩ t.functions_perm.subperm

/-- An arrow function with the given parameter list, as the statement of a line. -/
def arrowStatement (list : Concrete) : Concrete :=
  .node (token "program" 0 (list.stop + 6) none)
    [.node (token "expression_statement" 0 (list.stop + 5) none)
      [.node (token "arrow_function" 0 (list.stop + 5) none)
        [list, mark "=>" (list.stop + 1),
          .node (token "identifier" (list.stop + 4) (list.stop + 5) (some "body")) []]]]

/-- `({ a, b, c, d })` -/
def oneObject : Concrete :=
  .node (token "formal_parameters" 0 16 (some "parameters"))
    [mark "(" 0,
      .node (token "object_pattern" 1 15 none)
        [mark "\x7b" 1, .node (token "shorthand_property_identifier_pattern" 3 4 none) [],
          mark "," 4, .node (token "shorthand_property_identifier_pattern" 6 7 none) [],
          mark "," 7, .node (token "shorthand_property_identifier_pattern" 9 10 none) [],
          mark "," 10, .node (token "shorthand_property_identifier_pattern" 12 13 none) [],
          mark "\x7d" 14],
      mark ")" 15]

def namesText : String := "(a, b, c, d) => a\n"

def objectText : String := "(\x7b a, b, c, d \x7d) => a\n"

/-- Knows two texts and finds an error in any other. -/
def statementGrammar : Grammar where
  tree _ source :=
    if source = namesText then arrowStatement (fourNames 0)
    else if source = objectText then arrowStatement oneObject
    else .node ⟨"ERROR", true, false, true, 0, 0, 0, none⟩ []
  limits := wideLimits

def namesTree : Tree :=
  .build (.other ⟨0, 18⟩ (.str "program") [.other ⟨0, 17⟩ (.str "expression_statement") [arrow 0]])
    (SourceText.ofString namesText)

theorem treeOver_names :
    treeOver wideLimits namesText Language.javascript.name "a.js"
      (statementGrammar .javascript namesText) = .ok namesTree := rfl

def objectArrow : Node :=
  .function ⟨0, 21⟩ .arrow
    [.objectPattern ⟨1, 15⟩
      [.other ⟨3, 4⟩ (.str "shorthand_property_identifier_pattern") [],
        .other ⟨6, 7⟩ (.str "shorthand_property_identifier_pattern") [],
        .other ⟨9, 10⟩ (.str "shorthand_property_identifier_pattern") [],
        .other ⟨12, 13⟩ (.str "shorthand_property_identifier_pattern") []] none []]
    none (some (.bareName ⟨20, 21⟩ (.str "a"))) none

def objectTree : Tree :=
  .build
    (.other ⟨0, 22⟩ (.str "program") [.other ⟨0, 21⟩ (.str "expression_statement") [objectArrow]])
    (SourceText.ofString objectText)

theorem treeOver_object :
    treeOver wideLimits objectText Language.javascript.name "a.js"
      (statementGrammar .javascript objectText) = .ok objectTree := rfl

theorem functions_namesTree : namesTree.root.functions = [arrow 0] := by
  simp [namesTree, Tree.build, arrow, bareName, functions_eq, isFunction, params?, childNodes]

theorem functions_objectTree : objectTree.root.functions = [objectArrow] := by
  simp [objectTree, Tree.build, objectArrow, bareName, functions_eq, isFunction, params?, childNodes]

theorem lints_names :
    ∃ fs, Lints statementGrammar "javascript" "a.js" namesText fs ∧
      editsOf fs = [⟨⟨1, 11⟩, "\x7b a, b, c, d \x7d"⟩] := by
  obtain ⟨vs, hvs, hlints⟩ := lints_report treeOver_names (Concrete.allKinds_genuine (by decide))
  have hstatement : (Visit.root namesTree.root).Reaches _ :=
    .step .refl (List.mem_of_getElem? (i := 0) rfl)
  have harrow := hstatement.step (List.mem_of_getElem? (i := 0) rfl)
  have hmem := (hvs.mem_iff _).2 ⟨harrow, ⟨⟨_, rfl, by decide⟩, nofun⟩⟩
  -- the only function is the one that is reported
  have hsub := hvs.subperm
  rw [functions_namesTree] at hsub
  obtain ⟨v, rfl⟩ := List.length_eq_one_iff.1
    (Nat.le_antisymm (by simpa using hsub.length_le) (List.length_pos_of_mem hmem))
  obtain rfl := List.mem_singleton.1 hmem
  exact ⟨_, hlints, rfl⟩

theorem lints_object :
    ∃ fs, Lints statementGrammar "javascript" "a.js" objectText fs ∧ editsOf fs = [] := by
  obtain ⟨vs, hvs, hlints⟩ := lints_report treeOver_object (Concrete.allKinds_genuine (by decide))
  -- the only function has one parameter
  have hnone : vs = [] := by
    rw [List.eq_nil_iff_forall_not_mem]
    intro v hv
    have hnode := hvs.subperm.subset (List.mem_map_of_mem hv)
    rw [functions_objectTree, List.mem_singleton] at hnode
    obtain ⟨_, ⟨params, hp, hlength⟩, _⟩ := (hvs.mem_iff v).1 hv
    rw [hnode] at hp
    cases hp
    exact absurd hlength (by decide)
  rw [hnone] at hlints
  exact ⟨_, hlints, rfl⟩

theorem applyEdits_names :
    applyEdits namesText [⟨⟨1, 11⟩, "\x7b a, b, c, d \x7d"⟩] = (objectText, 1) := by
  rw [applyEdits, List.mergeSort_singleton]
  rfl

theorem yields_repair_names :
    (repair statementGrammar namesText "javascript" "a.js" (.whole 10)).Yields
      (.ok ⟨objectText, true, 1, 1⟩) := by
  obtain ⟨fs, hfs, hedits⟩ := lints_names
  obtain ⟨fs', hfs', hnone⟩ := lints_object
  have hfirst : (Repair.pass statementGrammar "javascript" "a.js" ⟨namesText, false, 0, 0⟩).Yields
      (.ok (some ⟨objectText, true, 1, 1⟩)) := by
    have hpass := Repair.yields_pass_some (r := ⟨namesText, false, 0, 0⟩) hfs (by simp [hedits])
    rw [hedits, applyEdits_names] at hpass
    exact hpass
  have hsecond : (Repair.pass statementGrammar "javascript" "a.js" ⟨objectText, true, 1, 1⟩).Yields
      (.ok none) := Repair.yields_pass_none hfs' hnone
  have hrun : (Repair.run statementGrammar "javascript" "a.js" 10 ⟨namesText, false, 0, 0⟩).Yields
      (.ok (⟨objectText, true, 1, 1⟩, true)) :=
    hfirst.bind_ok (hsecond.bind_ok (yields_pure _))
  exact (yields_ofFault _).bind_ok (hrun.bind_ok (yields_pure _))

theorem namesText_accounts :
    ∃ s', (repair statementGrammar namesText "javascript" "a.js" (.whole 10)).exec {} =
        (.ok ⟨objectText, true, 1, 1⟩, s') ∧
      ∃ ks fs notes, s'.log = ({} : Session).log ++ notes ∧
        Repair.Accounts statementGrammar "javascript" "a.js" namesText 10 ⟨objectText, true, 1, 1⟩ ks
          fs (Repair.notable notes) := by
  obtain ⟨parsers, notes, h, _⟩ := yields_repair_names {}
  exact ⟨_, h, repair_accounts h⟩

end Instances

end ArityLint
