import ArityLint.Proofs.Offsets
import ArityLint.Proofs.Origins
import ArityLint.Proofs.Rounds

namespace ArityLint

open Lower LintM

namespace Concrete

def functionRange (c : Concrete) : Nat × Nat := (c.functionStart, c.stop)

/-- The function of a node starts and ends where characters do. -/
def IsAligned (source : String) (c : Concrete) : Prop :=
  (∃ i, Utf8.Offset source c.functionStart i) ∧ ∃ i, Utf8.Offset source c.stop i

end Concrete

/-- The ranges of the findings of a check are ranges of functions, in some order. -/
theorem span_findings_subperm {t : Tree} {fs : List Finding} {s s' : Session}
    (h : t.check.exec s = (.ok fs, s')) :
    (fs.map (·.span)).Subperm (t.functions.map (·.node.span)) := by
  have hperm : (fs.map (·.span)).Perm ((t.walk.filterMap (finding? t)).map (·.span)) := by
    rw [exec_check h]
    exact (List.mergeSort_perm _ _).map _
  have hsub : ∀ vs : List Visit, ((vs.filterMap (finding? t)).map (·.span)).Sublist
      ((vs.filter fun v => v.node.isFunction).map (·.node.span)) := by
    intro vs
    induction vs with
    | nil => exact List.nil_sublist _
    | cons v vs ih =>
      cases hf : finding? t v with
      | none =>
        rw [List.filterMap_cons_none hf]
        exact ih.trans (((List.sublist_cons_self v vs).filter _).map _)
      | some f =>
        obtain ⟨params, hp, _, hspan, _⟩ := finding?_eq_some hf
        have hv : v.node.isFunction = true := by rw [Node.isFunction, hp, Option.isSome_some]
        rw [List.filterMap_cons_some hf, List.filter_cons, if_pos hv, List.map_cons, List.map_cons,
          hspan]
        exact ih.cons_cons _
  exact hperm.subperm.trans (hsub t.walk).subperm

theorem nodup_functions {source : String} {ns : List Node} {os : List Concrete}
    (h : List.Forall₂ (Origin (Utf8.Encoded.ofString source)) ns os)
    (haligned : ∀ c ∈ os, c.IsAligned source) (hnodup : (os.map (·.functionRange)).Nodup) :
    (ns.map (·.span)).Nodup := by
  have hspans : (ns.map (·.span)).map Except.ok = (os.map (·.functionRange)).map fun r =>
      span (Utf8.Encoded.ofString source) r.1 r.2 := by
    rw [List.map_map, List.map_map]
    clear haligned hnodup
    induction h with
    | nil => rfl
    | cons ho _ ih =>
      rw [List.map_cons, List.map_cons, ih]
      exact congrArg (· :: _) ho.span.symm
  apply List.Nodup.of_map Except.ok
  rw [hspans]
  refine hnodup.map_on ?_
  intro r hr r' hr' heq
  obtain ⟨c, hc, rfl⟩ := List.mem_map.1 hr
  obtain ⟨c', hc', rfl⟩ := List.mem_map.1 hr'
  obtain ⟨⟨i, hi⟩, j, hj⟩ := haligned c hc
  obtain ⟨⟨i', hi'⟩, j', hj'⟩ := haligned c' hc'
  exact span_injective hi hj hi' hj' heq

/-- Where no function is read twice, each function of a text gives at most one function of its tree,
and functions at different bytes have findings at different places. -/
theorem lintSource_reports_once {g : Grammar} {lang : Language} {source path : String}
    {fs : List Finding} {s s' : Session}
    (h : (lintSource g source lang.name path).exec s = (.ok fs, s'))
    (hread : (g lang source).AllReadOnce) :
    (∃ t os, treeOver g.limits source lang.name path (g lang source) = .ok t ∧
      List.Forall₂ (Origin (Utf8.Encoded.ofString source)) (t.functions.map (·.node)) os ∧
      os.Subperm (g lang source).functionLikes) ∧
    ((∀ c ∈ (g lang source).functionLikes, c.IsAligned source) →
      ((g lang source).functionLikes.map (·.functionRange)).Nodup → (fs.map (·.span)).Nodup) := by
  obtain ⟨t, s₁, htree, hcheck⟩ := exec_lintSource_tree h
  obtain ⟨os, hos, _, hperm⟩ := treeOver_functions_traced htree
  have hperm := hperm hread
  refine ⟨⟨t, os, htree, hos, hperm⟩, fun haligned hnodup => ?_⟩
  have hranges : (os.map (·.functionRange)).Nodup := by
    obtain ⟨zs, hzs, hsub⟩ := hperm
    exact (hzs.map _).nodup_iff.1 (hnodup.sublist (hsub.map _))
  have hfunctions := nodup_functions hos (fun c hc => haligned c (hperm.subset hc)) hranges
  rw [List.map_map] at hfunctions
  obtain ⟨zs, hzs, hsub⟩ := span_findings_subperm hcheck
  exact hzs.nodup_iff.1 (hfunctions.sublist hsub)

section Instances

open Node

/-- A class with one method: its name, its parameters and its block. -/
def classTree (name list : Concrete) : Concrete :=
  .node (token "program" 0 (list.stop + 5) none)
    [.node (token "class_declaration" 0 (list.stop + 5) none)
      [mark "class" 0, .node (token "identifier" 6 7 (some "name")) [],
        .node (token "class_body" 8 (list.stop + 5) (some "body"))
          [mark "\x7b" 8,
            .node (token "method_definition" 10 (list.stop + 3) (some "member"))
              [name, list,
                .node (token "statement_block" (list.stop + 1) (list.stop + 3) (some "body"))
                  [mark "\x7b" (list.stop + 1), mark "\x7d" (list.stop + 2)]],
            mark "\x7d" (list.stop + 4)]]]

/-- `class A { m(a, b, c, d) {} }` -/
def methodTree : Concrete :=
  classTree (.node (token "property_identifier" 10 11 (some "name")) []) (fourNames 11)

theorem methodTree_reports_once :
    ∃ fs s', (lintSource (.constant methodTree) "class A \x7b m(a, b, c, d) \x7b\x7d \x7d"
        Language.javascript.name "a.js").exec {} = (.ok fs, s') ∧
      methodTree.AllReadOnce ∧ (fs.map (·.span)).Nodup := by
  obtain ⟨t, ht⟩ : ∃ t, treeOver wideLimits "class A \x7b m(a, b, c, d) \x7b\x7d \x7d"
      Language.javascript.name "a.js" methodTree = .ok t := ⟨_, rfl⟩
  obtain ⟨vs, _, hlints⟩ := lints_report (g := .constant methodTree) ht
    (Concrete.allKinds_genuine (by decide))
  obtain ⟨parsers, notes, hexec, _⟩ := hlints {}
  have hread : methodTree.AllReadOnce := Concrete.allReadOnce_iff.2 (by decide)
  refine ⟨_, _, hexec, hread, (lintSource_reports_once hexec hread).2 ?_ (by decide)⟩
  -- the only function is the method's, from its parameters to its end
  intro c hc
  obtain rfl : c = _ := List.mem_singleton.1 hc
  exact ⟨⟨11, by decide, by decide⟩, 26, by decide, by decide⟩

/-- `class A { [(a, b, c, d) => a]() {} }` -/
def computedTree : Concrete :=
  classTree
    (.node (token "computed_property_name" 10 29 (some "name"))
      [mark "[" 10,
        .node (token "arrow_function" 11 28 none)
          [fourNames 11, mark "=>" 24, .node (token "identifier" 27 28 (some "body")) []],
        mark "]" 28])
    (.node (token "formal_parameters" 29 31 (some "parameters")) [mark "(" 29, mark ")" 30])

def computedSource : String := "class A \x7b [(a, b, c, d) => a]() \x7b\x7d \x7d"

def computedKey : Node := .other ⟨10, 29⟩ (.str "computed_property_name") [arrow 11]

def computedMethod : Node :=
  .methodDefinition ⟨10, 34⟩ computedKey
    (.function ⟨29, 34⟩ .expression [] (some computedKey)
      (some (.other ⟨32, 34⟩ (.str "statement_block") [])) none) (.str "method") false

def computedRoot : Node :=
  .other ⟨0, 36⟩ (.str "program")
    [.other ⟨0, 36⟩ (.str "class_declaration")
      [.bareName ⟨6, 7⟩ (.str "A"), .other ⟨8, 36⟩ (.str "class_body") [computedMethod]]]

theorem treeOver_computedTree :
    treeOver wideLimits computedSource Language.javascript.name "a.js" computedTree =
      .ok (.build computedRoot (SourceText.ofString computedSource)) := rfl

/-- The function in the name is visited below the key and below the function of the method. -/
theorem reaches_computedRoot :
    ∃ v w : Visit, (Visit.root computedRoot).Reaches v ∧ (Visit.root computedRoot).Reaches w ∧
      v ≠ w ∧ v.node = arrow 11 ∧ w.node = arrow 11 ∧ v.IsFlagged ∧ w.IsFlagged := by
  have hclass : (Visit.root computedRoot).Reaches _ :=
    .step .refl (List.mem_of_getElem? (i := 0) rfl)
  have hbody := hclass.step (List.mem_of_getElem? (i := 1) rfl)
  have hmethod := hbody.step (List.mem_of_getElem? (i := 0) rfl)
  have hkey := hmethod.step (List.mem_of_getElem? (i := 0) rfl)
  have hvalue := hmethod.step (List.mem_of_getElem? (i := 1) rfl)
  have hid := hvalue.step (List.mem_of_getElem? (i := 0) rfl)
  refine ⟨_, _, hkey.step (List.mem_of_getElem? (i := 0) rfl),
    hid.step (List.mem_of_getElem? (i := 0) rfl), ?_, rfl, rfl, ?_, ?_⟩
  · intro h
    cases congrArg Visit.address h
  · exact ⟨⟨_, rfl, by decide⟩, nofun⟩
  · exact ⟨⟨_, rfl, by decide⟩, nofun⟩

theorem computedTree_reports_twice :
    computedTree.token.hasError = false ∧
      (computedTree.functionLikes.map fun c => (c.start, c.stop)) = [(10, 34), (11, 28)] ∧
      ∃ fs s', (lintSource (.constant computedTree) computedSource Language.javascript.name
          "a.js").exec {} = (.ok fs, s') ∧ ¬(fs.map (·.span)).Nodup := by
  obtain ⟨vs, hvs, hlints⟩ := lints_report (g := .constant computedTree) treeOver_computedTree
    (Concrete.allKinds_genuine (by decide))
  obtain ⟨parsers, notes, hexec, _⟩ := hlints {}
  refine ⟨rfl, rfl, _, _, hexec, fun hnodup => ?_⟩
  obtain ⟨v, w, hv, hw, hne, hvn, hwn, hvf, hwf⟩ := reaches_computedRoot
  rw [List.map_map] at hnodup
  refine hne (List.inj_on_of_nodup_map hnodup ((hvs.mem_iff v).2 ⟨hv, hvf⟩)
    ((hvs.mem_iff w).2 ⟨hw, hwf⟩) ?_)
  change v.node.span = w.node.span
  rw [hvn, hwn]

end Instances

end ArityLint
