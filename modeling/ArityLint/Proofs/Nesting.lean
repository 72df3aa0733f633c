import ArityLint.Proofs.Edits
import ArityLint.Proofs.Reports

namespace ArityLint

namespace Node

variable {n m : Node} {a b : Span}

def HasFunction (n : Node) : Prop := ∃ m, n.Contains m ∧ m.isFunction

/-- How the range of a function, its parameters and its other parts lie. -/
structure SignatureLayout (s : Span) (params others : List Node) : Prop where
  nonempty : ∀ p ∈ params, p.span.Nonempty
  ordered : params.Pairwise fun p q => p.start ≤ q.start
  disjoint : params.Pairwise fun p q => p.span.Disjoint q.span
  start_lt : ∀ first ∈ params.head?, s.start < first.start
  outside : ∀ first ∈ params.head?, ∀ last ∈ params.getLast?, ∀ m ∈ others,
    m.stop ≤ first.start ∨ last.stop ≤ m.start

def HasLayout : Node → Prop
  | function s _ params id body returnType =>
    SignatureLayout s params (id.toList ++ (body.toList ++ returnType.toList))
  | _ => True

/-- The ranges of a node's children nest in its own range. -/
structure IsNested (n : Node) : Prop where
  within : ∀ e ∈ n.edges, e.2.span.Within n.span
  apart : n.edges.Pairwise fun e f =>
    e.2.HasFunction → f.2.HasFunction → e.2.span.Disjoint f.2.span
  layout : n.HasLayout

def HoldsChildren (n : Node) : Prop := ∀ e ∈ n.edges, e.2.span.Within n.span

theorem Contains.within_of_holds (h : n.Contains m) (hn : n.All HoldsChildren) :
    m.span.Within n.span := by
  induction h with
  | self n => exact .refl _
  | @under n m e he _ ih =>
    have hchild : e.2.All HoldsChildren := hn.of_contains (.under he (.self _))
    exact (ih hchild).trans (hn n (.self n) e he)

theorem Contains.within (h : n.Contains m) (hn : n.All IsNested) : m.span.Within n.span :=
  h.within_of_holds fun k hk => (hn k hk).within

theorem SpansParams.isFunction (h : n.SpansParams a) : n.isFunction := by
  obtain ⟨params, first, last, hp, _⟩ := h
  simp [Node.isFunction, hp]

namespace SignatureLayout

variable {s : Span} {params others : List Node} {first last p : Node}
  (h : SignatureLayout s params others)
include h

theorem start_first_le (hfirst : params.head? = some first) (hp : p ∈ params) :
    first.start ≤ p.start := by
  obtain ⟨rest, rfl⟩ := List.head?_eq_some_iff.1 hfirst
  rcases List.mem_cons.1 hp with rfl | hp
  · exact Int.le_refl _
  · exact (List.pairwise_cons.1 h.ordered).1 p hp

theorem stop_le_last (hlast : params.getLast? = some last) (hp : p ∈ params) :
    p.stop ≤ last.stop := by
  obtain ⟨front, rfl⟩ := List.getLast?_eq_some_iff.1 hlast
  rcases List.mem_append.1 hp with hp' | hp'
  · have hdisjoint := (List.pairwise_append.1 h.disjoint).2.2 p hp' last (by simp)
    have hordered := (List.pairwise_append.1 h.ordered).2.2 p hp' last (by simp)
    have hpn := h.nonempty p hp
    have hln := h.nonempty last (by simp)
    have hsplit := (Span.disjoint_iff hpn hln).1 hdisjoint
    unfold Span.Nonempty at hpn hln
    dsimp only [Node.start, Node.stop] at *
    omega
  · have heq := List.mem_singleton.1 hp'
    exact heq ▸ Int.le_refl _

/-- From the first parameter to the last is a range that is not empty and holds all parameters. -/
theorem span_params (hfirst : params.head? = some first) (hlast : params.getLast? = some last) :
    (Span.mk first.start last.stop).Nonempty ∧
      ∀ p ∈ params, p.span.Within ⟨first.start, last.stop⟩ := by
  have hmem : last ∈ params := List.mem_of_getLast? hlast
  have hstart := h.start_first_le hfirst hmem
  have hne := h.nonempty last hmem
  refine ⟨?_, fun p hp => ⟨h.start_first_le hfirst hp, h.stop_le_last hlast hp⟩⟩
  unfold Span.Nonempty at *
  dsimp only [Node.start, Node.stop] at *
  omega

end SignatureLayout

theorem IsNested.inside (hn : n.IsNested) (ha : n.SpansParams a) :
    a.Nonempty ∧ a.Inside n.span := by
  obtain ⟨params, first, last, hp, hfirst, hlast, rfl⟩ := ha
  have hmem := mem_edges_of_mem_params hp (List.mem_of_getLast? hlast)
  have hstop := (hn.within _ hmem).2
  cases n <;> cases hp
  have hlayout : SignatureLayout _ _ _ := hn.layout
  exact ⟨(hlayout.span_params hfirst hlast).1, hlayout.start_lt first hfirst, hstop⟩

theorem Contains.within_params (h : n.Contains m) (hn : n.All IsNested) (ha : m.SpansParams a) :
    a.Within n.span := by
  have hin := ((hn m h).inside ha).2
  exact Span.Within.trans ⟨Int.le_of_lt hin.1, hin.2⟩ (h.within hn)

/-- The parameters of a function below a child of a function: inside the other's parameters when the
child is one of these, apart from them otherwise. -/
theorem laminar_below (hn : n.All IsNested) (ha : n.SpansParams a) {e : Role × Node}
    (he : e ∈ n.edges) (hm : e.2.Contains m) (hb : m.SpansParams b) : a.Laminar b := by
  have hchild : e.2.All IsNested := hn.of_contains (.under he (.self _))
  have hin := ((hchild m hm).inside hb).2
  have hne := ((hchild m hm).inside hb).1
  have hwithin := hm.within hchild
  obtain ⟨params, first, last, hp, hfirst, hlast, rfl⟩ := ha
  have hlayout := (hn n (.self n)).layout
  cases n <;> cases hp
  have hlayout : SignatureLayout _ _ _ := hlayout
  have hspan := hlayout.span_params hfirst hlast
  unfold Span.Inside Span.Within at *
  dsimp only [Node.start, Node.stop] at *
  -- a part that is no parameter ends before the first one or starts after the last
  have houtside : e.2.stop ≤ first.start ∨ last.stop ≤ e.2.start →
      (Span.mk first.start last.stop).Laminar b := by
    intro h
    refine .inl ((Span.disjoint_iff hspan.1 hne).2 ?_)
    dsimp only [Node.start, Node.stop] at *
    omega
  simp only [edges, placed, placedOption, List.mem_append, List.mem_map] at he
  rcases he with ⟨p, hp, rfl⟩ | ⟨p, hp, rfl⟩ | ⟨p, hp, rfl⟩ | ⟨p, hp, rfl⟩
  · have hpar := hspan.2 p hp
    refine .inr (.inr ⟨?_, ?_⟩)
    · dsimp only at *
      omega
    · dsimp only at *
      omega
  · exact houtside (hlayout.outside first hfirst last hlast p (List.mem_append_left _ hp))
  · exact houtside (hlayout.outside first hfirst last hlast p
      (List.mem_append_right _ (List.mem_append_left _ hp)))
  · exact houtside (hlayout.outside first hfirst last hlast p
      (List.mem_append_right _ (List.mem_append_right _ hp)))

end Node

namespace Tree

variable {t : Tree} {fs : List Finding} {s s' : Session}

/-- The parameter lists of any two functions of a walk are disjoint or strictly nested. -/
theorem walk_laminar (h : t.root.All Node.IsNested) :
    t.walk.Pairwise fun v w =>
      ∀ a b, v.node.SpansParams a → w.node.SpansParams b → a.Laminar b := by
  rw [walk_eq_preorder]
  apply Visit.pairwise_preorder (P := fun u => u.node.All Node.IsNested) _ _ _ _ (.root t.root) h
  · exact fun hvw a b ha hb => (hvw b a hb ha).symm
  · intro u hu c hc
    obtain ⟨e, i, hm, rfl⟩ := Visit.mem_offspring.1 hc
    exact hu.of_contains (.under (Node.mem_edges_of_mem_links hm) (.self _))
  -- below a function: inside its parameters or apart from them, by the child that leads there
  · intro u hu c hc v hv a b ha hb
    obtain ⟨e, i, hm, rfl⟩ := Visit.mem_offspring.1 hc
    exact Node.laminar_below hu ha (Node.mem_edges_of_mem_links hm) hv.contains hb
  -- below different children: these hold functions, so their ranges are disjoint
  · intro u hu
    have hapart := (hu u.node (.self _)).apart
    rw [← Node.map_fst_links, List.pairwise_map] at hapart
    unfold Visit.offspring
    rw [List.pairwise_map]
    apply hapart.imp_of_mem
    rintro ⟨e, i⟩ ⟨f, j⟩ he hf hef v w hv hw a b ha hb
    have hce : e.2.All Node.IsNested :=
      hu.of_contains (.under (Node.mem_edges_of_mem_links he) (.self _))
    have hcf : f.2.All Node.IsNested :=
      hu.of_contains (.under (Node.mem_edges_of_mem_links hf) (.self _))
    have hd := hef ⟨v.node, hv.contains, ha.isFunction⟩ ⟨w.node, hw.contains, hb.isFunction⟩
    exact .inl (hd.mono (hv.contains.within_params hce ha) (hw.contains.within_params hcf hb))

/-- A fix lies in the tree: it is not empty and does not start before the text. -/
theorem editsOf_check_inside (h : t.root.All Node.IsNested) (hroot : 0 ≤ t.root.start)
    (hcheck : t.check.exec s = (.ok fs, s')) :
    ∀ e ∈ editsOf fs, e.span.Nonempty ∧ 0 ≤ e.span.start := by
  intro e he
  obtain ⟨v, hv, hve⟩ := List.mem_filterMap.1 ((editsOf_perm hcheck).mem_iff.1 he)
  have hspan := edit?_spansParams hve
  have hcontains := (mem_walk.1 hv).contains
  obtain ⟨hne, hin⟩ := (h _ hcontains).inside hspan
  have hwithin := hcontains.within h
  unfold Span.Inside Span.Within at *
  dsimp only [Node.start] at *
  exact ⟨hne, by omega⟩

theorem editsOf_check_laminar (h : t.root.All Node.IsNested)
    (hcheck : t.check.exec s = (.ok fs, s')) :
    (editsOf fs).Pairwise fun a b => a.span.Laminar b.span := by
  apply ((editsOf_perm hcheck).pairwise_iff fun h => Span.Laminar.symm h).2
  rw [List.pairwise_filterMap]
  apply (walk_laminar h).imp
  intro v w hvw a ha b hb
  exact hvw a.span b.span (edit?_spansParams ha) (edit?_spansParams hb)

/-- In a tree with nested ranges, any two fixes of a check are disjoint or strictly nested, and over
every text exactly those fixes are applied that lie inside no other one. -/
theorem check_applies_outermost (h : t.root.All Node.IsNested) (hroot : 0 ≤ t.root.start)
    (hcheck : t.check.exec s = (.ok fs, s')) :
    ((editsOf fs).Pairwise fun a b => a.span.Laminar b.span) ∧
      ∃ es, (∀ e, e ∈ es ↔ e ∈ editsOf fs ∧ ¬∃ a ∈ editsOf fs, a ≠ e ∧ e.span.Within a.span) ∧
        (es.Pairwise fun a b => a.span.stop ≤ b.span.start) ∧
        ∀ source, applyEdits source (editsOf fs) =
          (String.ofList (splice source.toList 0 es), es.length) := by
  have hlam := editsOf_check_laminar h hcheck
  have hin := editsOf_check_inside h hroot hcheck
  have hperm := List.mergeSort_perm (editsOf fs) fun a b => a.span.le b.span
  refine ⟨hlam, accepted (editsOf fs), ?_, ?_, fun source => applyEdits_eq source _⟩
  · exact mem_accepted (fun a ha => (hin a ha).1) hlam fun a ha => (hin a ha).2
  · exact (pairwise_acceptedFrom fun a ha => (hin a (hperm.mem_iff.1 ha)).1).2

end Tree

section Instances

open Node

theorem isNested_bareName (s : Span) (name : Value) : (bareName s name).All IsNested :=
  all_iff.2 ⟨⟨by simp [bareName, edges, placed, placedOption],
    by simp [bareName, edges, placed, placedOption], trivial⟩, by simp [bareName, EachChild]⟩

/-- A function nests when its parameters and its body come one after the other. -/
theorem isNested_function {s : Span} {kind : FunctionKind} {params : List Node} {body : Node}
    (hwithin : ∀ p ∈ params ++ [body], p.span.Within s) (hne : ∀ p ∈ params, p.span.Nonempty)
    (horder : (params ++ [body]).Pairwise fun p q => p.stop ≤ q.start)
    (hstart : ∀ first ∈ params.head?, s.start < first.start) :
    (function s kind params none (some body) none).IsNested := by
  have hmap : (function s kind params none (some body) none).edges.map Prod.snd =
      params ++ [body] := by simp [edges, placed, placedOption, Function.comp_def]
  obtain ⟨hparams, _, hbody⟩ := List.pairwise_append.1 horder
  refine ⟨fun e he => ?_, ?_, hne, ?_, ?_, hstart, ?_⟩
  · apply hwithin
    rw [← hmap]
    exact List.mem_map_of_mem he
  · rw [← hmap, List.pairwise_map] at horder
    exact horder.imp fun h _ _ => .of_le h
  · apply hparams.imp_of_mem
    intro p q hp _ h
    have hp := hne p hp
    unfold Span.Nonempty at hp
    dsimp only [Node.start, Node.stop] at *
    omega
  · exact hparams.imp Span.Disjoint.of_le
  · intro first _ last hlast m hm
    have hm : m = body := by simpa using hm
    rw [hm]
    exact .inr (hbody last (List.mem_of_getLast? hlast) body (by simp))

theorem isNested_arrow (start : Int) : (arrow start).All IsNested := by
  refine all_iff.2 ⟨isNested_function ?_ ?_ ?_ ?_, by simp [arrow, EachChild, isNested_bareName]⟩
  · simp only [List.cons_append, List.nil_append, List.forall_mem_cons, List.not_mem_nil,
      false_implies, implies_true, and_true, bareName, span, Span.Within]
    omega
  · simp only [List.forall_mem_cons, List.not_mem_nil, false_implies, implies_true, and_true,
      bareName, span, Span.Nonempty]
    omega
  · simp only [List.cons_append, List.nil_append, List.pairwise_cons, List.forall_mem_cons,
      List.not_mem_nil, false_implies, implies_true, and_true, List.Pairwise.nil, bareName, span,
      Node.start, Node.stop]
    omega
  · rintro first ⟨⟩
    exact Int.lt_succ start

/-- `(a, b, c, d = (a, b, c, d) => a) => a` -/
def defaultDocument : Value :=
  .obj [("type", .str "ArrowFunctionExpression"), ("range", .arr [.int 0, .int 37]),
    ("params", .arr [nameDocument 1 "a", nameDocument 4 "b", nameDocument 7 "c",
      .obj [("type", .str "AssignmentPattern"), ("range", .arr [.int 10, .int 31]),
        ("left", nameDocument 10 "d"), ("right", arrowDocument 14)]]),
    ("body", nameDocument 36 "a")]

def defaultParam : Node :=
  .assignmentPattern ⟨10, 31⟩ (.bareName ⟨10, 11⟩ (.str "d")) (arrow 14) []

def defaultRoot : Node :=
  .function ⟨0, 37⟩ .arrow
    [.bareName ⟨1, 2⟩ (.str "a"), .bareName ⟨4, 5⟩ (.str "b"), .bareName ⟨7, 8⟩ (.str "c"),
      defaultParam]
    none (some (.bareName ⟨36, 37⟩ (.str "a"))) none

def defaultTree : Tree :=
  .build defaultRoot (SourceText.ofString "(a, b, c, d = (a, b, c, d) => a) => a")

theorem tree_defaultDocument :
    Estree.tree Estree.noComplaint defaultDocument "(a, b, c, d = (a, b, c, d) => a) => a"
      "default.js" = .ok defaultTree := rfl

theorem isNested_defaultParam : defaultParam.All IsNested := by
  refine all_iff.2 ⟨⟨?_, ?_, trivial⟩, isNested_bareName _ _, isNested_arrow _, by simp⟩
  · simp [defaultParam, edges, placed, bareName, arrow, span, Span.Within]
  · have h : (bareName ⟨10, 11⟩ (.str "d")).span.Disjoint (arrow 14).span := .of_le (by decide)
    simpa [defaultParam, edges, placed] using fun _ _ => h

theorem isNested_defaultRoot : defaultRoot.All IsNested := by
  refine all_iff.2 ⟨isNested_function ?_ ?_ ?_ ?_, ?_⟩
  · simp [bareName, defaultParam, span, Span.Within]
  · simp [bareName, defaultParam, span, Span.Nonempty]
  · simp [bareName, defaultParam, span, Node.start, Node.stop]
  · simp [bareName, span, Node.start]
  · simp [defaultRoot, EachChild, isNested_bareName, isNested_defaultParam]

theorem hasTexts_defaultRoot : defaultRoot.HasTexts := by
  have hparam : defaultParam.HasTexts :=
    hasTexts_iff.2 ⟨⟨trivial, trivial⟩, hasTexts_bareName _ _, hasTexts_arrow _, by simp⟩
  exact hasTexts_iff.2 ⟨⟨trivial, trivial⟩,
    by simp [defaultRoot, EachChild, hasTexts_bareName, hparam]⟩

theorem exec_check_defaultTree : ∃ fs s', defaultTree.check.exec {} = (.ok fs, s') := by
  have hgenuine := Estree.allGenuine_tree tree_defaultDocument
  obtain ⟨vs, _, hy⟩ := Tree.yields_check_report hasTexts_defaultRoot hgenuine
  obtain ⟨parsers, notes, he, _⟩ := hy {}
  exact ⟨_, _, he⟩

theorem defaultTree_applies_outermost :
    defaultTree.root.All IsNested ∧ 0 ≤ defaultTree.root.start ∧
      ∃ fs s', defaultTree.check.exec {} = (.ok fs, s') ∧
        ((editsOf fs).Pairwise fun a b => a.span.Laminar b.span) ∧
        ∃ es, (∀ e, e ∈ es ↔ e ∈ editsOf fs ∧ ¬∃ a ∈ editsOf fs, a ≠ e ∧ e.span.Within a.span) ∧
          (es.Pairwise fun a b => a.span.stop ≤ b.span.start) ∧
          ∀ source, applyEdits source (editsOf fs) =
            (String.ofList (splice source.toList 0 es), es.length) := by
  obtain ⟨fs, s', hcheck⟩ := exec_check_defaultTree
  have hstart : 0 ≤ defaultTree.root.start := by decide
  exact ⟨isNested_defaultRoot, hstart, fs, s', hcheck,
    Tree.check_applies_outermost isNested_defaultRoot hstart hcheck⟩

end Instances

end ArityLint
