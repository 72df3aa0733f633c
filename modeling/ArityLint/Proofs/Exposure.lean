import ArityLint.Proofs.Distinct

namespace ArityLint

open Lower

namespace Concrete

/-- A node is in sight of another: the nodes between them have no form of their own, those below the
first are named, and their kinds are not among the `hidden` ones. -/
inductive Exposes (hidden : List String) : Concrete → Concrete → Prop
  | self (c : Concrete) : Exposes hidden c c
  | under {c d e : Concrete} : Form.ofKind c.kind = .other → d ∈ c.children → d.token.named →
      d.kind ∉ hidden → Exposes hidden d e → Exposes hidden c e

mutual

def exposed (hidden : List String) : Concrete → List Concrete
  | node t cs => node t cs :: if Form.ofKind t.kind = .other then exposedIn hidden cs else []

def exposedIn (hidden : List String) : List Concrete → List Concrete
  | [] => []
  | c :: cs =>
    (if c.token.named ∧ c.kind ∉ hidden then exposed hidden c else []) ++ exposedIn hidden cs

end

variable {hidden : List String} {c d : Concrete}

theorem mem_exposedIn {cs : List Concrete} :
    d ∈ exposedIn hidden cs ↔
      ∃ e ∈ cs, e.token.named ∧ e.kind ∉ hidden ∧ d ∈ e.exposed hidden := by
  induction cs with
  | nil => simp [exposedIn]
  | cons e cs ih =>
    rw [exposedIn, List.mem_append, ih, List.exists_mem_cons_iff]
    refine or_congr ?_ Iff.rfl
    split
    · next h => simp [h]
    · next h => simp only [List.not_mem_nil, false_iff]; tauto

theorem mem_exposed : d ∈ c.exposed hidden ↔ d = c ∨ Form.ofKind c.kind = .other ∧
    ∃ e ∈ c.children, e.token.named ∧ e.kind ∉ hidden ∧ d ∈ e.exposed hidden := by
  cases c with
  | node t cs =>
    rw [exposed, List.mem_cons]
    refine or_congr Iff.rfl ?_
    split
    · next h => simp [mem_exposedIn, children, kind, token, h]
    · next h => simp [kind, token, h]

theorem exposes_of_mem_exposed {c d : Concrete} (h : d ∈ c.exposed hidden) :
    c.Exposes hidden d := by
  rcases mem_exposed.1 h with rfl | ⟨hform, e, he, hnamed, hkind, hd⟩
  · exact .self _
  · exact .under hform he hnamed hkind (exposes_of_mem_exposed hd)
termination_by sizeOf c
decreasing_by
  cases c with
  | node t cs =>
    have hlt := List.sizeOf_lt_of_mem (show e ∈ cs from he)
    simp only [node.sizeOf_spec]
    omega

theorem mem_exposed_iff : d ∈ c.exposed hidden ↔ c.Exposes hidden d := by
  refine ⟨exposes_of_mem_exposed, fun h => ?_⟩
  induction h with
  | self c => exact mem_exposed.2 (.inl rfl)
  | under hform hd hnamed hkind _ ih => exact mem_exposed.2 (.inr ⟨hform, _, hd, hnamed, hkind, ih⟩)

def extras : List String := ["comment", "decorator"]

/-- The functions in sight of a node that no comment or decorator hides, in pre-order. -/
def exposedFunctions (c : Concrete) : List Concrete := (c.exposed extras).filter isFunctionLike

theorem exposedIn_extras (cs : List Concrete) :
    exposedIn extras cs =
      (cs.filter fun d => d.token.named && !isExtra d.kind).flatMap (exposed extras) := by
  induction cs with
  | nil => rfl
  | cons c cs ih =>
    have hiff : (c.token.named && !isExtra c.kind) = true ↔ c.token.named ∧ c.kind ∉ extras := by
      simp [isExtra, extras]
    rw [exposedIn, ih, List.filter_cons]
    simp only [hiff]
    split <;> rfl

theorem exposedFunctions_of_other (h : Form.ofKind c.kind = .other) :
    c.exposedFunctions = c.parts.flatMap exposedFunctions := by
  have hnot : ¬c.isFunctionLike := by simp [isFunctionLike, h]
  cases c with
  | node t cs =>
    have h : Form.ofKind t.kind = .other := h
    rw [exposedFunctions, exposed, if_pos h, List.filter_cons_of_neg hnot, exposedIn_extras,
      List.filter_flatMap]
    rfl

theorem exposedFunctions_of_form (h : Form.ofKind c.kind ≠ .other) :
    c.exposedFunctions = if c.isFunctionLike then [c] else [] := by
  cases c with
  | node t cs =>
    have h : Form.ofKind t.kind ≠ .other := h
    rw [exposedFunctions, exposed, if_neg h, List.filter_cons, List.filter_nil]

end Concrete

namespace Lower

open Node

variable {code : Utf8.Encoded} {lower : String → Concrete → Lowering Node} {c : Concrete} {n : Node}
  {ns ms : List Node} {cs ds : List Concrete}

/-- Each function in sight of the concrete nodes has a function of its own at or below the nodes, in
the same order. -/
def Shown (code : Utf8.Encoded) (ns : List Node) (cs : List Concrete) : Prop :=
  ∃ ms, ms.Sublist (ns.flatMap functions) ∧
    List.Forall₂ (Origin code) ms (cs.flatMap Concrete.exposedFunctions)

namespace Shown

theorem of_none (ns : List Node) (h : c.exposedFunctions = []) : Shown code ns [c] := by
  refine ⟨[], List.nil_sublist _, ?_⟩
  rw [List.flatMap_singleton, h]
  exact .nil

theorem append (h : Shown code ns cs) (h' : Shown code ms ds) :
    Shown code (ns ++ ms) (cs ++ ds) := by
  obtain ⟨ks, hks, hfrom⟩ := h
  obtain ⟨ks', hks', hfrom'⟩ := h'
  refine ⟨ks ++ ks', ?_, ?_⟩
  · rw [List.flatMap_append]
    exact hks.append hks'
  · rw [List.flatMap_append]
    exact List.rel_append hfrom hfrom'

theorem other (hform : Form.ofKind c.kind = .other) (h : Shown code n.childNodes c.parts) :
    Shown code [n] [c] := by
  obtain ⟨ks, hks, hfrom⟩ := h
  refine ⟨ks, ?_, ?_⟩
  · rw [List.flatMap_singleton, functions_eq]
    exact hks.trans (List.sublist_append_right _ _)
  · rw [List.flatMap_singleton, Concrete.exposedFunctions_of_other hform]
    exact hfrom

theorem function {m : Node} (hc : c.isFunctionLike) (hm : m ∈ n.functions)
    (ho : Origin code m c) : Shown code [n] [c] := by
  have hform : Form.ofKind c.kind ≠ .other := by
    intro hform
    rw [Concrete.isFunctionLike, hform] at hc
    cases hc
  refine ⟨[m], ?_, ?_⟩
  · rw [List.flatMap_singleton]
    exact List.singleton_sublist.2 hm
  · rw [List.flatMap_singleton, Concrete.exposedFunctions_of_form hform, if_pos hc]
    exact .cons ho .nil

end Shown

theorem mem_functions_self (h : n.isFunction) : n ∈ n.functions := by
  rw [functions_eq, if_pos h]
  exact List.mem_append_left _ (List.mem_singleton_self n)

theorem mem_functions_of_child {m : Node} (hm : m ∈ n.childNodes) (h : m.isFunction) :
    m ∈ n.functions := by
  rw [functions_eq]
  exact List.mem_append_right _ (List.mem_flatMap.2 ⟨m, hm, mem_functions_self h⟩)

section Steps

variable (hl : Traces code lower)
include hl

theorem shown_function {kind : FunctionKind} (hform : Form.ofKind c.kind = .function kind)
    {s : Span} {p : FunctionParts} (hs : spanOf code c = .ok s)
    (hp : functionParts lower c = .ok p) : Shown code [p.node kind s] [c] := by
  have hs : span code c.functionStart c.stop = .ok s := by
    rw [Concrete.functionStart, hform]
    exact hs
  exact Shown.function (by rw [Concrete.isFunctionLike, hform]) (mem_functions_self rfl)
    (origin_plainFunction hl hp hs kind)

theorem shown_arrow (hform : Form.ofKind c.kind = .arrow) (h : arrow code lower c = .ok n) :
    Shown code [n] [c] := by
  obtain ⟨p, hp, h⟩ := Except.bind_eq_ok h
  obtain ⟨params, hparams, h⟩ := Except.bind_eq_ok h
  obtain ⟨s, hs, h⟩ := Except.bind_eq_ok h
  cases h
  have hs : span code c.functionStart c.stop = .ok s := by
    rw [Concrete.functionStart, hform]
    exact hs
  refine Shown.function (by rw [Concrete.isFunctionLike, hform]) (mem_functions_self rfl) ?_
  unfold arrowParams at hparams
  split at hparams
  · obtain ⟨m, _, hparams⟩ := Except.bind_eq_ok hparams
    cases hparams
    exact ⟨hs, [m], rfl, .inl (Nat.le_refl 1)⟩
  · cases hparams
    exact origin_plainFunction hl hp hs .arrow

theorem shown_method {parent : Option String} (hform : Form.ofKind c.kind = .method)
    (h : method code lower parent c = .ok n) : Shown code [n] [c] := by
  obtain ⟨p, hp, h⟩ := Except.bind_eq_ok h
  obtain ⟨s, hs, h⟩ := Except.bind_eq_ok h
  obtain ⟨name, _, h⟩ := Except.bind_eq_ok h
  obtain ⟨key, _, h⟩ := Except.bind_eq_ok h
  have hs : span code c.functionStart c.stop = .ok s := by
    rw [Concrete.functionStart, hform]
    exact hs
  have hvalue : p.node .expression s ∈ n.childNodes := by
    dsimp only at h
    split at h
    · obtain ⟨s', _, h⟩ := Except.bind_eq_ok h
      cases h
      exact List.mem_cons_of_mem _ List.mem_cons_self
    · obtain ⟨kind, _, h⟩ := Except.bind_eq_ok h
      obtain ⟨s', _, h⟩ := Except.bind_eq_ok h
      cases h
      exact List.mem_cons_of_mem _ List.mem_cons_self
  exact Shown.function (by rw [Concrete.isFunctionLike, hform])
    (mem_functions_of_child hvalue rfl) (origin_plainFunction hl hp hs .expression)

variable (hs : ∀ parent d n, lower parent d = .ok n → Shown code [n] [d])
include hs

omit hl in
theorem shown_other (hform : Form.ofKind c.kind = .other) (h : other code lower c = .ok n) :
    Shown code [n] [c] := by
  obtain ⟨s, _, h⟩ := Except.bind_eq_ok h
  obtain ⟨body, hbody, h⟩ := Except.bind_eq_ok h
  cases h
  refine Shown.other hform ?_
  have hall : ∀ {ds : List Concrete} {body}, ds.mapM (lower c.kind) = .ok body →
      Shown code body ds := by
    intro ds
    induction ds with
    | nil =>
      intro body h
      cases h
      exact ⟨[], List.nil_sublist _, .nil⟩
    | cons d ds ih =>
      intro body h
      obtain ⟨m, ms, hm, hms, rfl⟩ := Except.mapM_cons_eq_ok h
      exact (hs _ d m hm).append (ih hms)
  exact hall hbody

theorem shown_node {parent : Option String} (h : node code lower parent c = .ok n) :
    Shown code [n] [c] := by
  by_cases hother : Form.ofKind c.kind = .other
  · rw [node, hother] at h
    exact shown_other hs hother h
  by_cases hc : c.isFunctionLike
  · unfold Concrete.isFunctionLike at hc
    unfold node at h
    cases hform : Form.ofKind c.kind with
    | function kind =>
      rw [hform] at h
      obtain ⟨s, hspan, h⟩ := Except.bind_eq_ok h
      obtain ⟨p, hp, h⟩ := Except.bind_eq_ok h
      cases h
      exact shown_function hl hform hspan hp
    | arrow =>
      rw [hform] at h
      exact shown_arrow hl hform h
    | method =>
      rw [hform] at h
      exact shown_method hl hform h
    | _ =>
      rw [hform] at hc
      cases hc
  · exact .of_none [n] (by rw [Concrete.exposedFunctions_of_form hother, if_neg hc])

end Steps

theorem shown_ofConcrete {levels : Nat} {parent : Option String}
    (h : ofConcrete code levels parent c = .ok n) : Shown code [n] [c] := by
  induction levels generalizing parent c n with
  | zero => cases h
  | succ levels ih =>
    exact shown_node (fun p d m hd => ⟨⟨_, _, hd⟩, traced_ofConcrete hd⟩) (fun p d m hd => ih hd) h

end Lower

/-- Each function in sight of the root that neither comments nor decorators hide has a function in
the tree that comes from it, and different ones have different ones. -/
theorem treeOver_shows {limits : Limits} {source language path : String} {c : Concrete} {t : Tree}
    (h : treeOver limits source language path c = .ok t) :
    (∀ d : Concrete, d.isFunctionLike → c.Exposes ["comment", "decorator"] d →
      ∃ v ∈ t.functions, Origin (Utf8.Encoded.ofString source) v.node d) ∧
    ∃ ns, ns.Subperm (t.functions.map (·.node)) ∧
      List.Forall₂ (Origin (Utf8.Encoded.ofString source)) ns c.exposedFunctions := by
  obtain ⟨ns, hns, hfrom⟩ := shown_ofConcrete (treeOver_eq_ok h)
  rw [List.flatMap_singleton] at hns hfrom
  have hperm : ns.Subperm (t.functions.map (·.node)) :=
    hns.subperm.trans t.functions_perm.symm.subperm
  refine ⟨fun d hd hsight => ?_, ns, hperm, hfrom⟩
  have hmem : d ∈ c.exposedFunctions :=
    List.mem_filter.2 ⟨Concrete.mem_exposed_iff.2 hsight, hd⟩
  obtain ⟨ms, hms, hd⟩ := exists_sublist_of_forall₂ (List.Forall₂.flip (R := flip (Origin _)) hfrom)
    (List.singleton_sublist.2 hmem)
  obtain ⟨n, _, ho, _, rfl⟩ := List.forall₂_cons_left_iff.1 hd
  obtain ⟨v, hv, rfl⟩ := List.mem_map.1 (hperm.subset (hms.subset List.mem_cons_self))
  exact ⟨v, hv, ho⟩

section Instances

open Node

theorem methodTree_shows :
    ∃ t d, treeOver wideLimits "class A \x7b m(a, b, c, d) \x7b\x7d \x7d"
        Language.javascript.name "a.js" methodTree = .ok t ∧
      d.kind = "method_definition" ∧ methodTree.Exposes ["comment", "decorator"] d ∧
      ∃ v ∈ t.functions, Origin (Utf8.Encoded.ofString "class A \x7b m(a, b, c, d) \x7b\x7d \x7d")
        v.node d := by
  obtain ⟨t, ht⟩ : ∃ t, treeOver wideLimits "class A \x7b m(a, b, c, d) \x7b\x7d \x7d"
      Language.javascript.name "a.js" methodTree = .ok t := ⟨_, rfl⟩
  have hsight : methodTree.Exposes ["comment", "decorator"] _ :=
    Concrete.mem_exposed_iff.1 (List.mem_of_getElem? (i := 4) rfl)
  exact ⟨t, _, ht, rfl, hsight, (treeOver_shows ht).1 _ rfl hsight⟩

/-- `(a, b, c, d) => a` -/
def arrowAt (start : Nat) : Concrete :=
  .node (token "arrow_function" start (start + 17) none)
    [fourNames start, mark "=>" (start + 13),
      .node (token "identifier" (start + 16) (start + 17) (some "body")) []]

/-- `@((a, b, c, d) => a) class A {}` -/
def decoratedTree : Concrete :=
  .node (token "program" 0 31 none)
    [.node (token "class_declaration" 0 31 none)
      [.node (token "decorator" 0 20 (some "decorator"))
          [mark "@" 0, mark "(" 1, arrowAt 2, mark ")" 19],
        mark "class" 21, .node (token "identifier" 27 28 (some "name")) [],
        .node (token "class_body" 29 31 (some "body")) [mark "\x7b" 29, mark "\x7d" 30]]]

/-- A function in a decorator is lost, though every node above it is named, without a form and no
comment. -/
theorem decoratedTree_loses_function :
    decoratedTree.token.hasError = false ∧ decoratedTree.token.named ∧
      decoratedTree.kind ≠ "comment" ∧ (arrowAt 2).isFunctionLike ∧
      decoratedTree.Exposes ["comment"] (arrowAt 2) ∧
      ∃ t, treeOver wideLimits "@((a, b, c, d) => a) class A \x7b\x7d"
          Language.javascript.name "a.js" decoratedTree = .ok t ∧ t.functions = [] := by
  have hsight : decoratedTree.Exposes ["comment"] (arrowAt 2) :=
    Concrete.mem_exposed_iff.1 (List.mem_of_getElem? (i := 3) rfl)
  obtain ⟨t, ht, hroot⟩ : ∃ t, treeOver wideLimits "@((a, b, c, d) => a) class A \x7b\x7d"
      Language.javascript.name "a.js" decoratedTree = .ok t ∧
      t.root = .other ⟨0, 31⟩ (.str "program") [.other ⟨0, 31⟩ (.str "class_declaration")
        [.bareName ⟨27, 28⟩ (.str "A"), .other ⟨29, 31⟩ (.str "class_body") []]] := ⟨_, rfl, rfl⟩
  have hnone : t.root.functions = [] := by
    rw [hroot]
    simp [functions_eq, childNodes, isFunction, params?, bareName]
  have hperm := t.functions_perm
  rw [hnone, List.perm_nil, List.map_eq_nil_iff] at hperm
  exact ⟨rfl, rfl, by decide, rfl, hsight, t, ht, hperm⟩

end Instances

end ArityLint
