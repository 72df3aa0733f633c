import ArityLint.Proofs.Lowering
import Mathlib.Data.List.Perm.Subperm

namespace ArityLint

namespace Concrete

mutual

def nodes : Concrete → List Concrete
  | node t cs => node t cs :: nodesIn cs

def nodesIn : List Concrete → List Concrete
  | [] => []
  | c :: cs => nodes c ++ nodesIn cs

end

theorem nodesIn_eq (cs : List Concrete) : nodesIn cs = cs.flatMap nodes := by
  induction cs with
  | nil => rfl
  | cons c cs ih => rw [nodesIn, ih, List.flatMap_cons]

theorem nodes_eq (c : Concrete) : c.nodes = c :: c.children.flatMap nodes := by
  cases c with
  | node t cs => rw [nodes, nodesIn_eq, children]

theorem induction {P : Concrete → Prop} (h : ∀ c, (∀ d ∈ c.children, P d) → P c) (c : Concrete) :
    P c :=
  h c fun d _ => induction h d
termination_by sizeOf c
decreasing_by
  cases c with
  | node t cs =>
    have hlt := List.sizeOf_lt_of_mem (show d ∈ cs from ‹_›)
    simp only [node.sizeOf_spec]
    omega

theorem contains_of_mem_nodes {c d : Concrete} (h : d ∈ c.nodes) : c.Contains d := by
  induction c using induction with
  | h c ih =>
    rw [nodes_eq] at h
    rcases List.mem_cons.1 h with rfl | h
    · exact .self _
    · obtain ⟨e, he, hd⟩ := List.mem_flatMap.1 h
      exact .under he (ih e he hd)

theorem mem_nodes {c d : Concrete} : d ∈ c.nodes ↔ c.Contains d := by
  refine ⟨contains_of_mem_nodes, fun h => ?_⟩
  induction h with
  | self c =>
    rw [nodes_eq]
    exact List.mem_cons_self
  | @under c d e hd _ ih =>
    rw [nodes_eq]
    exact List.mem_cons_of_mem _ (List.mem_flatMap.2 ⟨d, hd, ih⟩)

theorem allKinds_iff {Q : String → Prop} {c : Concrete} :
    c.AllKinds Q ↔ ∀ d ∈ c.nodes, Q d.kind := by
  simp only [AllKinds, mem_nodes]

theorem allKinds_genuine {c : Concrete}
    (h : ∀ d ∈ c.nodes, ∀ k ∈ FunctionKind.all, d.kind ≠ k.name) :
    c.AllKinds fun kind => ∀ k : FunctionKind, kind ≠ k.name :=
  allKinds_iff.2 fun d hd k => h d hd k (by cases k <;> decide)

/-- A declaration or an expression of a function, a generator, an arrow or a method. -/
def isFunctionLike (c : Concrete) : Bool :=
  match Form.ofKind c.kind with
  | .function _ | .arrow | .method => true
  | _ => false

def functionLikes (c : Concrete) : List Concrete := c.nodes.filter isFunctionLike

theorem functionLikes_eq (c : Concrete) :
    c.functionLikes = (if c.isFunctionLike then [c] else []) ++ c.children.flatMap functionLikes := by
  have hbelow : (c.children.flatMap nodes).filter isFunctionLike =
      c.children.flatMap functionLikes := List.filter_flatMap
  rw [functionLikes, nodes_eq, List.filter_cons, hbelow]
  split <;> rfl

/-- Where the function of a node starts; that of a method starts at its parameters. -/
def functionStart (c : Concrete) : Nat :=
  match Form.ofKind c.kind with
  | .method => (c.child? "parameters").elim c.start (·.start)
  | _ => c.start

/-- No function lies in a child that is read twice: the name of a method is its key and names its
function, and a decorator of a parameter may hang under a field of its own. -/
def readsOnce (c : Concrete) : Bool :=
  match Form.ofKind c.kind with
  | .method => (c.child? "name").all (·.functionLikes.isEmpty)
  | .parameter _ => ["pattern", "type", "value"].all fun field =>
      (c.child? field).all (·.kind ≠ "decorator")
  | _ => true

def AllReadOnce (c : Concrete) : Prop := ∀ d, c.Contains d → d.readsOnce

theorem allReadOnce_iff {c : Concrete} : c.AllReadOnce ↔ ∀ d ∈ c.nodes, d.readsOnce := by
  simp only [AllReadOnce, mem_nodes]

theorem Contains.trans {c d e : Concrete} (h : c.Contains d) (h' : d.Contains e) : c.Contains e := by
  induction h with
  | self => exact h'
  | under hd _ ih => exact .under hd (ih h')

theorem Contains.child {c d : Concrete} (h : d ∈ c.children) : c.Contains d := .under h (.self d)

theorem mem_children_of_child? {c d : Concrete} {field : String} (h : c.child? field = some d) :
    d ∈ c.children :=
  List.mem_of_find?_eq_some h

theorem mem_children_of_mem_parts {c d : Concrete} (h : d ∈ c.parts) : d ∈ c.children :=
  (List.mem_filter.1 h).1

theorem AllReadOnce.of_contains {c d : Concrete} (h : c.AllReadOnce) (hd : c.Contains d) :
    d.AllReadOnce :=
  fun _ he => h _ (hd.trans he)

def under? (cs : List Concrete) (field : String) : Option Concrete :=
  cs.find? fun d => d.token.field = some field

theorem under?_cons_of_ne {d : Concrete} {field : String} (h : d.token.field ≠ some field)
    (cs : List Concrete) : under? (d :: cs) field = under? cs field := by
  rw [under?, List.find?_cons_of_neg (by simpa using h), under?]

theorem under?_subperm {fields : List String} (h : fields.Nodup) (cs : List Concrete) :
    (fields.filterMap (under? cs)).Subperm cs := by
  induction cs generalizing fields with
  | nil => simp [under?]
  | cons d cs ih =>
    by_cases hd : ∃ field ∈ fields, d.token.field = some field
    · obtain ⟨field, hmem, hfield⟩ := hd
      have hself : under? (d :: cs) field = some d := by
        rw [under?, List.find?_cons_of_pos (by simpa using hfield)]
      have hothers : (fields.erase field).filterMap (under? (d :: cs)) =
          (fields.erase field).filterMap (under? cs) := by
        apply List.filterMap_congr
        intro other hother
        refine under?_cons_of_ne (fun heq => ?_) cs
        have hne := (h.mem_erase_iff.1 hother).1
        exact hne (Option.some.inj (heq.symm.trans hfield))
      have hperm := (List.perm_cons_erase hmem).filterMap (under? (d :: cs))
      rw [List.filterMap_cons_some hself, hothers] at hperm
      exact hperm.subperm.trans ((List.subperm_cons d).2 (ih (h.erase field)))
    · have hnone : fields.filterMap (under? (d :: cs)) = fields.filterMap (under? cs) := by
        apply List.filterMap_congr
        intro field hfield
        exact under?_cons_of_ne (fun heq => hd ⟨field, hfield, heq⟩) cs
      rw [hnone]
      exact (ih h).cons_right d

theorem fields_subperm (c : Concrete) {fields : List String} (h : fields.Nodup) :
    (fields.filterMap c.child?).Subperm c.children :=
  under?_subperm h c.children

theorem filterMap_bound {c bound : Concrete} {field : String} (h : c.child? field = some bound) :
    [field, "type", "value"].filterMap c.child? =
      bound :: (c.child? "type").toList ++ (c.child? "value").toList := by
  rw [List.filterMap_cons_some h]
  cases htype : c.child? "type" <;> cases hvalue : c.child? "value" <;> simp [htype, hvalue]

theorem under?_filter {cs : List Concrete} {p : Concrete → Bool} {field : String}
    (h : ∀ d ∈ under? cs field, p d) : under? (cs.filter p) field = under? cs field := by
  unfold under? at *
  rw [List.find?_filter]
  cases hfind : cs.find? fun d => d.token.field = some field with
  | none =>
    rw [List.find?_eq_none] at hfind ⊢
    intro d hd
    simpa using fun _ => by simpa using hfind d hd
  | some d =>
    rw [hfind] at h
    rw [List.find?_eq_some_iff_append] at hfind ⊢
    obtain ⟨hfield, before, after, hsplit, hbefore⟩ := hfind
    refine ⟨by simpa [h d rfl] using hfield, before, after, hsplit, fun e he => ?_⟩
    have hne := hbefore e he
    simp only [Bool.not_eq_true', decide_eq_false_iff_not] at hne
    simp [hne]

/-- The decorators of a node come on top of its fields when no field holds one of them. -/
theorem fields_decorators_subperm (c : Concrete) {fields : List String} (h : fields.Nodup)
    (hd : ∀ field ∈ fields, ∀ d ∈ c.child? field, d.kind ≠ "decorator") :
    (fields.filterMap c.child? ++ c.children.filter fun d => d.kind = "decorator").Subperm
      c.children := by
  have hfields : fields.filterMap c.child? =
      fields.filterMap (under? (c.children.filter fun d => d.kind ≠ "decorator")) := by
    apply List.filterMap_congr
    intro field hfield
    exact (under?_filter fun d hmem => by simpa using hd field hfield d hmem).symm
  have hsplit : (c.children.filter (fun d => d.kind ≠ "decorator") ++
      c.children.filter fun d => d.kind = "decorator").Perm c.children := by
    simpa using List.filter_append_perm (fun d => d.kind ≠ "decorator") c.children
  rw [hfields]
  exact (((under?_subperm h _).append (List.Subperm.refl _))).trans hsplit.subperm

end Concrete

namespace Node

/-- The functions at and below a node, in the order of its fields. -/
def functions (n : Node) : List Node :=
  (if n.isFunction then [n] else []) ++ n.edges.attach.flatMap fun e => functions e.1.2
termination_by n.size
decreasing_by exact size_lt_of_mem_edges e.2

def childNodes : Node → List Node
  | other _ _ body => body
  | identifier _ _ t _ ds => t.toList ++ ds
  | literal .. => []
  | assignmentPattern _ l r ds => l :: r :: ds
  | restElement _ a t ds => a :: (t.toList ++ ds)
  | objectPattern _ ps t ds => ps ++ (t.toList ++ ds)
  | arrayPattern _ es t ds => es ++ (t.toList ++ ds)
  | parameterProperty _ p _ _ _ ds => p :: ds
  | function _ _ ps i b r => ps ++ (i.toList ++ (b.toList ++ r.toList))
  | call _ c args => c :: args
  | member _ o p _ => [o, p]
  | property _ k v .. => [k, v]
  | shorthand _ s name => [bareName s name, bareName s name]
  | methodDefinition _ k v .. => [k, v]
  | assignment _ l r _ => [l, r]
  | declarator _ i v => i :: v.toList

theorem map_snd_edges (n : Node) : n.edges.map (·.2) = n.childNodes := by
  cases n <;> simp [edges, childNodes, placed, placedOption, Function.comp_def]

theorem functions_eq (n : Node) :
    n.functions = (if n.isFunction then [n] else []) ++ n.childNodes.flatMap functions := by
  rw [functions, ← map_snd_edges, List.flatMap_map]
  simp [List.flatMap_def, List.map_attach_eq_pmap]

end Node

theorem Visit.map_offspring (v : Visit) : v.offspring.map (·.node) = v.node.childNodes := by
  rw [offspring, List.map_map, ← Node.map_snd_edges, ← Node.map_fst_links, List.map_map]
  rfl

theorem Visit.functions_perm (v : Visit) :
    ((v.preorder.filter fun w => w.node.isFunction).map (·.node)).Perm v.node.functions := by
  induction v using Visit.induction with
  | h v ih =>
    have hchildren : ((v.children.flatMap preorder).filter fun w => w.node.isFunction).map (·.node) =
        v.children.flatMap fun c => (c.preorder.filter fun w => w.node.isFunction).map (·.node) := by
      rw [List.filter_flatMap, List.map_flatMap]
    have hbelow : (v.children.flatMap fun c =>
        (c.preorder.filter fun w => w.node.isFunction).map (·.node)).Perm
          (v.node.childNodes.flatMap Node.functions) := by
      have hsort : v.children.Perm v.offspring := List.mergeSort_perm _ _
      rw [← v.map_offspring, List.flatMap_map]
      refine (List.Perm.flatMap_left _ fun c hc => ih c (mem_children.1 hc)).trans ?_
      exact hsort.flatMap_right _
    rw [preorder_eq, Node.functions_eq, List.filter_cons]
    split
    · rw [List.map_cons, hchildren]
      exact hbelow.cons _
    · rw [hchildren]
      exact hbelow

theorem Tree.functions_perm (t : Tree) : (t.functions.map (·.node)).Perm t.root.functions := by
  unfold Tree.functions
  rw [walk_eq_preorder]
  exact Visit.functions_perm _

end ArityLint
