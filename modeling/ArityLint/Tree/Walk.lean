import ArityLint.Text.Source
import ArityLint.Tree.Node

namespace ArityLint

/-- Which node is meant: the indices of the links that lead to it from the root, last one first. -/
abbrev Address := List Nat

/-- A node with the way to it: parent and place, and its address. -/
structure Visit where
  node : Node
  parent : Option (Node × Role)
  address : Address

namespace Visit

def root (n : Node) : Visit := ⟨n, none, []⟩

def follow (v : Visit) (edge : Role × Node) (i : Nat) : Visit :=
  ⟨edge.2, some (v.node, edge.1), i :: v.address⟩

/-- Visits of the children in the order of the node's fields. -/
def offspring (v : Visit) : List Visit := v.node.links.map fun (edge, i) => v.follow edge i

/-- Visits of the children, sorted stably by where they start. -/
def children (v : Visit) : List Visit :=
  v.offspring.mergeSort fun a b => a.node.start ≤ b.node.start

def total (vs : List Visit) : Nat := Node.sizes (vs.map (·.node))

theorem total_cons (v : Visit) (vs : List Visit) : total (v :: vs) = v.node.size + total vs := by
  simp [total, Node.sizes]

theorem total_append (vs ws : List Visit) : total (vs ++ ws) = total vs + total ws := by
  simp [total, Node.sizes_append]

theorem total_perm {vs ws : List Visit} (h : vs.Perm ws) : total vs = total ws :=
  Node.sizes_perm (h.map _)

theorem total_offspring (v : Visit) : v.node.size = 1 + total v.offspring := by
  rw [Node.size_eq, ← Node.map_fst_links, List.map_map]
  simp only [total, offspring, List.map_map]
  rfl

theorem total_children (v : Visit) : v.node.size = 1 + total v.children := by
  have hc : total v.children = total v.offspring := total_perm (List.mergeSort_perm _ _)
  rw [total_offspring, hc]

end Visit

/-- All visits from a list of visits still to be made, the next one first. -/
def walkFrom (pending : List Visit) : List Visit :=
  match pending with
  | [] => []
  | v :: rest => v :: walkFrom (v.children ++ rest)
termination_by Visit.total pending
decreasing_by
  rw [Visit.total_cons, Visit.total_append, Visit.total_children v]
  omega

def Visit.preorder (v : Visit) : List Visit :=
  v :: v.children.attach.flatMap fun c => preorder c.1
termination_by v.node.size
decreasing_by
  have hv := Visit.total_children v
  have hc : c.1.node.size ≤ Visit.total v.children :=
    Node.size_le_sizes (List.mem_map_of_mem c.2)
  omega

theorem Visit.preorder_eq (v : Visit) : v.preorder = v :: v.children.flatMap preorder := by
  rw [preorder]
  simp [List.flatMap_def]

theorem walkFrom_eq (pending : List Visit) : walkFrom pending = pending.flatMap Visit.preorder := by
  fun_induction walkFrom pending with
  | case1 => rfl
  | case2 v rest ih => rw [ih, List.flatMap_append, List.flatMap_cons, v.preorder_eq]; simp

/-- Parents by the address of the child; of two entries for an address the first one counts. -/
abbrev Parents := List (Address × Visit)

namespace Parents

def enter (index : Parents) (v : Visit) : Parents :=
  v.offspring.foldl (fun index c => (c.address, v) :: index) index

/-- The index after all nodes on the stack, its top first, and all nodes below them. -/
def scan (stack : List Visit) (index : Parents) : Parents :=
  match stack with
  | [] => index
  | v :: rest => scan (v.offspring.reverse ++ rest) (index.enter v)
termination_by Visit.total stack
decreasing_by
  have hr := Visit.total_perm (List.reverse_perm v.offspring)
  rw [Visit.total_cons, Visit.total_append, Visit.total_offspring v, hr]
  omega

end Parents

/-- A root over its source, with the index of the parents. -/
structure Tree where
  root : Node
  source : SourceText
  parents : Parents
  parents_eq : parents = Parents.scan [Visit.root root] []

namespace Tree

def build (root : Node) (source : SourceText) : Tree :=
  ⟨root, source, Parents.scan [Visit.root root] [], rfl⟩

def walk (t : Tree) : List Visit := walkFrom [Visit.root t.root]

def functions (t : Tree) : List Visit := t.walk.filter fun v => v.node.isFunction

def parentOf (t : Tree) (v : Visit) : Option Visit := t.parents.lookup v.address

/-- Where a node stands as the index has it: its parent, and there the first field that holds this
very node. -/
def place (t : Tree) (v : Visit) : Option (Node × Role) :=
  (t.parentOf v).bind fun p =>
    (p.offspring.find? fun c => c.address = v.address).bind (·.parent)

/-- The row of the walk at which the parent of `v` stands. -/
def parentRow? (visits : List Visit) (v : Visit) : Option Nat :=
  match v.address with
  | [] => none
  | _ :: up => visits.findIdx? fun w => w.address = up

end Tree

end ArityLint
