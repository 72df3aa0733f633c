import ArityLint.Proofs.Nesting

namespace ArityLint

/-- One of the two ends where the other starts, or before it. -/
def Span.Apart (a b : Span) : Prop := a.stop ≤ b.start ∨ b.stop ≤ a.start

theorem Span.Apart.symm {a b : Span} (h : a.Apart b) : b.Apart a := Or.symm h

instance (a b : Span) : Decidable (a.Apart b) := inferInstanceAs (Decidable (_ ∨ _))

instance (a b : Span) : Decidable (a.Within b) := inferInstanceAs (Decidable (_ ∧ _))

namespace Node

/-- The ranges of a node and its children. Siblings are told apart by their index, so that the name
that a shorthand entry shares is not its own sibling. -/
structure RangesNest (n : Node) : Prop where
  proper : n.start ≤ n.stop
  within : n.HoldsChildren
  apart : n.links.Pairwise fun a b => a.2 ≠ b.2 → a.1.2.span.Apart b.1.2.span

/-- Of two children that start at one place, the first one in field order is empty. -/
def EmptyFirst (n : Node) : Prop :=
  n.links.Pairwise fun a b => a.2 ≠ b.2 → a.1.2.start = b.1.2.start → a.1.2.stop ≤ b.1.2.start

instance (n : Node) : Decidable n.RangesNest :=
  decidable_of_iff
    (n.start ≤ n.stop ∧ (∀ e ∈ n.edges, e.2.span.Within n.span) ∧
      n.links.Pairwise fun a b => a.2 ≠ b.2 → a.1.2.span.Apart b.1.2.span)
    ⟨fun ⟨hp, hw, ha⟩ => ⟨hp, hw, ha⟩, fun ⟨hp, hw, ha⟩ => ⟨hp, hw, ha⟩⟩

instance (n : Node) : Decidable n.EmptyFirst :=
  inferInstanceAs (Decidable (n.links.Pairwise fun a b =>
    a.2 ≠ b.2 → a.1.2.start = b.1.2.start → a.1.2.stop ≤ b.1.2.start))

end Node

namespace Visit

variable {u v w : Visit} {cs l : List Visit}

/-- The visits of the children by where they start, and in field order where that is equal. -/
structure ListsChildren (v : Visit) (cs : List Visit) : Prop where
  perm : cs.Perm v.offspring
  ordered : cs.Pairwise fun a b => a.node.start ≤ b.node.start
  stable : ∀ a b, a.node.start ≤ b.node.start → [a, b].Sublist v.offspring → [a, b].Sublist cs

/-- A visit, followed by the lists of its children one after the other. -/
inductive Preorder : Visit → List Visit → Prop
  | node {v : Visit} {cs : List Visit} {ls : List (List Visit)} :
      v.ListsChildren cs → List.Forall₂ Preorder cs ls → Preorder v (v :: ls.flatten)

theorem listsChildren_children (v : Visit) : v.ListsChildren v.children where
  perm := List.mergeSort_perm _ _
  ordered := pairwise_sortBy (fun c : Visit => c.node.start) v.offspring
  stable _ _ hab h := @pair_sublist_sortBy Visit (fun c => c.node.start) _ _ _ hab h

theorem offspring_shorthand {s ns : Span} {name : Value} (h : v.node = .shorthand s ns name) :
    v.offspring = List.replicate 2 (v.follow (.key, .bareName ns name) 0) := by
  simp [offspring, h, Node.links, List.replicate]

theorem nodup_offspring (hl : v.node.links = v.node.edges.zipIdx) : v.offspring.Nodup := by
  rw [offspring, List.Nodup, List.pairwise_map]
  exact (Node.indices_pairwise hl).imp fun hne h => hne (List.cons.inj (congrArg address h)).1

theorem ListsChildren.pairwise (h : v.ListsChildren cs) (hl : v.node.links = v.node.edges.zipIdx) :
    cs.Pairwise fun a b => a.node.start < b.node.start ∨
      a.node.start = b.node.start ∧ [a, b].Sublist v.offspring :=
  @pairwise_of_stable Visit (fun c => c.node.start) _ _ (nodup_offspring hl) h.perm h.ordered h.stable

theorem ListsChildren.eq_children (h : v.ListsChildren cs) : cs = v.children := by
  have hc := listsChildren_children v
  rcases v.node.links_cases with ⟨s, ns, name, hn⟩ | hl
  · have hp := h.perm
    have hcp := hc.perm
    rw [offspring_shorthand hn, List.perm_replicate] at hp hcp
    rw [hp, hcp]
  -- of two different children, start and field order say which one is first
  · apply List.Perm.eq_of_pairwise _ (h.pairwise hl) (hc.pairwise hl) (h.perm.trans hc.perm.symm)
    rintro a b _ _ (hab | ⟨heq, hab⟩) (hba | ⟨_, hba⟩)
    · omega
    · omega
    · omega
    · exact absurd hba (not_pair_sublist_swap (nodup_offspring hl) hab)

theorem forall₂_preorder_iff {cs : List Visit} {ls : List (List Visit)}
    (h : ∀ c ∈ cs, ∀ l, Preorder c l ↔ l = c.preorder) :
    List.Forall₂ Preorder cs ls ↔ ls = cs.map preorder := by
  induction cs generalizing ls with
  | nil => simp
  | cons c cs ih =>
    rw [List.forall_mem_cons] at h
    rw [List.map_cons, List.forall₂_cons_left_iff]
    constructor
    · rintro ⟨l, ls, hl, hls, rfl⟩
      rw [(h.1 l).1 hl, (ih h.2).1 hls]
    · rintro rfl
      exact ⟨_, _, (h.1 _).2 rfl, (ih h.2).2 rfl, rfl⟩

theorem preorder_iff : Preorder v l ↔ l = v.preorder := by
  induction v using induction generalizing l with
  | h v ih =>
    have hchildren : ∀ c ∈ v.children, ∀ l, Preorder c l ↔ l = c.preorder := fun c hc _ =>
      ih c (mem_children.1 hc)
    rw [preorder_eq, List.flatMap_def]
    constructor
    · rintro ⟨hcs, hls⟩
      rw [hcs.eq_children, forall₂_preorder_iff hchildren] at hls
      rw [hls]
    · rintro rfl
      exact .node (listsChildren_children v) ((forall₂_preorder_iff hchildren).2 rfl)

theorem length_flatMap_preorder {cs : List Visit}
    (h : ∀ c ∈ cs, c.preorder.length = c.node.size) : (cs.flatMap preorder).length = total cs := by
  induction cs with
  | nil => rfl
  | cons c cs ih =>
    rw [List.forall_mem_cons] at h
    rw [List.flatMap_cons, List.length_append, h.1, ih h.2, total_cons]

theorem length_preorder (v : Visit) : v.preorder.length = v.node.size := by
  induction v using induction with
  | h v ih =>
    have hchildren := length_flatMap_preorder fun c hc => ih c (mem_children.1 hc)
    rw [preorder_eq, List.length_cons, hchildren, total_children, Nat.add_comm]

/-- Children that follow each other: what is below the one starts no later than what is below the
other. -/
theorem start_le_of_reaches {c d : Visit} (hc : c.node.All Node.RangesNest)
    (hd : d.node.All Node.RangesNest) (hcd : c.node.stop ≤ d.node.start) (hv : c.Reaches v)
    (hw : d.Reaches w) : v.node.start ≤ w.node.start := by
  have hvc := hv.contains.within_of_holds fun m hm => (hc m hm).within
  have hwd := hw.contains.within_of_holds fun m hm => (hd m hm).within
  have hproper := (hc _ hv.contains).proper
  unfold Span.Within at hvc hwd
  dsimp only [Node.start, Node.stop] at *
  omega

theorem children_follow (hn : v.node.RangesNest) (he : v.node.EmptyFirst)
    (hproper : ∀ c ∈ v.offspring, c.node.start ≤ c.node.stop)
    (hl : v.node.links = v.node.edges.zipIdx) :
    v.children.Pairwise fun c d => c.node.stop ≤ d.node.start := by
  have hpairs : v.offspring.Pairwise fun c d => c.node.span.Apart d.node.span ∧
      (c.node.start = d.node.start → c.node.stop ≤ d.node.start) := by
    rw [offspring, List.pairwise_map]
    exact ((Node.indices_pairwise hl).and (hn.apart.and he)).imp fun h =>
      ⟨h.2.1 h.1, h.2.2 h.1⟩
  rw [List.pairwise_iff_forall_sublist] at hpairs
  have hc := listsChildren_children v
  have hdistinct := hc.perm.nodup_iff.2 (nodup_offspring hl)
  apply ((hc.pairwise hl).and hdistinct).imp_of_mem
  rintro c d hcm hdm ⟨hlt | ⟨heq, hcd⟩, hne⟩
  · have hcm := mem_children.1 hcm
    have hdm := mem_children.1 hdm
    have hapart : c.node.span.Apart d.node.span := by
      rcases pair_sublist_or hcm hdm hne with h | h
      · exact (hpairs h).1
      · exact (hpairs h).1.symm
    have hpd := hproper d hdm
    unfold Span.Apart at hapart
    dsimp only [Node.start, Node.stop] at *
    omega
  · exact (hpairs hcd).2 heq

theorem preorder_ordered (hn : u.node.All Node.RangesNest) (he : u.node.All Node.EmptyFirst) :
    u.preorder.Pairwise fun v w => v.node.start ≤ w.node.start := by
  induction u using induction with
  | h u ih =>
    have hchild : ∀ c ∈ u.offspring, c.node.All Node.RangesNest ∧ c.node.All Node.EmptyFirst := by
      intro c hc
      obtain ⟨e, i, hm, rfl⟩ := mem_offspring.1 hc
      have hcontains : u.node.Contains e.2 := .under (Node.mem_edges_of_mem_links hm) (.self _)
      exact ⟨hn.of_contains hcontains, he.of_contains hcontains⟩
    rw [preorder_eq, List.pairwise_cons, List.pairwise_flatMap]
    refine ⟨?_, fun c hc => ?_, ?_⟩
    · intro v hv
      have hv : u.Reaches v := mem_preorder.1 (preorder_eq u ▸ List.mem_cons_of_mem _ hv)
      exact (hv.contains.within_of_holds fun m hm => (hn m hm).within).1
    · have hc := mem_children.1 hc
      exact ih c hc (hchild c hc).1 (hchild c hc).2
    · rcases u.node.links_cases with ⟨s, ns, name, hs⟩ | hl
      -- the name of a shorthand entry starts where it starts
      · apply List.pairwise_of_forall_mem_list
        intro c hc d hd v hv w hw
        have hleaf : ∀ c ∈ u.children, ∀ v ∈ c.preorder, v.node.start = ns.start := by
          intro c hc v hv
          have hc := mem_children.1 hc
          rw [offspring_shorthand hs] at hc
          obtain rfl := List.eq_of_mem_replicate hc
          have hnone : (u.follow (.key, .bareName ns name) 0).offspring = [] :=
            offspring_bareName rfl
          have hv := mem_preorder.1 hv
          rw [reaches_iff, hnone] at hv
          obtain rfl : v = u.follow (.key, .bareName ns name) 0 := by simpa using hv
          rfl
        exact Int.le_of_eq ((hleaf c hc v hv).trans (hleaf d hd w hw).symm)
      · have hproper : ∀ c ∈ u.offspring, c.node.start ≤ c.node.stop := fun c hc =>
          ((hchild c hc).1 _ (.self _)).proper
        apply (children_follow (hn _ (.self _)) (he _ (.self _)) hproper hl).imp_of_mem
        intro c d hc hd hcd v hv w hw
        exact start_le_of_reaches (hchild c (mem_children.1 hc)).1 (hchild d (mem_children.1 hd)).1
          hcd (mem_preorder.1 hv) (mem_preorder.1 hw)

end Visit

namespace Tree

variable {t : Tree} {v : Visit}

theorem count_address_walk (hv : t.Occurs v) (hs : ¬v.IsShared) :
    (t.walk.map (·.address)).count v.address = 1 := by
  obtain ⟨before, after, hwalk⟩ := List.append_of_mem (mem_walk.2 hv)
  have hsep := t.walk_pairwise
  rw [hwalk, List.pairwise_append, List.pairwise_cons] at hsep
  obtain ⟨_, ⟨hafter, _⟩, hbefore⟩ := hsep
  have hbefore : v.address ∉ before.map (·.address) := by
    intro h
    obtain ⟨w, hw, heq⟩ := List.mem_map.1 h
    exact (hbefore w hw v (by simp)).elim (fun h => h heq) fun h => hs h.2
  have hafter : v.address ∉ after.map (·.address) := by
    intro h
    obtain ⟨w, hw, heq⟩ := List.mem_map.1 h
    exact (hafter w hw).elim (fun h => h heq.symm) fun h => hs h.1
  rw [hwalk, List.map_append, List.map_cons, List.count_append, List.count_cons_self,
    List.count_eq_zero.2 hbefore, List.count_eq_zero.2 hafter]

theorem exec_check_of_ordered (h : t.walk.Pairwise fun v w => v.node.start ≤ w.node.start)
    (s : Session) : t.check.exec s = (checkVisits t t.walk).exec s := by
  obtain ⟨r, hr, hiff⟩ := yields_checkVisits t t.walk
  obtain ⟨parsers, notes, he, _⟩ := hr s
  unfold check
  rw [LintM.exec_bind, he]
  cases r with
  | error e => rfl
  | ok fs =>
    have hordered : fs.Pairwise fun a b => decide (a.span.start ≤ b.span.start) := by
      rw [((hiff fs).1 rfl).2, List.pairwise_filterMap]
      apply h.imp
      intro v w hvw f hf g hg
      obtain ⟨_, _, _, hfspan, _⟩ := finding?_eq_some hf
      obtain ⟨_, _, _, hgspan, _⟩ := finding?_eq_some hg
      rw [hfspan, hgspan]
      exact decide_eq_true hvw
    change (Except.ok (fs.mergeSort fun a b => a.span.start ≤ b.span.start), _) = _
    rw [List.mergeSort_of_pairwise hordered]

/-- The walk of any tree is its one pre-order with stably sorted children. It has all places of the
tree, each of them once but for shared names, and the index of parents gives each its parent. Where
the ranges nest and no empty child starts where a child before it with some text starts, the walk
goes forward in the source, and the sort of a check changes nothing. -/
theorem walk_in_order (t : Tree) :
    (∀ l, (Visit.root t.root).Preorder l ↔ l = t.walk) ∧
      t.walk.length = t.root.size ∧
      t.parentOf (.root t.root) = none ∧
      (∀ p v, t.Occurs p → v ∈ p.offspring → t.parentOf v = some p) ∧
      (∀ v, t.Occurs v → ¬v.IsShared → (t.walk.map (·.address)).count v.address = 1) ∧
      (t.root.All Node.RangesNest → t.root.All Node.EmptyFirst →
        (t.walk.Pairwise fun v w => v.node.start ≤ w.node.start) ∧
          ∀ s, t.check.exec s = (checkVisits t t.walk).exec s) := by
  refine ⟨fun l => ?_, ?_, t.parentOf_root, fun p v => parentOf_offspring,
    fun v => count_address_walk, fun hn he => ?_⟩
  · rw [Visit.preorder_iff, walk_eq_preorder]
  · rw [walk_eq_preorder, Visit.length_preorder]
    rfl
  · have hordered : t.walk.Pairwise fun v w => v.node.start ≤ w.node.start := by
      rw [walk_eq_preorder]
      exact Visit.preorder_ordered hn he
    exact ⟨hordered, exec_check_of_ordered hordered⟩

end Tree

section Instances

open Node

/-- `({a}, b, c, d) => a` -/
def shorthandRoot : Node :=
  .function ⟨0, 19⟩ .arrow
    [.objectPattern ⟨1, 4⟩ [.shorthand ⟨2, 3⟩ ⟨2, 3⟩ (.str "a")] none [],
      .bareName ⟨6, 7⟩ (.str "b"), .bareName ⟨9, 10⟩ (.str "c"), .bareName ⟨12, 13⟩ (.str "d")]
    none (some (.bareName ⟨18, 19⟩ (.str "a"))) none

def shorthandTree : Tree :=
  .build shorthandRoot (SourceText.ofString "(\x7ba\x7d, b, c, d) => a")

theorem rangesNest_shorthandRoot :
    shorthandRoot.All fun n => n.RangesNest ∧ n.EmptyFirst := by
  have hname : ∀ s : Span, s.start ≤ s.stop → ∀ name,
      (bareName s name).All fun n => n.RangesNest ∧ n.EmptyFirst := by
    intro s hs name
    exact all_iff.2 ⟨⟨⟨hs, nofun, .nil⟩, .nil⟩, by simp [bareName, EachChild]⟩
  have hentry : (shorthand ⟨2, 3⟩ ⟨2, 3⟩ (.str "a")).All fun n => n.RangesNest ∧ n.EmptyFirst :=
    all_iff.2 ⟨by decide, hname _ (by decide) _⟩
  have hpattern : (objectPattern ⟨1, 4⟩ [.shorthand ⟨2, 3⟩ ⟨2, 3⟩ (.str "a")] none []).All
      fun n => n.RangesNest ∧ n.EmptyFirst :=
    all_iff.2 ⟨by decide, by simpa [EachChild] using hentry⟩
  exact all_iff.2 ⟨by decide, by simp [shorthandRoot, EachChild, hpattern, hname]⟩

theorem shorthandTree_walk_in_order :
    shorthandTree.root.All RangesNest ∧ shorthandTree.root.All EmptyFirst ∧
      (shorthandTree.walk.map (·.address)).count [] = 1 ∧
      (∀ v ∈ (Visit.root shorthandRoot).offspring,
        shorthandTree.parentOf v = some (.root shorthandRoot)) ∧
      (shorthandTree.walk.Pairwise fun v w => v.node.start ≤ w.node.start) ∧
      ∀ s, shorthandTree.check.exec s = (checkVisits shorthandTree shorthandTree.walk).exec s := by
  have hn : shorthandTree.root.All RangesNest := fun m hm => (rangesNest_shorthandRoot m hm).1
  have he : shorthandTree.root.All EmptyFirst := fun m hm => (rangesNest_shorthandRoot m hm).2
  have hroot : ¬(Visit.root shorthandTree.root).IsShared := by
    rintro ⟨_, _, _, _, h⟩
    cases h
  obtain ⟨_, _, _, hparent, hcount, hordered⟩ := Tree.walk_in_order shorthandTree
  exact ⟨hn, he, hcount _ .refl hroot, fun v hv => hparent _ v .refl hv, hordered hn he⟩

/-- An assignment of an empty name, placed where the left side starts, to `ab.cd`. -/
def emptyNameDocument : Value :=
  .obj [("type", .str "AssignmentExpression"), ("range", .arr [.int 0, .int 5]),
    ("operator", .str "="),
    ("left", .obj [("type", .str "MemberExpression"), ("range", .arr [.int 0, .int 5]),
      ("object", .obj [("type", .str "Identifier"), ("range", .arr [.int 0, .int 2]),
        ("name", .str "ab")]),
      ("property", .obj [("type", .str "Identifier"), ("range", .arr [.int 3, .int 5]),
        ("name", .str "cd")])]),
    ("right", .obj [("type", .str "Identifier"), ("range", .arr [.int 0, .int 0]),
      ("name", .str "")])]

def emptyNameMember : Node :=
  .member ⟨0, 5⟩ (.bareName ⟨0, 2⟩ (.str "ab")) (.bareName ⟨3, 5⟩ (.str "cd")) false

def emptyNameTree : Tree :=
  .build (.assignment ⟨0, 5⟩ emptyNameMember (.bareName ⟨0, 0⟩ (.str "")) (.str "="))
    (SourceText.ofString "ab.cd")

theorem tree_emptyNameDocument :
    Estree.tree Estree.noComplaint emptyNameDocument "ab.cd" "<estree>" = .ok emptyNameTree := rfl

theorem rangesNest_emptyNameTree : emptyNameTree.root.All RangesNest := by
  have hname : ∀ s : Span, s.start ≤ s.stop → ∀ name, (bareName s name).All RangesNest := by
    intro s hs name
    exact all_iff.2 ⟨⟨hs, nofun, .nil⟩, by simp [bareName, EachChild]⟩
  have hmember : emptyNameMember.All RangesNest :=
    all_iff.2 ⟨by decide, hname _ (by decide) _, hname _ (by decide) _⟩
  exact all_iff.2 ⟨by decide, hmember, hname _ (by decide) _⟩

/-- The empty name comes after all of the left side, though it starts where that starts. -/
theorem walk_returns_to_empty_name :
    Estree.tree Estree.noComplaint emptyNameDocument "ab.cd" "<estree>" = .ok emptyNameTree ∧
      emptyNameTree.root.All RangesNest ∧
      ¬emptyNameTree.walk.Pairwise fun v w => v.node.start ≤ w.node.start := by
  refine ⟨tree_emptyNameDocument, rangesNest_emptyNameTree, fun h => ?_⟩
  let root := Visit.root emptyNameTree.root
  let left := root.follow (.left, emptyNameMember) 0
  let name := left.follow (.memberProperty, .bareName ⟨3, 5⟩ (.str "cd")) 1
  let right := root.follow (.right, .bareName ⟨0, 0⟩ (.str "")) 1
  -- the two sides start at one place, so they stay in field order
  have hchildren : root.children = [left, right] :=
    List.mergeSort_of_pairwise (by decide)
  rw [Tree.walk_eq_preorder, Visit.preorder_eq, hchildren, List.flatMap_cons, List.flatMap_singleton,
    List.pairwise_cons, List.pairwise_append] at h
  have hname : name ∈ left.preorder :=
    Visit.mem_preorder.2 (.step .refl (List.mem_cons_of_mem _ List.mem_cons_self))
  have hright : right ∈ right.preorder := Visit.mem_preorder.2 .refl
  have hle : name.node.start ≤ right.node.start := h.2.2.2 name hname right hright
  exact absurd hle (by decide)

end Instances

end ArityLint
