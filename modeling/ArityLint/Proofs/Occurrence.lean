import ArityLint.Tree.Walk

namespace ArityLint

namespace Node

inductive Contains : Node → Node → Prop
  | self (n : Node) : Contains n n
  | under {n m : Node} {e : Role × Node} : e ∈ n.edges → Contains e.2 m → Contains n m

theorem Contains.child {n m : Node} (h : n.Contains m) {e : Role × Node} (he : e ∈ m.edges) :
    n.Contains e.2 := by
  induction h with
  | self => exact .under he (.self _)
  | under hf _ ih => exact .under hf (ih he)

theorem Contains.trans {n m k : Node} (h : n.Contains m) (h' : m.Contains k) : n.Contains k := by
  induction h with
  | self => exact h'
  | under he _ ih => exact .under he (ih h')

theorem forall_contains_iff {P : Node → Prop} {n : Node} :
    (∀ m, n.Contains m → P m) ↔ P n ∧ ∀ e ∈ n.edges, ∀ m, e.2.Contains m → P m := by
  constructor
  · intro h
    exact ⟨h n (.self n), fun e he m hm => h m (.under he hm)⟩
  · rintro ⟨hn, hb⟩ m hm
    cases hm with
    | self => exact hn
    | under he hm => exact hb _ he m hm

/-- Each child satisfies `P`, field by field. -/
def EachChild (P : Node → Prop) : Node → Prop
  | other _ _ body => ∀ m ∈ body, P m
  | identifier _ _ t _ ds => (∀ m ∈ t, P m) ∧ ∀ m ∈ ds, P m
  | literal .. => True
  | assignmentPattern _ l r ds => P l ∧ P r ∧ ∀ m ∈ ds, P m
  | restElement _ a t ds => P a ∧ (∀ m ∈ t, P m) ∧ ∀ m ∈ ds, P m
  | objectPattern _ ps t ds => (∀ m ∈ ps, P m) ∧ (∀ m ∈ t, P m) ∧ ∀ m ∈ ds, P m
  | arrayPattern _ es t ds => (∀ m ∈ es, P m) ∧ (∀ m ∈ t, P m) ∧ ∀ m ∈ ds, P m
  | parameterProperty _ p _ _ _ ds => P p ∧ ∀ m ∈ ds, P m
  | function _ _ ps i b r =>
    (∀ m ∈ ps, P m) ∧ (∀ m ∈ i, P m) ∧ (∀ m ∈ b, P m) ∧ ∀ m ∈ r, P m
  | call _ c args => P c ∧ ∀ m ∈ args, P m
  | member _ o p _ => P o ∧ P p
  | property _ k v .. => P k ∧ P v
  | shorthand _ s name => P (bareName s name)
  | methodDefinition _ k v .. => P k ∧ P v
  | assignment _ l r _ => P l ∧ P r
  | declarator _ i v => P i ∧ ∀ m ∈ v, P m

theorem forall_mem_placed {P : Node → Prop} {role : Role} {ns : List Node} :
    (∀ e ∈ placed role ns, P e.2) ↔ ∀ n ∈ ns, P n := by
  simp [placed]

theorem forall_mem_placedOption {P : Node → Prop} {role : Role} {n : Option Node} :
    (∀ e ∈ placedOption role n, P e.2) ↔ ∀ m ∈ n, P m := by
  simp [placedOption]

theorem forall_mem_edges {P : Node → Prop} {n : Node} :
    (∀ e ∈ n.edges, P e.2) ↔ n.EachChild P := by
  cases n <;> simp only [edges, EachChild, List.forall_mem_append, List.forall_mem_cons,
    forall_mem_placed, forall_mem_placedOption, List.not_mem_nil, false_implies, implies_true,
    and_true, and_self]

/-- The node and all nodes below it satisfy `P`. -/
def All (P : Node → Prop) (n : Node) : Prop := ∀ m, n.Contains m → P m

theorem all_iff {P : Node → Prop} {n : Node} : n.All P ↔ P n ∧ n.EachChild (All P) := by
  rw [← forall_mem_edges]
  exact forall_contains_iff

theorem All.of_contains {P : Node → Prop} {n m : Node} (h : n.All P) (hm : n.Contains m) :
    m.All P :=
  fun _ hk => h _ (hm.trans hk)

theorem mem_edges_of_mem_params {n m : Node} {params : List Node} (hp : n.params? = some params)
    (hm : m ∈ params) : (.param, m) ∈ n.edges := by
  cases n <;> cases hp
  simp [edges, placed, hm]

theorem mem_edges_of_mem_links {n : Node} {e : Role × Node} {i : Nat} (h : (e, i) ∈ n.links) :
    e ∈ n.edges := by
  rw [← map_fst_links]
  exact List.mem_map_of_mem h

theorem links_cases (n : Node) :
    (∃ s ns name, n = .shorthand s ns name) ∨ n.links = n.edges.zipIdx := by
  unfold links
  split
  · exact .inl ⟨_, _, _, rfl⟩
  · exact .inr rfl

theorem indices_pairwise {n : Node} (hl : n.links = n.edges.zipIdx) :
    n.links.Pairwise fun a b => a.2 ≠ b.2 := by
  rw [hl, ← List.pairwise_map (f := Prod.snd) (R := (· ≠ ·)), List.zipIdx_map_snd]
  exact List.nodup_range' 1

theorem links_injective {n : Node} {e f : Role × Node} {i : Nat} (he : (e, i) ∈ n.links)
    (hf : (f, i) ∈ n.links) : e = f := by
  rcases n.links_cases with ⟨s, ns, name, rfl⟩ | h
  · simp only [links, List.mem_cons, Prod.mk.injEq, List.not_mem_nil, or_false, or_self] at he hf
    exact he.1.trans hf.1.symm
  · rw [h] at he hf
    have he := List.mem_zipIdx_iff_getElem?.1 he
    have hf := List.mem_zipIdx_iff_getElem?.1 hf
    exact Option.some.inj (he.symm.trans hf)

end Node

namespace Visit

/-- A visit that is made on the way down from `u`. -/
inductive Reaches (u : Visit) : Visit → Prop
  | refl : Reaches u u
  | step {p v : Visit} : Reaches u p → v ∈ p.offspring → Reaches u v

theorem mem_offspring {p v : Visit} :
    v ∈ p.offspring ↔ ∃ e i, (e, i) ∈ p.node.links ∧ v = p.follow e i := by
  unfold offspring
  constructor
  · intro h
    obtain ⟨⟨e, i⟩, hm, rfl⟩ := List.mem_map.1 h
    exact ⟨e, i, hm, rfl⟩
  · rintro ⟨e, i, hm, rfl⟩
    exact List.mem_map.2 ⟨(e, i), hm, rfl⟩

theorem mem_children {p v : Visit} : v ∈ p.children ↔ v ∈ p.offspring :=
  (List.mergeSort_perm _ _).mem_iff

theorem size_lt_of_mem_offspring {p v : Visit} (h : v ∈ p.offspring) : v.node.size < p.node.size := by
  obtain ⟨⟨role, c⟩, i, hm, rfl⟩ := mem_offspring.1 h
  exact Node.size_lt_of_mem_edges (Node.mem_edges_of_mem_links hm)

/-- What passes from all children of a visit to the visit holds of every visit. -/
theorem induction {P : Visit → Prop} (h : ∀ v, (∀ c ∈ v.offspring, P c) → P v) (v : Visit) : P v :=
  h v fun c _ => induction h c
termination_by v.node.size
decreasing_by exact size_lt_of_mem_offspring ‹_›

theorem Reaches.head {u c v : Visit} (hc : c ∈ u.offspring) (h : c.Reaches v) : u.Reaches v := by
  induction h with
  | refl => exact .step .refl hc
  | step _ hv ih => exact .step ih hv

theorem reaches_iff {u v : Visit} : u.Reaches v ↔ v = u ∨ ∃ c ∈ u.offspring, c.Reaches v := by
  constructor
  · intro h
    induction h with
    | refl => exact .inl rfl
    | step _ hv ih =>
      rcases ih with rfl | ⟨c, hc, hp⟩
      · exact .inr ⟨_, hv, .refl⟩
      · exact .inr ⟨c, hc, .step hp hv⟩
  · rintro (rfl | ⟨c, hc, h⟩)
    · exact .refl
    · exact h.head hc

theorem Reaches.contains {u v : Visit} (h : u.Reaches v) : u.node.Contains v.node := by
  induction h with
  | refl => exact .self _
  | step _ hv ih =>
    obtain ⟨e, i, hm, rfl⟩ := mem_offspring.1 hv
    exact ih.child (Node.mem_edges_of_mem_links hm)

theorem mem_preorder {u v : Visit} : v ∈ u.preorder ↔ u.Reaches v := by
  induction u using induction with
  | h u ih =>
    rw [preorder_eq, reaches_iff, List.mem_cons, List.mem_flatMap]
    apply or_congr_right
    constructor
    · rintro ⟨c, hc, hv⟩
      have hc := mem_children.1 hc
      exact ⟨c, hc, (ih c hc).1 hv⟩
    · rintro ⟨c, hc, hv⟩
      exact ⟨c, mem_children.2 hc, (ih c hc).2 hv⟩

theorem Reaches.suffix {u v : Visit} (h : u.Reaches v) : u.address <:+ v.address := by
  induction h with
  | refl => exact List.suffix_rfl
  | step _ hv ih =>
    obtain ⟨e, i, _, rfl⟩ := mem_offspring.1 hv
    exact ih.trans (List.suffix_cons i _)

theorem offspring_injective {p v w : Visit} (hv : v ∈ p.offspring) (hw : w ∈ p.offspring)
    (h : v.address = w.address) : v = w := by
  obtain ⟨e, i, he, rfl⟩ := mem_offspring.1 hv
  obtain ⟨f, j, hf, rfl⟩ := mem_offspring.1 hw
  obtain rfl : i = j := (List.cons.inj h).1
  rw [Node.links_injective he hf]

theorem Reaches.injective {n : Node} {v w : Visit} (hv : (root n).Reaches v)
    (hw : (root n).Reaches w) (h : v.address = w.address) : v = w := by
  induction hv generalizing w with
  | refl =>
    cases hw with
    | refl => rfl
    | step _ hm =>
      obtain ⟨e, i, _, rfl⟩ := mem_offspring.1 hm
      exact absurd h.symm (List.cons_ne_nil _ _)
  | @step p v _ hp ih =>
    obtain ⟨e, i, he, rfl⟩ := mem_offspring.1 hp
    cases hw with
    | refl => exact absurd h (List.cons_ne_nil _ _)
    | @step q _ hq hm =>
      obtain ⟨f, j, hf, rfl⟩ := mem_offspring.1 hm
      -- equal addresses have equal tails, which are those of the parents
      obtain rfl := ih hq (List.cons.inj h).2
      exact offspring_injective hp hm h

/-- The name of a shorthand entry, which is visited as its key and again as its value. -/
def IsShared (v : Visit) : Prop := ∃ s ns name role, v.parent = some (.shorthand s ns name, role)

/-- Two visits of different nodes, or of the name that a shorthand entry shares. -/
def Separate (v w : Visit) : Prop := v.address ≠ w.address ∨ v.IsShared ∧ w.IsShared

theorem Separate.symm {v w : Visit} (h : v.Separate w) : w.Separate v :=
  h.imp Ne.symm And.symm

theorem offspring_bareName {v : Visit} {s : Span} {name : Value} (h : v.node = .bareName s name) :
    v.offspring = [] := by
  simp [offspring, h, Node.bareName, Node.links, Node.edges, Node.placed, Node.placedOption]

theorem address_ne_of_reaches {p v w : Visit} {e f : Role × Node} {i j : Nat} (hij : i ≠ j)
    (hv : (p.follow e i).Reaches v) (hw : (p.follow f j).Reaches w) : v.address ≠ w.address := by
  intro h
  have hs : j :: p.address <:+ v.address := h ▸ hw.suffix
  have hl : (i :: p.address).length = (j :: p.address).length := rfl
  have he := (List.suffix_of_suffix_length_le hv.suffix hs (Nat.le_of_eq hl)).eq_of_length hl
  exact hij (List.cons.inj he).1

theorem offspring_pairwise (u : Visit) :
    u.offspring.Pairwise fun c d => ∀ v w, c.Reaches v → d.Reaches w → v.Separate w := by
  rcases u.node.links_cases with ⟨s, ns, name, hn⟩ | hl
  -- both edges of a shorthand entry lead to its name, below which there is nothing
  · have hshared : ∀ c ∈ u.offspring, ∀ v, c.Reaches v → v.IsShared := by
      intro c hc v hv
      obtain ⟨e, i, he, rfl⟩ := mem_offspring.1 hc
      have hb : e.2 = .bareName ns name := by
        simp only [hn, Node.links, List.mem_cons, Prod.mk.injEq, List.not_mem_nil, or_false,
          or_self] at he
        rw [he.1]
      rw [reaches_iff, offspring_bareName hb] at hv
      obtain rfl : v = u.follow e i := by simpa using hv
      exact ⟨s, ns, name, e.1, by rw [follow, hn]⟩
    exact List.pairwise_of_forall_mem_list fun c hc d hd v w hv hw =>
      .inr ⟨hshared c hc v hv, hshared d hd w hw⟩
  -- anywhere else the index of a link tells it apart
  · rw [offspring, List.pairwise_map]
    apply (Node.indices_pairwise hl).imp
    intro a b hab v w hv hw
    exact .inl (address_ne_of_reaches hab hv hw)

/-- A symmetric relation holds between all visits below one that satisfies `P`, if `P` passes down,
and the relation holds between a visit and those below it and between those below different
children. -/
theorem pairwise_preorder {P : Visit → Prop} {R : Visit → Visit → Prop}
    (hsymm : ∀ {v w}, R v w → R w v) (hP : ∀ u, P u → ∀ c ∈ u.offspring, P c)
    (hbelow : ∀ u, P u → ∀ c ∈ u.offspring, ∀ v, c.Reaches v → R u v)
    (hbeside : ∀ u, P u → u.offspring.Pairwise fun c d => ∀ v w, c.Reaches v → d.Reaches w → R v w)
    (u : Visit) (hu : P u) : u.preorder.Pairwise R := by
  induction u using induction with
  | h u ih =>
    rw [preorder_eq, List.pairwise_cons, List.pairwise_flatMap]
    refine ⟨?_, ?_, ?_⟩
    · intro v hv
      obtain ⟨c, hc, hv⟩ := List.mem_flatMap.1 hv
      exact hbelow u hu c (mem_children.1 hc) v (mem_preorder.1 hv)
    · intro c hc
      have hc := mem_children.1 hc
      exact ih c hc (hP u hu c hc)
    · have hc : u.children.Pairwise fun c d => ∀ v w, c.Reaches v → d.Reaches w → R v w :=
        ((List.mergeSort_perm _ _).pairwise_iff fun h v w hv hw => hsymm (h w v hw hv)).2
          (hbeside u hu)
      exact hc.imp fun h v hv w hw => h v w (mem_preorder.1 hv) (mem_preorder.1 hw)

theorem preorder_pairwise (u : Visit) : u.preorder.Pairwise Separate := by
  apply pairwise_preorder Separate.symm (P := fun _ => True) (fun _ _ _ _ => trivial) _
    (fun u _ => offspring_pairwise u) u trivial
  intro u _ c hc v hv
  obtain ⟨e, i, _, rfl⟩ := mem_offspring.1 hc
  have hl := hv.suffix.length_le
  refine .inl fun h => ?_
  rw [← h] at hl
  exact absurd hl (by simp [follow])

end Visit

namespace Parents

theorem mem_enter {index : Parents} {v : Visit} {x : Address × Visit} :
    x ∈ index.enter v ↔ x ∈ index ∨ ∃ c ∈ v.offspring, x = (c.address, v) := by
  unfold enter
  generalize v.offspring = cs
  induction cs generalizing index with
  | nil => simp
  | cons c cs ih =>
    rw [List.foldl_cons, ih]
    simp only [List.mem_cons, exists_eq_or_imp]
    rw [or_comm (a := x = _), or_assoc]

theorem mem_scan {stack : List Visit} {index : Parents} {x : Address × Visit} :
    x ∈ scan stack index ↔
      x ∈ index ∨ ∃ u ∈ stack, ∃ p, u.Reaches p ∧ ∃ c ∈ p.offspring, x = (c.address, p) := by
  fun_induction scan stack index with
  | case1 index => simp
  | case2 index v rest ih =>
    rw [ih, mem_enter, or_assoc]
    apply or_congr_right
    -- `v` leaves the stack for its children, so what is below it is `v` itself or below these
    simp only [List.mem_append, List.mem_reverse, List.mem_cons, exists_eq_or_imp]
    constructor
    · rintro (⟨c, hc, rfl⟩ | ⟨u, hu | hu, p, hp, h⟩)
      · exact .inl ⟨v, .refl, c, hc, rfl⟩
      · exact .inl ⟨p, hp.head hu, h⟩
      · exact .inr ⟨u, hu, p, hp, h⟩
    · rintro (⟨p, hp, h⟩ | ⟨u, hu, p, hp, h⟩)
      · rcases Visit.reaches_iff.1 hp with rfl | ⟨c, hc, hp⟩
        · exact .inl h
        · exact .inr ⟨c, .inl hc, p, hp, h⟩
      · exact .inr ⟨u, .inr hu, p, hp, h⟩

end Parents

namespace Tree

variable {t : Tree} {v : Visit}

def Occurs (t : Tree) (v : Visit) : Prop := (Visit.root t.root).Reaches v

theorem Occurs.contains (h : t.Occurs v) : t.root.Contains v.node := Visit.Reaches.contains h

theorem Occurs.contains_parent {p : Node} {role : Role} (h : t.Occurs v)
    (hp : v.parent = some (p, role)) : t.root.Contains p ∧ (role, v.node) ∈ p.edges := by
  cases h with
  | refl => cases hp
  | step hq hv =>
    obtain ⟨e, i, hm, rfl⟩ := Visit.mem_offspring.1 hv
    cases hp
    exact ⟨Occurs.contains hq, Node.mem_edges_of_mem_links hm⟩

theorem walk_eq_preorder (t : Tree) : t.walk = (Visit.root t.root).preorder := by
  unfold walk
  rw [walkFrom_eq, List.flatMap_singleton]

theorem mem_walk : v ∈ t.walk ↔ t.Occurs v := by
  rw [walk_eq_preorder, Visit.mem_preorder]
  rfl

theorem walk_pairwise (t : Tree) : t.walk.Pairwise Visit.Separate := by
  rw [walk_eq_preorder]
  exact Visit.preorder_pairwise _

theorem mem_parents {x : Address × Visit} :
    x ∈ t.parents ↔ ∃ p, t.Occurs p ∧ ∃ c ∈ p.offspring, x = (c.address, p) := by
  rw [t.parents_eq, Parents.mem_scan]
  simp [Occurs]

theorem parentOf_root (t : Tree) : t.parentOf (.root t.root) = none := by
  unfold parentOf
  rw [List.lookup_eq_none_iff]
  intro x hx
  obtain ⟨p, _, c, hc, rfl⟩ := mem_parents.1 hx
  obtain ⟨e, i, _, rfl⟩ := Visit.mem_offspring.1 hc
  simp [Visit.root, Visit.follow]

theorem parentOf_offspring {p : Visit} (hp : t.Occurs p) (hv : v ∈ p.offspring) :
    t.parentOf v = some p := by
  have hm : (v.address, p) ∈ t.parents := mem_parents.2 ⟨p, hp, v, hv, rfl⟩
  have hs : (t.parentOf v).isSome := List.lookup_isSome_iff.2 ⟨_, hm, by simp⟩
  obtain ⟨q, hq⟩ := Option.isSome_iff_exists.1 hs
  obtain ⟨before, after, hsplit, _⟩ := List.lookup_eq_some_iff.1 hq
  have hmq : (v.address, q) ∈ t.parents := by rw [hsplit]; simp
  obtain ⟨q', hoq, c, hc, he⟩ := mem_parents.1 hmq
  obtain ⟨ha, rfl⟩ := Prod.mk.inj he
  -- an address fixes that of the parent, and thereby the parent
  obtain ⟨e, i, _, rfl⟩ := Visit.mem_offspring.1 hv
  obtain ⟨f, j, _, rfl⟩ := Visit.mem_offspring.1 hc
  rw [hq, Visit.Reaches.injective hp hoq (List.cons.inj ha).2]

theorem place_eq (h : t.Occurs v) : t.place v = v.parent := by
  unfold place
  cases h with
  | refl => rw [parentOf_root]; rfl
  | @step p _ hp hv =>
    rw [parentOf_offspring hp hv, Option.bind_some]
    have hs : (p.offspring.find? fun c => c.address = v.address).isSome :=
      List.find?_isSome.2 ⟨v, hv, by simp⟩
    obtain ⟨c, hc⟩ := Option.isSome_iff_exists.1 hs
    have ha : c.address = v.address := by simpa using List.find?_some hc
    rw [hc, Visit.offspring_injective (List.mem_of_find?_eq_some hc) hv ha, Option.bind_some]

end Tree

end ArityLint
