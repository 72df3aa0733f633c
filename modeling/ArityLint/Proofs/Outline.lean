import ArityLint.Proofs.Likeness

namespace ArityLint

theorem forall₂_zipIdx {α β : Type} {R : α → β → Prop} {xs : List α} {ys : List β}
    (h : List.Forall₂ R xs ys) (i : Nat) :
    List.Forall₂ (fun x y => x.2 = y.2 ∧ R x.1 y.1) (xs.zipIdx i) (ys.zipIdx i) := by
  induction h generalizing i with
  | nil => exact .nil
  | cons hxy _ ih =>
    rw [List.zipIdx_cons, List.zipIdx_cons]
    exact .cons ⟨rfl, hxy⟩ (ih (i + 1))

namespace Node

def name? : Node → Option Value
  | identifier _ name .. => some name
  | _ => none

/-- The nodes are of one type, and so are their children, place by place. -/
inductive SameOutline : Node → Node → Prop
  | other {s s' : Span} {kind : Value} {body body' : List Node} :
      List.Forall₂ SameOutline body body' → SameOutline (other s kind body) (other s' kind body')
  | identifier {s s' : Span} {name name' : Value} {t t' : Option Node} {optional optional' : Bool}
      {ds ds' : List Node} : Option.Rel SameOutline t t' → List.Forall₂ SameOutline ds ds' →
      SameOutline (identifier s name t optional ds) (identifier s' name' t' optional' ds')
  | literal {s s' : Span} {kind kind' : LiteralKind} {raw raw' value value' : Value} :
      SameOutline (literal s kind raw value) (literal s' kind' raw' value')
  | assignmentPattern {s s' : Span} {l l' r r' : Node} {ds ds' : List Node} : SameOutline l l' →
      SameOutline r r' → List.Forall₂ SameOutline ds ds' →
      SameOutline (assignmentPattern s l r ds) (assignmentPattern s' l' r' ds')
  | restElement {s s' : Span} {a a' : Node} {t t' : Option Node} {ds ds' : List Node} :
      SameOutline a a' → Option.Rel SameOutline t t' → List.Forall₂ SameOutline ds ds' →
      SameOutline (restElement s a t ds) (restElement s' a' t' ds')
  | objectPattern {s s' : Span} {ps ps' : List Node} {t t' : Option Node} {ds ds' : List Node} :
      List.Forall₂ SameOutline ps ps' → Option.Rel SameOutline t t' →
      List.Forall₂ SameOutline ds ds' →
      SameOutline (objectPattern s ps t ds) (objectPattern s' ps' t' ds')
  | arrayPattern {s s' : Span} {es es' : List Node} {t t' : Option Node} {ds ds' : List Node} :
      List.Forall₂ SameOutline es es' → Option.Rel SameOutline t t' →
      List.Forall₂ SameOutline ds ds' →
      SameOutline (arrayPattern s es t ds) (arrayPattern s' es' t' ds')
  | parameterProperty {s s' : Span} {p p' : Node} {accessibility accessibility' : Value}
      {readonly readonly' override override' : Bool} {ds ds' : List Node} : SameOutline p p' →
      List.Forall₂ SameOutline ds ds' →
      SameOutline (parameterProperty s p accessibility readonly override ds)
        (parameterProperty s' p' accessibility' readonly' override' ds')
  | function {s s' : Span} {kind : FunctionKind} {ps ps' : List Node}
      {i i' b b' r r' : Option Node} : List.Forall₂ SameOutline ps ps' →
      Option.Rel SameOutline i i' → Option.Rel SameOutline b b' → Option.Rel SameOutline r r' →
      SameOutline (function s kind ps i b r) (function s' kind ps' i' b' r')
  | call {s s' : Span} {c c' : Node} {args args' : List Node} : SameOutline c c' →
      List.Forall₂ SameOutline args args' → SameOutline (call s c args) (call s' c' args')
  | member {s s' : Span} {o o' p p' : Node} {computed : Bool} : SameOutline o o' →
      SameOutline p p' → p.name? = p'.name? →
      SameOutline (member s o p computed) (member s' o' p' computed)
  | property {s s' : Span} {k k' v v' : Node} {method shorthand shorthand' : Bool}
      {kind kind' : Value} : SameOutline k k' → SameOutline v v' →
      SameOutline (property s k v method shorthand kind) (property s' k' v' method shorthand' kind')
  | shorthand {s s' ns ns' : Span} {name name' : Value} :
      SameOutline (shorthand s ns name) (shorthand s' ns' name')
  | methodDefinition {s s' : Span} {k k' v v' : Node} {kind kind' : Value} {static static' : Bool} :
      SameOutline k k' → SameOutline v v' →
      SameOutline (methodDefinition s k v kind static) (methodDefinition s' k' v' kind' static')
  | assignment {s s' : Span} {l l' r r' : Node} {operator operator' : Value} : SameOutline l l' →
      SameOutline r r' → SameOutline (assignment s l r operator) (assignment s' l' r' operator')
  | declarator {s s' : Span} {i i' : Node} {v v' : Option Node} : SameOutline i i' →
      Option.Rel SameOutline v v' → SameOutline (declarator s i v) (declarator s' i' v')

variable {n n' : Node}

namespace SameOutline

theorem type (h : n.SameOutline n') : n.type = n'.type := by
  cases h <;> rfl

theorem params? (h : n.SameOutline n') :
    n.params?.map List.length = n'.params?.map List.length := by
  cases h with
  | function hps => exact congrArg some hps.length_eq
  | _ => rfl

theorem length_params (h : n.SameOutline n') :
    (n.params?.getD []).length = (n'.params?.getD []).length := by
  cases h with
  | function hps => exact hps.length_eq
  | _ => rfl

theorem isFunction (h : n.SameOutline n') : n.isFunction = n'.isFunction := by
  cases h <;> rfl

/-- The edges lead from one place to nodes of one outline. -/
def Edge (e e' : Role × Node) : Prop := e.1 = e'.1 ∧ e.2.SameOutline e'.2

theorem edges_placed {role : Role} {ns ns' : List Node} (h : List.Forall₂ SameOutline ns ns') :
    List.Forall₂ Edge (placed role ns) (placed role ns') := by
  rw [placed, placed, List.forall₂_map_left_iff, List.forall₂_map_right_iff]
  exact h.imp fun _ _ hn => ⟨rfl, hn⟩

theorem edges_placedOption {role : Role} {t t' : Option Node} (h : Option.Rel SameOutline t t') :
    List.Forall₂ Edge (placedOption role t) (placedOption role t') := by
  cases h with
  | none => exact .nil
  | some hn => exact .cons ⟨rfl, hn⟩ .nil

theorem edges (h : n.SameOutline n') : List.Forall₂ Edge n.edges n'.edges := by
  have hcons : ∀ {role n n'} {es es' : List (Role × Node)}, n.SameOutline n' →
      List.Forall₂ Edge es es' → List.Forall₂ Edge ((role, n) :: es) ((role, n') :: es') :=
    fun hn hes => .cons ⟨rfl, hn⟩ hes
  cases h with
  | other hbody => exact edges_placed hbody
  | identifier ht hds => exact List.rel_append (edges_placedOption ht) (edges_placed hds)
  | literal => exact .nil
  | assignmentPattern hl hr hds => exact hcons hl (hcons hr (edges_placed hds))
  | restElement ha ht hds =>
    exact hcons ha (List.rel_append (edges_placedOption ht) (edges_placed hds))
  | objectPattern hps ht hds | arrayPattern hps ht hds =>
    exact List.rel_append (edges_placed hps)
      (List.rel_append (edges_placedOption ht) (edges_placed hds))
  | parameterProperty hp hds => exact hcons hp (edges_placed hds)
  | function hps hi hb hr =>
    exact List.rel_append (edges_placed hps) (List.rel_append (edges_placedOption hi)
      (List.rel_append (edges_placedOption hb) (edges_placedOption hr)))
  | call hc hargs => exact hcons hc (edges_placed hargs)
  | member h₁ h₂ _ | property h₁ h₂ | methodDefinition h₁ h₂ | assignment h₁ h₂ =>
    exact hcons h₁ (hcons h₂ .nil)
  | shorthand => exact hcons (.identifier .none .nil) (hcons (.identifier .none .nil) .nil)
  | declarator hi hv => exact hcons hi (edges_placedOption hv)

theorem links (h : n.SameOutline n') :
    List.Forall₂ (fun l l' => l.2 = l'.2 ∧ Edge l.1 l'.1) n.links n'.links := by
  have hindexed : List.Forall₂ (fun l l' => l.2 = l'.2 ∧ Edge l.1 l'.1) n.edges.zipIdx
      n'.edges.zipIdx :=
    forall₂_zipIdx h.edges 0
  cases h with
  | shorthand =>
    have hname : ∀ {s s' name name'}, Edge (.key, bareName s name) (.key, bareName s' name') :=
      ⟨rfl, .identifier .none .nil⟩
    exact .cons ⟨rfl, hname⟩ (.cons ⟨rfl, hname⟩ .nil)
  | _ => exact hindexed

end SameOutline

end Node

namespace Place

/-- The places are one place in nodes of one outline. -/
def SameOutline (place place' : Place) : Prop :=
  Option.Rel (fun p p' => p.1.SameOutline p'.1 ∧ p.2 = p'.2) place place'

variable {place place' : Place}

theorem SameOutline.sameView (h : place.SameOutline place') : place.SameView place' := by
  cases h with
  | none => exact ⟨rfl, rfl, rfl, rfl⟩
  | @some p p' hp =>
    obtain ⟨n, role⟩ := p
    obtain ⟨n', role'⟩ := p'
    obtain ⟨hn, rfl⟩ : n.SameOutline n' ∧ role = role' := hp
    rcases sameView_of_role role with hrole | hblind
    swap
    · exact hblind n n'
    cases hn with
    -- a declared type, a called member or a member that is assigned to is one more step down
    | declarator hid =>
      cases hid with
      | identifier ht =>
        cases ht <;> rcases hrole with rfl | rfl | rfl | rfl <;> exact ⟨rfl, rfl, rfl, rfl⟩
      | _ => exact ⟨rfl, rfl, rfl, rfl⟩
    | assignment hl =>
      cases hl <;> rcases hrole with rfl | rfl | rfl | rfl <;> exact ⟨rfl, rfl, rfl, rfl⟩
    | call hc =>
      cases hc with
      | @member _ _ _ _ _ _ computed _ hp hname =>
        cases hp with
        | identifier =>
          cases hname
          cases computed <;> rcases hrole with rfl | rfl | rfl | rfl <;>
            exact ⟨rfl, rfl, rfl, rfl⟩
        | _ => rcases hrole with rfl | rfl | rfl | rfl <;> exact ⟨rfl, rfl, rfl, rfl⟩
      | _ => rcases hrole with rfl | rfl | rfl | rfl <;> exact ⟨rfl, rfl, rfl, rfl⟩
    | _ => rcases hrole with rfl | rfl | rfl | rfl <;> exact ⟨rfl, rfl, rfl, rfl⟩

end Place

/-- The visits are of nodes of one outline, at one address. -/
structure Visit.SameOutline (v v' : Visit) : Prop where
  node : v.node.SameOutline v'.node
  parent : Place.SameOutline v.parent v'.parent
  address : v.address = v'.address

theorem Visit.SameOutline.forall₂_offspring {v v' : Visit} (h : v.SameOutline v') :
    List.Forall₂ Visit.SameOutline v.offspring v'.offspring := by
  rw [offspring, offspring, List.forall₂_map_left_iff, List.forall₂_map_right_iff]
  apply h.node.links.imp
  rintro ⟨e, i⟩ ⟨e', i'⟩ ⟨rfl, hrole, hchild⟩
  exact ⟨hchild, .some ⟨h.node, hrole⟩, congrArg (i :: ·) h.address⟩

namespace Tree

variable {t t' : Tree}

theorem rel_walk_of_sameOutline (h : t.root.SameOutline t'.root) :
    Multiset.Rel Visit.SameOutline (t.walk : Multiset Visit) (t'.walk : Multiset Visit) := by
  rw [walk_eq_preorder, walk_eq_preorder]
  exact Visit.rel_preorder (fun _ _ hu => rel_of_forall₂ hu.forall₂_offspring) ⟨h, .none, rfl⟩

/-- The functions of the trees are at the same addresses, and each is left out for the same reason
in both of them, or in none. -/
structure SameExclusions (t t' : Tree) : Prop where
  addresses : (t.functions.map (·.address)).Perm (t'.functions.map (·.address))
  reason : ∀ v ∈ t.functions, ∀ v' ∈ t'.functions, v.address = v'.address →
    exclusion? v.node (t.place v) = exclusion? v'.node (t'.place v')

theorem sameExclusions (h : t.root.SameOutline t'.root) : t.SameExclusions t' := by
  have hrel := rel_walk_of_sameOutline h
  constructor
  · obtain ⟨vs, hvs, hperm⟩ := exists_forall₂_of_rel hrel
    have hfunctions : List.Forall₂ Visit.SameOutline t.functions
        (vs.filter fun v => v.node.isFunction) :=
      List.rel_filter (fun _ _ hv => iff_of_eq (congrArg (· = true) hv.node.isFunction)) hvs
    have haddresses : t.functions.map (·.address) =
        (vs.filter fun v => v.node.isFunction).map (·.address) := by
      rw [← List.forall₂_eq_eq_eq, List.forall₂_map_left_iff, List.forall₂_map_right_iff]
      exact hfunctions.imp fun _ _ hv => hv.address
    rw [haddresses]
    exact (hperm.filter _).map _
  · intro v hv v' hv' haddress
    have hv := (List.mem_filter.1 hv).1
    obtain ⟨w, hw, hvw⟩ := Multiset.exists_mem_of_rel_of_mem hrel (Multiset.mem_coe.2 hv)
    have hv := mem_walk.1 hv
    have hw := mem_walk.1 (Multiset.mem_coe.1 hw)
    have hv' := mem_walk.1 (List.mem_filter.1 hv').1
    -- an address leads to one visit
    obtain rfl := Visit.Reaches.injective hw hv' (hvw.address.symm.trans haddress)
    rw [place_eq hv, place_eq hv']
    exact exclusion?_of_sameView hvw.node.params? hvw.parent.sameView

theorem findsAlike_of_sameOutline {v v' : Visit} (h : v.SameOutline v') (ht : t.root.HasTexts)
    (ht' : t'.root.HasTexts) (hv : t.Occurs v) (hv' : t'.Occurs v') :
    FindsAlike (fun f f' => f.data = f'.data) t t' v v' := by
  have hplace : exclusion? v.node (t.place v) = exclusion? v'.node (t'.place v') := by
    rw [place_eq hv, place_eq hv']
    exact exclusion?_of_sameView h.node.params? h.parent.sameView
  have hedit : ∀ {t : Tree} {v : Visit}, t.root.HasTexts → t.Occurs v →
      ∃ edit, editOf (v.node.params?.getD []) t.source = .ok edit := by
    intro t v ht hv
    refine editOf_ok t.source fun n hn => ?_
    cases hp : v.node.params? with
    | none =>
      rw [hp] at hn
      cases hn
    | some params =>
      rw [hp] at hn
      exact ht.of_contains (hv.contains.child (Node.mem_edges_of_mem_params hp hn))
  refine ⟨by rw [bearsFunctionName, bearsFunctionName, h.node.type], ?_⟩
  unfold findingAt
  rw [hplace]
  cases exclusion? v'.node (t'.place v') with
  | error f => exact .error
  | ok reason =>
    cases reason with
    | some reason => exact .ok .none
    | none =>
      obtain ⟨edit, he⟩ := hedit ht hv
      obtain ⟨edit', he'⟩ := hedit ht' hv'
      change Except.Agree _ (editOf _ _ >>= _) (editOf _ _ >>= _)
      rw [he, he', h.node.length_params]
      exact .ok (.some rfl)

theorem check_of_sameOutline (h : t.root.SameOutline t'.root) (ht : t.root.HasTexts)
    (ht' : t'.root.HasTexts) : ∃ r r', t.check.Yields r ∧ t'.check.Yields r' ∧ Except.Agree
      (fun fs fs' => (fs.map (·.data)).Perm (fs'.map (·.data))) r r' := by
  have hfinds := (rel_walk_of_sameOutline h).mono fun v hv v' hv' hsame =>
    findsAlike_of_sameOutline hsame ht ht' (mem_walk.1 (Multiset.mem_coe.1 hv))
      (mem_walk.1 (Multiset.mem_coe.1 hv'))
  obtain ⟨r, r', hr, hr', hagree⟩ := rel_check hfinds
  refine ⟨r, r', hr, hr', hagree.imp fun fs fs' hrel => ?_⟩
  rw [← Multiset.coe_eq_coe, ← Multiset.map_coe, ← Multiset.map_coe, ← Multiset.rel_eq,
    Multiset.rel_map]
  exact hrel

end Tree

end ArityLint
