import ArityLint.Proofs.Reordering
import ArityLint.Proofs.Reports
import Mathlib.Data.Multiset.Bind

namespace ArityLint

section Matching

variable {α β : Type} {R : α → β → Prop} {xs : List α} {ys : List β}

theorem forall₂_mem (h : List.Forall₂ R xs ys) :
    List.Forall₂ (fun x y => x ∈ xs ∧ y ∈ ys ∧ R x y) xs ys :=
  List.forall₂_iff_zip.2 ⟨h.length_eq, fun hxy =>
    ⟨(List.of_mem_zip hxy).1, (List.of_mem_zip hxy).2, List.forall₂_zip h hxy⟩⟩

theorem isEmpty_of_forall₂ (h : List.Forall₂ R xs ys) : xs.isEmpty = ys.isEmpty := by
  cases h <;> rfl

theorem filterMap_eq_of_forall₂ {γ : Type} {f : α → Option γ} {g : β → Option γ}
    (h : List.Forall₂ (fun x y => f x = g y) xs ys) : xs.filterMap f = ys.filterMap g := by
  induction h with
  | nil => rfl
  | cons hxy _ ih => rw [List.filterMap_cons, List.filterMap_cons, hxy, ih]

theorem rel_of_forall₂ (h : List.Forall₂ R xs ys) :
    Multiset.Rel R (xs : Multiset α) (ys : Multiset β) := by
  induction h with
  | nil => exact .zero
  | cons hab _ ih => exact .cons hab ih

/-- Of items that are related in some order, those of the second list can be put in that order. -/
theorem exists_forall₂_of_rel (h : Multiset.Rel R (xs : Multiset α) (ys : Multiset β)) :
    ∃ zs : List β, List.Forall₂ R xs zs ∧ zs.Perm ys := by
  generalize hm : (ys : Multiset β) = m at h
  suffices ∃ zs : List β, List.Forall₂ R xs zs ∧ (zs : Multiset β) = m by
    obtain ⟨zs, hzs, rfl⟩ := this
    exact ⟨zs, hzs, Multiset.coe_eq_coe.1 hm.symm⟩
  clear hm
  induction xs generalizing m with
  | nil =>
    obtain rfl := Multiset.rel_zero_left.1 h
    exact ⟨[], .nil, rfl⟩
  | cons x xs ih =>
    rw [← Multiset.cons_coe] at h
    obtain ⟨b, bs, hb, hbs, rfl⟩ := Multiset.rel_cons_left.1 h
    obtain ⟨zs, hzs, rfl⟩ := ih bs hbs
    exact ⟨b :: zs, .cons hb hzs, rfl⟩

variable {key : α → Int} {key' : β → Int} (hkey : ∀ a b, R a b → key a = key' b)
include hkey

theorem forall₂_sortBy (h : List.Forall₂ R xs ys) :
    List.Forall₂ R (xs.mergeSort fun a b => key a ≤ key b)
      (ys.mergeSort fun a b => key' a ≤ key' b) := by
  have hpairs : ∀ p ∈ xs.zip ys, R p.1 p.2 := fun p hp => List.forall₂_zip h hp
  have hxs := List.map_mergeSort (f := Prod.fst) (r := fun p q : α × β => key p.1 ≤ key q.1)
    (s := fun a b => key a ≤ key b) (l := xs.zip ys) fun p _ q _ => rfl
  have hys := List.map_mergeSort (f := Prod.snd) (r := fun p q : α × β => key p.1 ≤ key q.1)
    (s := fun a b => key' a ≤ key' b) (l := xs.zip ys) fun p hp q hq => by
      rw [hkey _ _ (hpairs p hp), hkey _ _ (hpairs q hq)]
  rw [List.map_fst_zip (Nat.le_of_eq h.length_eq)] at hxs
  rw [List.map_snd_zip (Nat.le_of_eq h.length_eq.symm)] at hys
  rw [← hxs, ← hys, List.forall₂_map_left_iff, List.forall₂_map_right_iff, List.forall₂_same]
  exact fun p hp => hpairs p ((List.mergeSort_perm _ _).mem_iff.1 hp)

theorem forall₂_of_rel (hxs : xs.Pairwise fun a b => key a ≤ key b)
    (hys : ys.Pairwise fun a b => key' a ≤ key' b) (hnodup : (xs.map key).Nodup)
    (h : Multiset.Rel R (xs : Multiset α) (ys : Multiset β)) : List.Forall₂ R xs ys := by
  obtain ⟨zs, hzs, hperm⟩ := exists_forall₂_of_rel h
  have hkeys : xs.map key = zs.map key' := by
    clear hxs hnodup hperm h
    induction hzs with
    | nil => rfl
    | cons hab _ ih => rw [List.map_cons, List.map_cons, hkey _ _ hab, ih]
  have hzs' : zs.Pairwise fun a b => key' a ≤ key' b := by
    rw [← List.pairwise_map (f := key') (R := (· ≤ ·)), ← hkeys, List.pairwise_map]
    exact hxs
  have heq : zs = ys := by
    refine hperm.eq_of_pairwise (fun a b ha hb hab hba => ?_) hzs' hys
    rw [hkeys] at hnodup
    exact List.inj_on_of_nodup_map hnodup ha (hperm.mem_iff.2 hb) (le_antisymm hab hba)
  exact heq ▸ hzs

end Matching

namespace Node

/-- The nodes are the same but for the order of fields in their values, and of children that stand
in no known place. These are sorted by where they start. -/
inductive Alike : Node → Node → Prop
  | other {s : Span} {kind : Value} {body body' : List Node} :
      body.Pairwise (fun m n => m.start ≤ n.start) → body'.Pairwise (fun m n => m.start ≤ n.start) →
      Multiset.Rel Alike (body : Multiset Node) (body' : Multiset Node) →
      Alike (other s kind body) (other s kind body')
  | identifier {s : Span} {name name' : Value} {t t' : Option Node} {optional : Bool}
      {ds ds' : List Node} : name.Reordered name' → Option.Rel Alike t t' →
      List.Forall₂ Alike ds ds' →
      Alike (identifier s name t optional ds) (identifier s name' t' optional ds')
  | literal {s : Span} {kind : LiteralKind} {raw raw' value value' : Value} :
      raw.Reordered raw' → value.Reordered value' →
      Alike (literal s kind raw value) (literal s kind raw' value')
  | assignmentPattern {s : Span} {l l' r r' : Node} {ds ds' : List Node} : Alike l l' →
      Alike r r' → List.Forall₂ Alike ds ds' →
      Alike (assignmentPattern s l r ds) (assignmentPattern s l' r' ds')
  | restElement {s : Span} {a a' : Node} {t t' : Option Node} {ds ds' : List Node} : Alike a a' →
      Option.Rel Alike t t' → List.Forall₂ Alike ds ds' →
      Alike (restElement s a t ds) (restElement s a' t' ds')
  | objectPattern {s : Span} {ps ps' : List Node} {t t' : Option Node} {ds ds' : List Node} :
      List.Forall₂ Alike ps ps' → Option.Rel Alike t t' → List.Forall₂ Alike ds ds' →
      Alike (objectPattern s ps t ds) (objectPattern s ps' t' ds')
  | arrayPattern {s : Span} {es es' : List Node} {t t' : Option Node} {ds ds' : List Node} :
      List.Forall₂ Alike es es' → Option.Rel Alike t t' → List.Forall₂ Alike ds ds' →
      Alike (arrayPattern s es t ds) (arrayPattern s es' t' ds')
  | parameterProperty {s : Span} {p p' : Node} {accessibility accessibility' : Value}
      {readonly override : Bool} {ds ds' : List Node} : Alike p p' →
      accessibility.Reordered accessibility' → List.Forall₂ Alike ds ds' →
      Alike (parameterProperty s p accessibility readonly override ds)
        (parameterProperty s p' accessibility' readonly override ds')
  | function {s : Span} {kind : FunctionKind} {ps ps' : List Node} {i i' b b' r r' : Option Node} :
      List.Forall₂ Alike ps ps' → Option.Rel Alike i i' → Option.Rel Alike b b' →
      Option.Rel Alike r r' → Alike (function s kind ps i b r) (function s kind ps' i' b' r')
  | call {s : Span} {c c' : Node} {args args' : List Node} : Alike c c' →
      List.Forall₂ Alike args args' → Alike (call s c args) (call s c' args')
  | member {s : Span} {o o' p p' : Node} {computed : Bool} : Alike o o' → Alike p p' →
      Alike (member s o p computed) (member s o' p' computed)
  | property {s : Span} {k k' v v' : Node} {method shorthand : Bool} {kind kind' : Value} :
      Alike k k' → Alike v v' → kind.Reordered kind' →
      Alike (property s k v method shorthand kind) (property s k' v' method shorthand kind')
  | methodDefinition {s : Span} {k k' v v' : Node} {kind kind' : Value} {static : Bool} :
      Alike k k' → Alike v v' → kind.Reordered kind' →
      Alike (methodDefinition s k v kind static) (methodDefinition s k' v' kind' static)
  | assignment {s : Span} {l l' r r' : Node} {operator operator' : Value} : Alike l l' →
      Alike r r' → operator.Reordered operator' →
      Alike (assignment s l r operator) (assignment s l' r' operator')
  | declarator {s : Span} {i i' : Node} {v v' : Option Node} : Alike i i' → Option.Rel Alike v v' →
      Alike (declarator s i v) (declarator s i' v')

/-- The children of a node of unknown type start at different places. -/
def HasDistinctStarts : Node → Prop
  | other _ _ body => (body.map (·.start)).Nodup
  | _ => True

variable {n n' : Node} {src : SourceText}

namespace Alike

theorem span (h : n.Alike n') : n.span = n'.span := by
  cases h <;> rfl

theorem type (h : n.Alike n') : n.type = n'.type := by
  cases h <;> rfl

theorem text (h : n.Alike n') : n.text src = n'.text src := by
  rw [Node.text, Node.text, Node.start, Node.stop, Node.start, Node.stop, h.span]

theorem params? (h : n.Alike n') : Option.Rel (List.Forall₂ Alike) n.params? n'.params? := by
  cases h with
  | function hps => exact .some hps
  | _ => exact .none

theorem params (h : n.Alike n') :
    List.Forall₂ Alike (n.params?.getD []) (n'.params?.getD []) := by
  cases h with
  | function hps => exact hps
  | _ => exact .nil

theorem decorators (h : n.Alike n') : n.decorators.isEmpty = n'.decorators.isEmpty := by
  cases h with
  | identifier _ _ hds | assignmentPattern _ _ hds | restElement _ _ hds | objectPattern _ _ hds
  | arrayPattern _ _ hds | parameterProperty _ _ hds => exact isEmpty_of_forall₂ hds
  | _ => rfl

theorem literalKind? (h : n.Alike n') : n.literalKind? = n'.literalKind? := by
  cases h <;> rfl

end Alike

theorem text_of_rel {t t' : Option Node} (h : Option.Rel Alike t t') (src : SourceText) :
    t.map (·.text src) = t'.map (·.text src) := by
  cases h with
  | none => rfl
  | some h => exact congrArg some h.text

theorem joinTexts_eq_error (separator : String) {v : Value} (hv : ¬v.IsText) (vs : List Value) :
    joinTexts separator (v :: vs) = .error (.notText 0 v.typeName) := by
  unfold joinTexts
  rw [List.zipIdx_cons, List.mapM_cons]
  cases v with
  | str s => exact absurd ⟨s, rfl⟩ hv
  | _ => rfl

theorem modifierText_congr {accessibility accessibility' : Value}
    (h : accessibility.Reordered accessibility') (override readonly : Bool) :
    modifierText accessibility override readonly = modifierText accessibility' override readonly := by
  by_cases htext : accessibility.IsText
  · obtain ⟨s, rfl⟩ := htext
    rw [h.eq_of_str]
  · have htext' : ¬accessibility'.IsText := by
      rintro ⟨s, rfl⟩
      cases h
      exact htext ⟨s, rfl⟩
    unfold modifierText
    rw [← h.truthy]
    split
    · rw [List.cons_append, List.cons_append, List.cons_append, List.cons_append,
        joinTexts_eq_error _ htext, joinTexts_eq_error _ htext', h.typeName]
    · rfl

theorem name_eq {s : Span} {name name' : Value} {t : Option Node} {optional : Bool}
    {ds : List Node} (h : name.Reordered name')
    (hn : (identifier s name t optional ds).All HasTextName) : name' = name := by
  obtain ⟨text, rfl⟩ : name.IsText := hn _ (.self _)
  exact h.eq_of_str

theorem withDefault_congr {t t' : Option Node} {right right' : Node} (ht : Option.Rel Alike t t')
    (hright : right.Alike right') (span : Span) (name : Value) :
    withDefault span name t right src = withDefault span name t' right' src := by
  unfold withDefault
  rw [text_of_rel ht src, hright.text, hright.literalKind?]

theorem classify_congr (h : n.Alike n') (hn : n.All HasTextName) :
    n.classify src = n'.classify src := by
  have htext : n.text src = n'.text src := h.text
  have hspan := h.span
  -- names are texts, so alike names are the same
  unfold classify
  rw [h.decorators]
  split
  · rw [hspan, htext]
  · cases h with
    | identifier hname ht _ =>
      rw [name_eq hname hn]
      exact congrArg (fun t => Except.ok (Parameter.simple _ _ t _)) (text_of_rel ht src)
    | @assignmentPattern s l _ r _ _ _ hl hr _ =>
      have hnames : l.All HasTextName := (all_iff.1 hn).2.1
      cases hl with
      | identifier hname ht _ =>
        rw [name_eq hname hnames]
        exact congrArg Except.ok (withDefault_congr ht hr _ _)
      | objectPattern | arrayPattern =>
        exact congrArg (fun text => Except.ok (Parameter.destructured s text)) htext
      | _ => exact congrArg (fun text => Except.ok (Parameter.unrecognized s text)) htext
    | restElement => exact congrArg (fun text => Except.ok (Parameter.rest _ text)) htext
    | objectPattern | arrayPattern =>
      exact congrArg (fun text => Except.ok (Parameter.destructured _ text)) htext
    | @parameterProperty s p _ _ _ _ _ _ _ hp ha _ =>
      have hnames : p.All HasTextName := (all_iff.1 hn).2.1
      cases hp with
      | identifier hname ht _ =>
        rw [name_eq hname hnames]
        dsimp only
        rw [text_of_rel ht src, modifierText_congr ha]
      | @assignmentPattern _ l _ _ _ _ _ hl hr _ =>
        have hnames : l.All HasTextName := (all_iff.1 hnames).2.1
        cases hl with
        | identifier hname ht _ =>
          rw [name_eq hname hnames]
          exact congrArg Except.ok (withDefault_congr ht hr _ _)
        | _ => exact congrArg (fun text => Except.ok (Parameter.unrecognized _ text)) htext
      | _ => exact congrArg (fun text => Except.ok (Parameter.unrecognized _ text)) htext
    | _ => exact congrArg (fun text => Except.ok (Parameter.unrecognized _ text)) htext

/-- The edges lead from the same place to nodes that are alike. -/
def EdgeAlike (e e' : Role × Node) : Prop := e.1 = e'.1 ∧ e.2.Alike e'.2

theorem edges_placed {role : Role} {ns ns' : List Node} (h : List.Forall₂ Alike ns ns') :
    List.Forall₂ EdgeAlike (placed role ns) (placed role ns') := by
  rw [placed, placed, List.forall₂_map_left_iff, List.forall₂_map_right_iff]
  exact h.imp fun _ _ hn => ⟨rfl, hn⟩

theorem edges_placedOption {role : Role} {t t' : Option Node} (h : Option.Rel Alike t t') :
    List.Forall₂ EdgeAlike (placedOption role t) (placedOption role t') := by
  cases h with
  | none => exact .nil
  | some hn => exact .cons ⟨rfl, hn⟩ .nil

/-- The edges of nodes that are alike match, or they lead to children of which the place is not
known, sorted by their starts. -/
theorem Alike.edges (h : n.Alike n') : List.Forall₂ EdgeAlike n.edges n'.edges ∨
    ∃ s kind body body', n = .other s kind body ∧ n' = .other s kind body' ∧
      body.Pairwise (fun m n => m.start ≤ n.start) ∧
      body'.Pairwise (fun m n => m.start ≤ n.start) ∧
      Multiset.Rel Alike (body : Multiset Node) (body' : Multiset Node) := by
  have hcons : ∀ {role n n'} {es es' : List (Role × Node)}, n.Alike n' →
      List.Forall₂ EdgeAlike es es' → List.Forall₂ EdgeAlike ((role, n) :: es) ((role, n') :: es') :=
    fun hn hes => .cons ⟨rfl, hn⟩ hes
  cases h with
  | other hbody hbody' hrel => exact .inr ⟨_, _, _, _, rfl, rfl, hbody, hbody', hrel⟩
  | identifier _ ht hds => exact .inl (List.rel_append (edges_placedOption ht) (edges_placed hds))
  | literal => exact .inl .nil
  | assignmentPattern hl hr hds => exact .inl (hcons hl (hcons hr (edges_placed hds)))
  | restElement ha ht hds =>
    exact .inl (hcons ha (List.rel_append (edges_placedOption ht) (edges_placed hds)))
  | objectPattern hps ht hds | arrayPattern hps ht hds =>
    exact .inl (List.rel_append (edges_placed hps)
      (List.rel_append (edges_placedOption ht) (edges_placed hds)))
  | parameterProperty hp _ hds => exact .inl (hcons hp (edges_placed hds))
  | function hps hi hb hr =>
    exact .inl (List.rel_append (edges_placed hps) (List.rel_append (edges_placedOption hi)
      (List.rel_append (edges_placedOption hb) (edges_placedOption hr))))
  | call hc hargs => exact .inl (hcons hc (edges_placed hargs))
  | member h₁ h₂ | property h₁ h₂ | methodDefinition h₁ h₂ | assignment h₁ h₂ =>
    exact .inl (hcons h₁ (hcons h₂ .nil))
  | declarator hi hv => exact .inl (hcons hi (edges_placedOption hv))

theorem Alike.rel_edges (h : n.Alike n') :
    Multiset.Rel EdgeAlike (n.edges : Multiset (Role × Node)) (n'.edges : Multiset (Role × Node)) := by
  rcases h.edges with h | ⟨s, kind, body, body', rfl, rfl, -, -, hrel⟩
  · exact rel_of_forall₂ h
  · simp only [Node.edges, placed, ← Multiset.map_coe, Multiset.rel_map]
    exact hrel.mono fun _ _ _ _ hn => ⟨rfl, hn⟩

theorem Alike.forall₂_edges (h : n.Alike n') (hn : n.HasDistinctStarts) :
    List.Forall₂ EdgeAlike n.edges n'.edges := by
  rcases h.edges with h | ⟨s, kind, body, body', rfl, rfl, hbody, hbody', hrel⟩
  · exact h
  · exact edges_placed (forall₂_of_rel (fun m m' hm => congrArg Span.start hm.span) hbody hbody' hn
      hrel)

end Node

section Places

variable {place place' : Place}

/-- The places are the same one of nodes that are alike. -/
def Place.Alike (place place' : Place) : Prop :=
  Option.Rel (fun p p' => p.1.Alike p'.1 ∧ p.2 = p'.2) place place'

structure Place.SameView (place place' : Place) : Prop where
  isTypedInit : place.isTypedInit = place'.isTypedInit
  isCallArgument : place.isCallArgument = place'.isCallArgument
  isPropertyValue : place.isPropertyValue = place'.isPropertyValue
  calledMethod? : place.calledMethod? = place'.calledMethod?

/-- In four roles the rule looks at the parent; in any other a node is seen alike below all parents.
-/
theorem Place.sameView_of_role (role : Role) :
    (role = .init ∨ role = .callArgument ∨ role = .value ∨ role = .right) ∨
      ∀ n n', SameView (some (n, role)) (some (n', role)) := by
  rw [Classical.or_iff_not_imp_left]
  intro h
  have hblind : ∀ n, isTypedInit (some (n, role)) = false ∧ isCallArgument (some (n, role)) = false ∧
      isPropertyValue (some (n, role)) = false ∧ calledMethod? (some (n, role)) = none := by
    intro n
    unfold isTypedInit isCallArgument isPropertyValue calledMethod?
    refine ⟨?_, ?_, ?_, ?_⟩ <;> split
    all_goals
      first
      | rfl
      | next heq =>
        cases heq
        exact absurd h (by decide)
  intro n n'
  obtain ⟨hi, hc, hp, hm⟩ := hblind n
  obtain ⟨hi', hc', hp', hm'⟩ := hblind n'
  exact ⟨hi.trans hi'.symm, hc.trans hc'.symm, hp.trans hp'.symm, hm.trans hm'.symm⟩

theorem Place.Alike.sameView (h : place.Alike place')
    (hname : ∀ name, place.calledMethod? = some name → name.IsText) : place.SameView place' := by
  cases h with
  | none => exact ⟨rfl, rfl, rfl, rfl⟩
  | @some p p' hp =>
    obtain ⟨n, role⟩ := p
    obtain ⟨n', role'⟩ := p'
    obtain ⟨hn, rfl⟩ : n.Alike n' ∧ role = role' := hp
    rcases sameView_of_role role with hrole | hblind
    swap
    · exact hblind n n'
    cases hn with
    -- a declared type, a called member or a member that is assigned to is one more step down
    | declarator hid =>
      cases hid with
      | identifier _ ht =>
        cases ht <;> rcases hrole with rfl | rfl | rfl | rfl <;> exact ⟨rfl, rfl, rfl, rfl⟩
      | _ => exact ⟨rfl, rfl, rfl, rfl⟩
    | assignment hl =>
      cases hl <;> rcases hrole with rfl | rfl | rfl | rfl <;> exact ⟨rfl, rfl, rfl, rfl⟩
    | call hc =>
      cases hc with
      | @member _ _ _ _ _ computed _ hp =>
        cases hp with
        | identifier hn =>
          cases computed with
          | true => rcases hrole with rfl | rfl | rfl | rfl <;> exact ⟨rfl, rfl, rfl, rfl⟩
          | false =>
            rcases hrole with rfl | rfl | rfl | rfl
            · exact ⟨rfl, rfl, rfl, rfl⟩
            -- a method that is called by a text is called by the same text
            · obtain ⟨text, rfl⟩ := hname _ rfl
              rw [hn.eq_of_str]
              exact ⟨rfl, rfl, rfl, rfl⟩
            · exact ⟨rfl, rfl, rfl, rfl⟩
            · exact ⟨rfl, rfl, rfl, rfl⟩
        | _ => rcases hrole with rfl | rfl | rfl | rfl <;> exact ⟨rfl, rfl, rfl, rfl⟩
      | _ => rcases hrole with rfl | rfl | rfl | rfl <;> exact ⟨rfl, rfl, rfl, rfl⟩
    | _ => rcases hrole with rfl | rfl | rfl | rfl <;> exact ⟨rfl, rfl, rfl, rfl⟩

theorem exclusion?_of_sameView {n n' : Node}
    (hn : n.params?.map List.length = n'.params?.map List.length) (h : place.SameView place') :
    exclusion? n place = exclusion? n' place' := by
  unfold exclusion?
  rw [h.isTypedInit, h.isCallArgument, h.isPropertyValue, h.calledMethod?]
  cases hp : n.params? with
  | none =>
    rw [hp] at hn
    rw [Option.map_eq_none_iff.1 hn.symm]
  | some params =>
    rw [hp] at hn
    obtain ⟨params', hp', hlength⟩ := Option.map_eq_some_iff.1 hn.symm
    rw [hp']
    dsimp only
    rw [hlength]

theorem exclusion?_congr {n n' : Node} (hn : n.Alike n') (h : place.Alike place')
    (hname : ∀ name, place.calledMethod? = some name → name.IsText) :
    exclusion? n place = exclusion? n' place' := by
  refine exclusion?_of_sameView ?_ (h.sameView hname)
  have hparams := hn.params?
  generalize n.params? = params, n'.params? = params' at hparams ⊢
  cases hparams with
  | none => rfl
  | some hps => exact congrArg some hps.length_eq

end Places

theorem editOf_congr {params params' : List Node} {src : SourceText}
    (h : List.Forall₂ Node.Alike params params') (hn : ∀ n ∈ params, n.All Node.HasTextName) :
    editOf params src = editOf params' src := by
  have hmap : params.mapM (·.classify src) = params'.mapM (·.classify src) := by
    induction h with
    | nil => rfl
    | cons hab _ ih =>
      obtain ⟨hn, hns⟩ := List.forall_mem_cons.1 hn
      rw [List.mapM_cons, List.mapM_cons, Node.classify_congr hab hn, ih hns]
  unfold editOf
  rw [hmap]

/-- The visits are of nodes that are alike, at like places. -/
structure Visit.Alike (v v' : Visit) : Prop where
  node : v.node.Alike v'.node
  parent : Place.Alike v.parent v'.parent

theorem findingAt_congr {t t' : Tree} {v v' : Visit} (h : v.Alike v')
    (hsource : t.source = t'.source) (hnames : t.root.All Node.HasTextName) (hv : t.Occurs v)
    (hv' : t'.Occurs v') : findingAt t v = findingAt t' v' := by
  have hparams : ∀ n ∈ v.node.params?.getD [], n.All Node.HasTextName := by
    intro n hn
    cases hp : v.node.params? with
    | none =>
      rw [hp] at hn
      cases hn
    | some params =>
      rw [hp] at hn
      exact hnames.of_contains (hv.contains.child (Node.mem_edges_of_mem_params hp hn))
  unfold findingAt
  rw [Tree.place_eq hv, Tree.place_eq hv',
    exclusion?_congr h.node h.parent fun _ => Tree.calledMethod?_isText hnames hv, hsource,
    h.node.type, h.node.span]
  dsimp only
  rw [editOf_congr h.node.params hparams, h.node.params.length_eq]

/-- What passes from visits to their children, in some order, passes to all visits below. -/
theorem Visit.rel_preorder {R : Visit → Visit → Prop} {v v' : Visit}
    (hR : ∀ v v', R v v' →
      Multiset.Rel R (v.offspring : Multiset Visit) (v'.offspring : Multiset Visit))
    (h : R v v') : Multiset.Rel R (v.preorder : Multiset Visit) (v'.preorder : Multiset Visit) := by
  induction v using Visit.induction generalizing v' with
  | h v ih =>
    have hchildren : ∀ u : Visit, (u.children : Multiset Visit) = u.offspring := fun u =>
      Multiset.coe_eq_coe.2 (List.mergeSort_perm _ _)
    have hbelow := (hR v v' h).mono fun u hu u' _ hu' => ih u (Multiset.mem_coe.1 hu) hu'
    rw [← hchildren, ← hchildren] at hbelow
    rw [preorder_eq, preorder_eq, ← Multiset.cons_coe, ← Multiset.cons_coe, ← Multiset.coe_bind,
      ← Multiset.coe_bind]
    exact .cons h (Multiset.rel_bind (fun _ _ hu => hu) hbelow)

namespace Visit.Alike

variable {v v' : Visit}

theorem start (h : v.Alike v') : v.node.start = v'.node.start := congrArg Span.start h.node.span

theorem follow (h : v.Alike v') {e e' : Role × Node} (he : Node.EdgeAlike e e') (i j : Nat) :
    (v.follow e i).Alike (v'.follow e' j) := ⟨he.2, .some ⟨h.node, he.1⟩⟩

theorem rel_offspring (h : v.Alike v') :
    Multiset.Rel Visit.Alike (v.offspring : Multiset Visit) (v'.offspring : Multiset Visit) := by
  have hedges := h.node.rel_edges
  rw [← Node.map_fst_links, ← Node.map_fst_links, ← Multiset.map_coe, ← Multiset.map_coe,
    Multiset.rel_map] at hedges
  rw [offspring, offspring, ← Multiset.map_coe, ← Multiset.map_coe, Multiset.rel_map]
  exact hedges.mono fun l _ l' _ he => h.follow he l.2 l'.2

theorem forall₂_offspring (h : v.Alike v') (hv : v.node.HasDistinctStarts) :
    List.Forall₂ Visit.Alike v.offspring v'.offspring := by
  have hedges := h.node.forall₂_edges hv
  rw [← Node.map_fst_links, ← Node.map_fst_links, List.forall₂_map_left_iff,
    List.forall₂_map_right_iff] at hedges
  rw [offspring, offspring, List.forall₂_map_left_iff, List.forall₂_map_right_iff]
  exact hedges.imp fun l l' he => h.follow he l.2 l'.2

theorem rel_preorder (h : v.Alike v') :
    Multiset.Rel Visit.Alike (v.preorder : Multiset Visit) (v'.preorder : Multiset Visit) :=
  Visit.rel_preorder (fun _ _ hu => rel_offspring hu) h

/-- Where the children of nodes of unknown type start apart, it is in the same order. -/
theorem forall₂_preorder (h : v.Alike v') (hv : v.node.All Node.HasDistinctStarts) :
    List.Forall₂ Visit.Alike v.preorder v'.preorder := by
  induction v using Visit.induction generalizing v' with
  | h v ih =>
    have hchildren := forall₂_sortBy (fun _ _ hu => start hu) (h.forall₂_offspring (hv _ (.self _)))
    have hbelow := (forall₂_mem hchildren).imp fun u u' ⟨hu, _, huu'⟩ =>
      have hu := mem_children.1 hu
      ih u hu huu' (hv.of_contains (Reaches.refl.step hu).contains)
    rw [preorder_eq, preorder_eq]
    exact .cons h (List.rel_flatMap hbelow fun _ _ hu => hu)

end Visit.Alike

namespace Tree

variable {t t' : Tree}

theorem rel_walk (h : t.root.Alike t'.root) :
    Multiset.Rel Visit.Alike (t.walk : Multiset Visit) (t'.walk : Multiset Visit) := by
  rw [walk_eq_preorder, walk_eq_preorder]
  exact Visit.Alike.rel_preorder ⟨h, .none⟩

theorem forall₂_walk (h : t.root.Alike t'.root) (ht : t.root.All Node.HasDistinctStarts) :
    List.Forall₂ Visit.Alike t.walk t'.walk := by
  rw [walk_eq_preorder, walk_eq_preorder]
  exact Visit.Alike.forall₂_preorder ⟨h, .none⟩ ht

structure SameFinding (t t' : Tree) (v v' : Visit) : Prop where
  bears : bearsFunctionName v.node = bearsFunctionName v'.node
  finding : findingAt t v = findingAt t' v'

/-- The rule answers at every node that bears a function's type name. -/
def IsAnswered (t : Tree) : Prop :=
  ∀ v, t.Occurs v → bearsFunctionName v.node → ∃ o, findingAt t v = .ok o

theorem SameFinding.finding?_eq {v v' : Visit} (h : SameFinding t t' v v') :
    finding? t v = finding? t' v' := by
  rw [finding?, finding?, h.bears, h.finding]

/-- What is answered at the visits of one tree is answered at those that are related to them. -/
theorem IsAnswered.of_rel {R : Visit → Visit → Prop} (ht : t.IsAnswered)
    (h : Multiset.Rel R (t.walk : Multiset Visit) (t'.walk : Multiset Visit))
    (hR : ∀ v v', R v v' → bearsFunctionName v.node = bearsFunctionName v'.node ∧
      ((∃ o, findingAt t v = .ok o) → ∃ o, findingAt t' v' = .ok o)) : t'.IsAnswered := by
  intro v' hv' hb
  obtain ⟨v, hv, hsame⟩ := Multiset.exists_mem_of_rel_of_mem (Multiset.rel_flip.2 h)
    (mem_walk.2 hv')
  obtain ⟨hbears, hanswer⟩ := hR v v' hsame
  exact hanswer (ht v (mem_walk.1 hv) (hbears ▸ hb))

/-- The rule does the same at both visits, but for what `T` leaves open of a finding. -/
structure FindsAlike (T : Finding → Finding → Prop) (t t' : Tree) (v v' : Visit) : Prop where
  bears : bearsFunctionName v.node = bearsFunctionName v'.node
  finding : Except.Agree (Option.Rel T) (findingAt t v) (findingAt t' v')

theorem FindsAlike.rel_finding? {T : Finding → Finding → Prop} {v v' : Visit}
    (h : FindsAlike T t t' v v') : Option.Rel T (finding? t v) (finding? t' v') := by
  unfold finding?
  rw [h.bears]
  split
  · have hfinding := h.finding
    generalize findingAt t v = x, findingAt t' v' = y at hfinding ⊢
    cases hfinding with
    | ok h => cases h <;> constructor; assumption
    | error => exact .none
  · exact .none

/-- Trees at the visits of which the rule does the same are both refused by a check, or have related
findings. -/
theorem rel_check {T : Finding → Finding → Prop}
    (h : Multiset.Rel (FindsAlike T t t') (t.walk : Multiset Visit) (t'.walk : Multiset Visit)) :
    ∃ r r', t.check.Yields r ∧ t'.check.Yields r' ∧ Except.Agree
      (fun (fs fs' : List Finding) =>
        Multiset.Rel T (fs : Multiset Finding) (fs' : Multiset Finding)) r r' := by
  have hfound : Multiset.Rel T (t.walk.filterMap (finding? t) : Multiset Finding)
      (t'.walk.filterMap (finding? t') : Multiset Finding) := by
    obtain ⟨vs, hvs, hperm⟩ := exists_forall₂_of_rel h
    rw [← Multiset.coe_eq_coe.2 (hperm.filterMap _)]
    exact rel_of_forall₂ (List.rel_filterMap (fun _ _ hv => hv.rel_finding?) hvs)
  obtain ⟨r, hr, hiff⟩ := yields_check t
  obtain ⟨r', hr', hiff'⟩ := yields_check t'
  refine ⟨r, r', hr, hr', ?_⟩
  cases r with
  | ok fs =>
    obtain ⟨hall, rfl⟩ := (hiff fs).1 rfl
    have hall' : t'.IsAnswered := IsAnswered.of_rel hall h fun v v' hv =>
      ⟨hv.bears, fun ho => hv.finding.exists_iff.1 ho⟩
    rw [(hiff' _).2 ⟨hall', rfl⟩]
    refine .ok ?_
    rw [Multiset.coe_eq_coe.2 (List.mergeSort_perm _ _),
      Multiset.coe_eq_coe.2 (List.mergeSort_perm (t'.walk.filterMap (finding? t')) _)]
    exact hfound
  | error e =>
    cases r' with
    | error e' => exact .error
    | ok fs' =>
      obtain ⟨hall, -⟩ := (hiff' fs').1 rfl
      have hback : t.IsAnswered := IsAnswered.of_rel hall (Multiset.rel_flip.2 h) fun v' v hv =>
        ⟨hv.bears.symm, fun ho => hv.finding.exists_iff.2 ho⟩
      cases (hiff _).2 ⟨hback, rfl⟩

theorem SameFinding.findsAlike {v v' : Visit} (h : SameFinding t t' v v') :
    FindsAlike Eq t t' v v' := by
  refine ⟨h.bears, (Except.Agree.of_eq h.finding).imp fun o _ ho => ?_⟩
  subst ho
  cases o with
  | none => exact .none
  | some f => exact .some rfl

theorem sameFinding_of_alike (hsource : t.source = t'.source)
    (hnames : t.root.All Node.HasTextName) {v v' : Visit} (hv : v ∈ t.walk) (hv' : v' ∈ t'.walk)
    (h : v.Alike v') : SameFinding t t' v v' :=
  ⟨by rw [bearsFunctionName, bearsFunctionName, h.node.type],
    findingAt_congr h hsource hnames (mem_walk.1 hv) (mem_walk.1 hv')⟩

/-- The checks of trees that are alike both fail, or have the same findings, which are in the same
order where the children of nodes of unknown type start apart. -/
theorem check_alike (h : t.root.Alike t'.root) (hsource : t.source = t'.source)
    (hnames : t.root.All Node.HasTextName) :
    ∃ r r', t.check.Yields r ∧ t'.check.Yields r' ∧ Except.Agree
      (fun fs fs' => fs.Perm fs' ∧ (t.root.All Node.HasDistinctStarts → fs = fs')) r r' := by
  have hsame : ∀ v ∈ t.walk, ∀ v' ∈ t'.walk, v.Alike v' → SameFinding t t' v v' :=
    fun v hv v' hv' => sameFinding_of_alike hsource hnames hv hv'
  obtain ⟨r, r', hr, hr', hagree⟩ := rel_check <| (rel_walk h).mono fun v hv v' hv' halike =>
    (hsame v hv v' hv' halike).findsAlike
  refine ⟨r, r', hr, hr', ?_⟩
  cases hagree with
  | error => exact .error
  | ok hrel =>
    refine .ok ⟨Multiset.coe_eq_coe.1 (Multiset.rel_eq.1 hrel), fun hdistinct => ?_⟩
    have hwalk := (forall₂_mem (forall₂_walk h hdistinct)).imp fun v v' ⟨hv, hv', halike⟩ =>
      (hsame v hv v' hv' halike).finding?_eq
    rw [eq_of_yields_check hr, eq_of_yields_check hr', filterMap_eq_of_forall₂ hwalk]

end Tree

end ArityLint
