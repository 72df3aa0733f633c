import ArityLint.Proofs.Signature
import ArityLint.Tree.Parse

namespace ArityLint

namespace Concrete

inductive Contains : Concrete → Concrete → Prop
  | self (c : Concrete) : Contains c c
  | under {c d e : Concrete} : d ∈ c.children → Contains d e → Contains c e

/-- All kinds of a tree satisfy `Q`. -/
def AllKinds (Q : String → Prop) (c : Concrete) : Prop := ∀ d, c.Contains d → Q d.kind

variable {Q : String → Prop} {c d : Concrete}

theorem AllKinds.child (h : c.AllKinds Q) (hd : d ∈ c.children) : d.AllKinds Q :=
  fun e he => h e (.under hd he)

theorem AllKinds.child? (h : c.AllKinds Q) {field : String} (hd : c.child? field = some d) :
    d.AllKinds Q :=
  h.child (List.mem_of_find?_eq_some hd)

theorem AllKinds.parts (h : c.AllKinds Q) (hd : d ∈ c.parts) : d.AllKinds Q :=
  h.child (List.mem_filter.1 hd).1

end Concrete

namespace Node

/-- A node about which nothing else is known keeps a kind that satisfies `Q`. -/
def HasKind (Q : String → Prop) : Node → Prop
  | other _ kind _ => ∃ k, kind = .str k ∧ Q k
  | _ => True

def IsLowered (Q : String → Prop) (n : Node) : Prop :=
  0 ≤ n.start ∧ n.HasTextName ∧ n.HasTextModifier ∧ n.HasKind Q

def AllLowered (Q : String → Prop) (n : Node) : Prop := n.All (IsLowered Q)

theorem allLowered_iff {Q : String → Prop} {n : Node} :
    n.AllLowered Q ↔ n.IsLowered Q ∧ n.EachChild (AllLowered Q) :=
  all_iff

end Node

namespace Lower

open Node

variable {Q : String → Prop} {code : Utf8.Encoded} {lower : String → Concrete → Lowering Node}
  {c : Concrete} {n : Node}

theorem char_nonneg {byte : Nat} {i : Int} (h : char code byte = .ok i) : 0 ≤ i := by
  unfold char at h
  split at h
  · cases h
    exact Int.natCast_nonneg _
  · cases h

theorem span_nonneg {start stop : Nat} {s : Span} (h : span code start stop = .ok s) :
    0 ≤ s.start := by
  obtain ⟨a, ha, h⟩ := Except.bind_eq_ok h
  obtain ⟨b, _, h⟩ := Except.bind_eq_ok h
  cases h
  exact char_nonneg ha

theorem spanOf_nonneg {s : Span} (h : spanOf code c = .ok s) : 0 ≤ s.start := span_nonneg h

theorem allLowered_name (h : name code c = .ok n) : n.AllLowered Q := by
  obtain ⟨s, hs, h⟩ := Except.bind_eq_ok h
  obtain ⟨t, _, h⟩ := Except.bind_eq_ok h
  cases h
  rw [allLowered_iff]
  exact ⟨⟨spanOf_nonneg hs, ⟨t, rfl⟩, trivial, trivial⟩, by simp [EachChild]⟩

theorem allLowered_literal {kind : LiteralKind} (h : literal code c kind = .ok n) :
    n.AllLowered Q := by
  obtain ⟨raw, _, h⟩ := Except.bind_eq_ok h
  obtain ⟨s, hs, h⟩ := Except.bind_eq_ok h
  cases h
  rw [allLowered_iff]
  exact ⟨⟨spanOf_nonneg hs, trivial, trivial, trivial⟩, trivial⟩

theorem allLowered_shorthand (h : shorthand code c = .ok n) : n.AllLowered Q := by
  unfold shorthand at h
  split at h
  · cases h
  · obtain ⟨ns, hns, h⟩ := Except.bind_eq_ok h
    obtain ⟨name, _, h⟩ := Except.bind_eq_ok h
    obtain ⟨s, hs, h⟩ := Except.bind_eq_ok h
    cases h
    rw [allLowered_iff]
    refine ⟨⟨spanOf_nonneg hs, trivial, trivial, trivial⟩, ?_⟩
    change AllLowered Q (bareName ns (.str name))
    rw [allLowered_iff]
    exact ⟨⟨spanOf_nonneg hns, ⟨name, rfl⟩, trivial, trivial⟩, by simp [bareName, EachChild]⟩

theorem allLowered_decorate {start : Int} {ds : List Node} (hs : 0 ≤ start)
    (hds : ∀ m ∈ ds, m.AllLowered Q) (hn : n.AllLowered Q) : (decorate start ds n).AllLowered Q := by
  obtain ⟨⟨_, hname, _, _⟩, hchild⟩ := allLowered_iff.1 hn
  unfold decorate
  split
  · exact allLowered_iff.2 ⟨⟨hs, hname, trivial, trivial⟩, hchild.1, hds⟩
  · exact allLowered_iff.2 ⟨⟨hs, trivial, trivial, trivial⟩, hchild.1, hchild.2.1, hds⟩
  · exact allLowered_iff.2 ⟨⟨hs, trivial, trivial, trivial⟩, hchild.1, hchild.2.1, hds⟩
  · exact allLowered_iff.2 ⟨⟨hs, trivial, trivial, trivial⟩, hchild.1, hchild.2.1, hds⟩
  · exact allLowered_iff.2 ⟨⟨hs, trivial, trivial, trivial⟩, hchild.1, hchild.2.1, hds⟩
  · exact hn

/-- What is asked of the lowering of the nodes below. -/
def Keeps (Q : String → Prop) (lower : String → Concrete → Lowering Node) : Prop :=
  ∀ parent d n, d.AllKinds Q → lower parent d = .ok n → n.AllLowered Q

theorem need_eq_ok {o : Option Concrete} {property : String} {d : Concrete}
    (h : need o property = .ok d) : o = some d := by
  unfold need at h
  split at h <;> cases h
  rfl

theorem functionParts_eq_ok {p : FunctionParts} (h : functionParts lower c = .ok p) :
    params lower c = .ok p.params ∧ child? lower c "name" = .ok p.id ∧
      child? lower c "body" = .ok p.body ∧
      annotated? lower (c.child? "return_type") = .ok p.returnType := by
  obtain ⟨params, hparams, h⟩ := Except.bind_eq_ok h
  obtain ⟨id, hid, h⟩ := Except.bind_eq_ok h
  obtain ⟨body, hbody, h⟩ := Except.bind_eq_ok h
  obtain ⟨ret, hret, h⟩ := Except.bind_eq_ok h
  cases h
  exact ⟨hparams, hid, hbody, hret⟩

variable (hl : Keeps Q lower) (hc : c.AllKinds Q)
include hl hc

theorem allLowered_child {field : String} (h : child lower c field = .ok n) : n.AllLowered Q := by
  obtain ⟨d, hd, h⟩ := Except.bind_eq_ok h
  exact hl _ d n (hc.child? (need_eq_ok hd)) h

theorem allLowered_child? {field : String} {o : Option Node} (h : child? lower c field = .ok o) :
    ∀ m ∈ o, m.AllLowered Q := by
  unfold child? at h
  split at h
  · rename_i d hd
    obtain ⟨m, hm, rfl⟩ := Except.map_eq_ok h
    intro m' hm'
    cases hm'
    exact hl _ d m (hc.child? hd) hm
  · cases h
    intro m hm
    cases hm

theorem allLowered_parts {ns : List Node} (h : parts lower c = .ok ns) :
    ∀ m ∈ ns, m.AllLowered Q := by
  intro m hm
  obtain ⟨d, hd, h⟩ := Except.exists_of_mem_mapM h hm
  exact hl _ d m (hc.parts hd) h

theorem allLowered_annotated? {field : String} {o : Option Node}
    (h : annotated? lower (c.child? field) = .ok o) : ∀ m ∈ o, m.AllLowered Q := by
  unfold annotated? at h
  split at h
  · cases h
    intro m hm
    cases hm
  · rename_i a ha
    split at h
    · cases h
      intro m hm
      cases hm
    · rename_i d ds hd
      obtain ⟨m, hm, rfl⟩ := Except.map_eq_ok h
      intro m' hm'
      cases hm'
      exact hl _ d m ((hc.child? ha).parts (by simp [hd])) hm

theorem allLowered_restArgument (hq : Q "rest_argument") (h : restArgument code lower c = .ok n) :
    n.AllLowered Q := by
  unfold restArgument at h
  split at h
  · obtain ⟨s, hs, h⟩ := Except.bind_eq_ok h
    cases h
    rw [allLowered_iff]
    exact ⟨⟨spanOf_nonneg hs, trivial, trivial, _, rfl, hq⟩, by simp [EachChild]⟩
  · rename_i d ds hd
    exact hl _ d n (hc.parts (by simp [hd])) h

theorem allLowered_params {ns : List Node} (h : params lower c = .ok ns) :
    ∀ m ∈ ns, m.AllLowered Q := by
  unfold params at h
  split at h
  · rename_i d hd
    exact allLowered_parts hl (hc.child? hd) h
  · cases h
    simp

theorem allLowered_function {p : FunctionParts} (h : functionParts lower c = .ok p)
    {params : List Node} (hparams : ∀ m ∈ params, m.AllLowered Q) {s : Span} (hs : 0 ≤ s.start)
    (kind : FunctionKind) : ({ p with params }.node kind s).AllLowered Q := by
  obtain ⟨_, hid, hbody, hret⟩ := functionParts_eq_ok h
  rw [allLowered_iff]
  exact ⟨⟨hs, trivial, trivial, trivial⟩, hparams, allLowered_child? hl hc hid,
    allLowered_child? hl hc hbody, allLowered_annotated? hl hc hret⟩

theorem allLowered_plainFunction {p : FunctionParts} (h : functionParts lower c = .ok p) {s : Span}
    (hs : 0 ≤ s.start) (kind : FunctionKind) : (p.node kind s).AllLowered Q :=
  allLowered_function hl hc h (allLowered_params hl hc (functionParts_eq_ok h).1) hs kind

theorem allLowered_arrow (h : arrow code lower c = .ok n) : n.AllLowered Q := by
  obtain ⟨p, hp, h⟩ := Except.bind_eq_ok h
  obtain ⟨params, hparams, h⟩ := Except.bind_eq_ok h
  obtain ⟨s, hs, h⟩ := Except.bind_eq_ok h
  cases h
  refine allLowered_function hl hc hp ?_ (spanOf_nonneg hs) _
  unfold arrowParams at hparams
  split at hparams
  · rename_i d hd
    obtain ⟨m, hm, hparams⟩ := Except.bind_eq_ok hparams
    cases hparams
    simpa using hl _ d m (hc.child? hd) hm
  · cases hparams
    exact allLowered_params hl hc (functionParts_eq_ok hp).1

theorem allLowered_method {parent : Option String} (h : method code lower parent c = .ok n) :
    n.AllLowered Q := by
  obtain ⟨p, hp, h⟩ := Except.bind_eq_ok h
  obtain ⟨s, hs, h⟩ := Except.bind_eq_ok h
  obtain ⟨d, hd, h⟩ := Except.bind_eq_ok h
  obtain ⟨key, hkey, h⟩ := Except.bind_eq_ok h
  have hkey := hl _ d key (hc.child? (need_eq_ok hd)) hkey
  have hvalue := allLowered_plainFunction hl hc hp (span_nonneg hs) .expression
  dsimp only at h
  split at h
  · obtain ⟨s', hs', h⟩ := Except.bind_eq_ok h
    cases h
    rw [allLowered_iff]
    exact ⟨⟨spanOf_nonneg hs', trivial, trivial, trivial⟩, hkey, hvalue⟩
  · obtain ⟨kind, _, h⟩ := Except.bind_eq_ok h
    obtain ⟨s', hs', h⟩ := Except.bind_eq_ok h
    cases h
    rw [allLowered_iff]
    exact ⟨⟨spanOf_nonneg hs', trivial, trivial, trivial⟩, hkey, hvalue⟩

theorem allLowered_scan {kind : String} {cs : List Concrete} {b b' : Binding}
    (hcs : ∀ d ∈ cs, d ∈ c.children) (hb : ∀ m ∈ b.decorators, m.AllLowered Q)
    (h : scan code lower kind cs b = .ok b') : ∀ m ∈ b'.decorators, m.AllLowered Q := by
  induction cs generalizing b with
  | nil =>
    cases h
    exact hb
  | cons d cs ih =>
    obtain ⟨hd, hcs⟩ := List.forall_mem_cons.1 hcs
    unfold scan at h
    split at h
    · obtain ⟨m, hm, h⟩ := Except.bind_eq_ok h
      refine ih hcs ?_ h
      have hm := hl _ d m (hc.child hd) hm
      exact List.forall_mem_append.2 ⟨hb, List.forall_mem_singleton.2 hm⟩
    · dsimp only at h
      -- no other child touches the decorators
      split at h
      · obtain ⟨t, _, h⟩ := Except.bind_eq_ok h
        refine ih hcs ?_ h
        exact hb
      · split at h
        · refine ih hcs ?_ h
          exact hb
        · split at h
          · refine ih hcs ?_ h
            exact hb
          · split at h
            · cases h
              exact hb
            · refine ih hcs ?_ h
              exact hb

theorem allLowered_pattern {kind : String} {s : Span} {declared : Option Node} {optional : Bool}
    (hq : Q "rest_argument") (hs : 0 ≤ s.start) (hd : ∀ m ∈ declared, m.AllLowered Q)
    (h : pattern code lower c kind s declared optional = .ok n) : n.AllLowered Q := by
  unfold pattern at h
  split at h
  · obtain ⟨name, _, h⟩ := Except.bind_eq_ok h
    cases h
    rw [allLowered_iff]
    exact ⟨⟨hs, ⟨name, rfl⟩, trivial, trivial⟩, hd, by simp⟩
  · obtain ⟨name, _, h⟩ := Except.bind_eq_ok h
    cases h
    rw [allLowered_iff]
    exact ⟨⟨hs, ⟨name, rfl⟩, trivial, trivial⟩, hd, by simp⟩
  · obtain ⟨a, ha, h⟩ := Except.bind_eq_ok h
    cases h
    have ha := allLowered_restArgument hl hc hq ha
    rw [allLowered_iff]
    exact ⟨⟨hs, trivial, trivial, trivial⟩, ha, hd, by simp⟩
  · obtain ⟨ps, hps, h⟩ := Except.bind_eq_ok h
    cases h
    have hps := allLowered_parts hl hc hps
    rw [allLowered_iff]
    exact ⟨⟨hs, trivial, trivial, trivial⟩, hps, hd, by simp⟩
  · obtain ⟨es, hes, h⟩ := Except.bind_eq_ok h
    cases h
    have hes := allLowered_parts hl hc hes
    rw [allLowered_iff]
    exact ⟨⟨hs, trivial, trivial, trivial⟩, hes, hd, by simp⟩
  · exact hl _ c n hc h

theorem allLowered_withValue {s : Span} {plain : Node} (hs : 0 ≤ s.start)
    (hp : plain.AllLowered Q) (h : withValue code lower c s plain = .ok n) : n.AllLowered Q := by
  unfold withValue at h
  split at h
  · cases h
    exact hp
  · rename_i d hd
    obtain ⟨stop, _, h⟩ := Except.bind_eq_ok h
    obtain ⟨right, hright, h⟩ := Except.bind_eq_ok h
    cases h
    have hright := hl _ d right (hc.child? hd) hright
    rw [allLowered_iff]
    exact ⟨⟨hs, trivial, trivial, trivial⟩, hp, hright, by simp⟩

theorem allLowered_parameter {optional : Bool} (hq : Q "rest_argument")
    (h : parameter code lower c optional = .ok n) : n.AllLowered Q := by
  obtain ⟨declared, hdeclared, h⟩ := Except.bind_eq_ok h
  obtain ⟨bound, hbound, h⟩ := Except.bind_eq_ok h
  obtain ⟨b, hb, h⟩ := Except.bind_eq_ok h
  obtain ⟨s, hs, h⟩ := Except.bind_eq_ok h
  obtain ⟨plain, hplain, h⟩ := Except.bind_eq_ok h
  obtain ⟨binding, hbinding, h⟩ := Except.bind_eq_ok h
  obtain ⟨outer, houter, h⟩ := Except.bind_eq_ok h
  have hdeclared := allLowered_annotated? hl hc hdeclared
  have hds := allLowered_scan hl hc (fun d hd => hd) (by simp) hb
  have hs := span_nonneg hs
  have hplain := allLowered_pattern hl (hc.child? (need_eq_ok hbound)) hq hs hdeclared hplain
  have hbinding := allLowered_withValue hl hc hs hplain hbinding
  have houter := char_nonneg houter
  split at h
  · obtain ⟨stop, _, h⟩ := Except.bind_eq_ok h
    cases h
    rw [allLowered_iff]
    refine ⟨⟨houter, trivial, ?_, trivial⟩, hbinding, hds⟩
    cases b.accessibility with
    | none => exact fun h => by cases h
    | some a => exact fun _ => ⟨a, rfl⟩
  · cases h
    split
    · exact hbinding
    · exact allLowered_decorate houter hds hbinding

theorem allLowered_assignment (h : assignment code lower c = .ok n) : n.AllLowered Q := by
  obtain ⟨s, hs, h⟩ := Except.bind_eq_ok h
  obtain ⟨left, hleft, h⟩ := Except.bind_eq_ok h
  obtain ⟨right, hright, h⟩ := Except.bind_eq_ok h
  obtain ⟨operator, _, h⟩ := Except.bind_eq_ok h
  cases h
  rw [allLowered_iff]
  exact ⟨⟨spanOf_nonneg hs, trivial, trivial, trivial⟩, allLowered_child hl hc hleft,
    allLowered_child hl hc hright⟩

theorem allLowered_target {bound : Concrete} (hb : bound.AllKinds Q)
    (h : target code lower c bound = .ok n) : n.AllLowered Q := by
  unfold target at h
  split at h
  · obtain ⟨s, hs, h⟩ := Except.bind_eq_ok h
    obtain ⟨name, _, h⟩ := Except.bind_eq_ok h
    obtain ⟨t, ht, h⟩ := Except.bind_eq_ok h
    cases h
    rw [allLowered_iff]
    exact ⟨⟨span_nonneg hs, ⟨name, rfl⟩, trivial, trivial⟩, allLowered_annotated? hl hc ht,
      by simp⟩
  · exact hl _ bound n hb h

theorem allLowered_declarator (h : declarator code lower c = .ok n) : n.AllLowered Q := by
  obtain ⟨bound, hbound, h⟩ := Except.bind_eq_ok h
  obtain ⟨id, hid, h⟩ := Except.bind_eq_ok h
  obtain ⟨s, hs, h⟩ := Except.bind_eq_ok h
  obtain ⟨init, hinit, h⟩ := Except.bind_eq_ok h
  cases h
  rw [allLowered_iff]
  exact ⟨⟨spanOf_nonneg hs, trivial, trivial, trivial⟩,
    allLowered_target hl hc (hc.child? (need_eq_ok hbound)) hid, allLowered_child? hl hc hinit⟩

theorem allLowered_other (h : other code lower c = .ok n) : n.AllLowered Q := by
  obtain ⟨s, hs, h⟩ := Except.bind_eq_ok h
  obtain ⟨body, hbody, h⟩ := Except.bind_eq_ok h
  cases h
  rw [allLowered_iff]
  exact ⟨⟨spanOf_nonneg hs, trivial, trivial, _, rfl, hc c (.self c)⟩, allLowered_parts hl hc hbody⟩

theorem allLowered_pair {first second : String} {make : Span → Node → Node → Node}
    (h : (do
      let s ← spanOf code c
      let a ← child lower c first
      let b ← child lower c second
      .ok (make s a b)) = .ok n)
    (hmake : ∀ {s a b}, 0 ≤ s.start → a.AllLowered Q → b.AllLowered Q →
      (make s a b).IsLowered Q ∧ (make s a b).EachChild (AllLowered Q)) : n.AllLowered Q := by
  obtain ⟨s, hs, h⟩ := Except.bind_eq_ok h
  obtain ⟨a, ha, h⟩ := Except.bind_eq_ok h
  obtain ⟨b, hb, h⟩ := Except.bind_eq_ok h
  cases h
  rw [allLowered_iff]
  exact hmake (spanOf_nonneg hs) (allLowered_child hl hc ha) (allLowered_child hl hc hb)

theorem allLowered_node {parent : Option String} (hq : Q "rest_argument")
    (h : node code lower parent c = .ok n) : n.AllLowered Q := by
  unfold node at h
  split at h
  · split at h
    · exact allLowered_other hl hc h
    · rename_i d ds hd
      exact hl _ d n (hc.parts (by simp [hd])) h
  · obtain ⟨s, hs, h⟩ := Except.bind_eq_ok h
    obtain ⟨p, hp, h⟩ := Except.bind_eq_ok h
    cases h
    exact allLowered_plainFunction hl hc hp (spanOf_nonneg hs) _
  · exact allLowered_arrow hl hc h
  · exact allLowered_method hl hc h
  · exact allLowered_parameter hl hc hq h
  · exact allLowered_name h
  · exact allLowered_pair hl hc h fun hs hl hr =>
      ⟨⟨hs, trivial, trivial, trivial⟩, hl, hr, by simp⟩
  · obtain ⟨s, hs, h⟩ := Except.bind_eq_ok h
    obtain ⟨a, ha, h⟩ := Except.bind_eq_ok h
    cases h
    rw [allLowered_iff]
    exact ⟨⟨spanOf_nonneg hs, trivial, trivial, trivial⟩, allLowered_restArgument hl hc hq ha,
      by simp, by simp⟩
  · obtain ⟨s, hs, h⟩ := Except.bind_eq_ok h
    obtain ⟨ps, hps, h⟩ := Except.bind_eq_ok h
    cases h
    rw [allLowered_iff]
    exact ⟨⟨spanOf_nonneg hs, trivial, trivial, trivial⟩, allLowered_parts hl hc hps, by simp,
      by simp⟩
  · obtain ⟨s, hs, h⟩ := Except.bind_eq_ok h
    obtain ⟨es, hes, h⟩ := Except.bind_eq_ok h
    cases h
    rw [allLowered_iff]
    exact ⟨⟨spanOf_nonneg hs, trivial, trivial, trivial⟩, allLowered_parts hl hc hes, by simp,
      by simp⟩
  · split at h
    · rename_i args hargs
      split at h
      · obtain ⟨s, hs, h⟩ := Except.bind_eq_ok h
        obtain ⟨callee, hcallee, h⟩ := Except.bind_eq_ok h
        obtain ⟨ns, hns, h⟩ := Except.bind_eq_ok h
        cases h
        rw [allLowered_iff]
        exact ⟨⟨spanOf_nonneg hs, trivial, trivial, trivial⟩, allLowered_child hl hc hcallee,
          allLowered_parts hl (hc.child? hargs) hns⟩
      · exact allLowered_other hl hc h
    · exact allLowered_other hl hc h
  · exact allLowered_pair hl hc h fun hs ho hp => ⟨⟨hs, trivial, trivial, trivial⟩, ho, hp⟩
  · exact allLowered_pair hl hc h fun hs ho hp => ⟨⟨hs, trivial, trivial, trivial⟩, ho, hp⟩
  · exact allLowered_pair hl hc h fun hs hk hv => ⟨⟨hs, trivial, trivial, trivial⟩, hk, hv⟩
  · exact allLowered_shorthand h
  · exact allLowered_assignment hl hc h
  · exact allLowered_declarator hl hc h
  · exact allLowered_literal h
  · exact allLowered_other hl hc h

omit hl in
/-- Every node that a lowering makes is as it should be, however deep the concrete tree is. -/
theorem allLowered_ofConcrete (hq : Q "rest_argument") {levels : Nat} {parent : Option String}
    (h : ofConcrete code levels parent c = .ok n) : n.AllLowered Q := by
  induction levels generalizing parent c n with
  | zero => cases h
  | succ levels ih => exact allLowered_node (fun p d n hd hn => ih hd hn) hc hq h

end Lower

section Reading

open LintM

variable {g : Grammar} {limits : Limits} {source language path : String} {t : Tree}

theorem treeOver_eq_ok {c : Concrete} (h : treeOver limits source language path c = .ok t) :
    Lower.ofConcrete (Utf8.Encoded.ofString source) limits.lowering none c = .ok t.root := by
  unfold treeOver at h
  dsimp only at h
  split at h
  · split at h <;> cases h
  · split at h
    · cases h
    · cases h
    · next hroot =>
      cases h
      exact hroot

/-- Reading a text gives the same result in every session; the tree is that of what the grammar
makes of the text. -/
theorem yields_treeOf (g : Grammar) (source language path : String) :
    (treeOf g source language path).Yields
      (Language.ofName language >>= fun lang =>
        treeOver g.limits source language path (g lang source)) := by
  unfold treeOf
  apply (yields_ofExcept _).bind
  intro lang _
  apply (yields_needParser lang).bind_ok
  cases treeOver g.limits source language path (g lang source) with
  | error e => exact (yields_ofExcept _).bind_error
  | ok t => exact (yields_ofExcept _).bind_ok ((yields_debug _ _).bind_ok (yields_pure t))

theorem allLowered_treeOf {Q : String → Prop} {s s' : Session}
    (h : (treeOf g source language path).exec s = (.ok t, s'))
    (hg : ∀ lang, Language.ofName language = .ok lang → (g lang source).AllKinds Q)
    (hq : Q "rest_argument") : t.root.AllLowered Q := by
  have hr := (yields_treeOf g source language path).fst_exec s
  rw [h] at hr
  obtain ⟨lang, hlang, ht⟩ := Except.bind_eq_ok hr.symm
  exact Lower.allLowered_ofConcrete (hg lang hlang) hq (treeOver_eq_ok ht)

end Reading

end ArityLint
