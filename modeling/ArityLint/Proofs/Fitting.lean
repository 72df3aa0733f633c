import ArityLint.Proofs.Ranges

namespace ArityLint

def Span.InText (s : Span) (length : Nat) : Prop :=
  0 ≤ s.start ∧ s.start ≤ s.stop ∧ s.stop ≤ length

namespace Concrete

/-- The children of a typed parameter come in the order of the grammar: what it binds after its
decorators, then a type, and then `=` and a value. -/
def HasParameterOrder (c : Concrete) : Prop :=
  ∀ bound ∈ c.child? "pattern", ∃ before between after,
    c.children = before ++ bound :: (between ++ after) ∧
    (∀ d ∈ before, d.isMark "=" = false) ∧ (∀ d ∈ bound :: between, d.kind ∉ Lower.markKinds) ∧
    (∀ t ∈ c.child? "type", t ∈ between) ∧
    (∀ d ∈ after.head?, d.isMark "=") ∧ ∀ v ∈ c.child? "value", v ∈ after

def HasFieldOrder (fields : List String) (c : Concrete) : Prop :=
  (fields.filterMap c.child?).Sublist c.children

/-- The children of a node come in the order of the grammar where ranges depend on it. -/
def HasGrammarOrder (c : Concrete) : Prop :=
  match Form.ofKind c.kind with
  | .parameter _ => c.HasParameterOrder
  | .declarator => c.HasFieldOrder ["name", "type", "value"]
  | .method => c.HasFieldOrder ["name", "parameters", "return_type", "body"]
  | _ => True

/-- All ranges of a tree are as in a source, and all children in the order of the grammar. -/
structure IsOrderly (source : String) (c : Concrete) : Prop where
  placed : c.AllPlaced source
  ordered : ∀ d ∈ c.nodes, d.HasGrammarOrder

variable {source : String} {c d : Concrete}

theorem IsOrderly.of_child (h : c.IsOrderly source) (hd : d ∈ c.children) : d.IsOrderly source where
  placed := h.placed.of_child hd
  ordered _ he := h.ordered _ (mem_nodes.2 ((Contains.child hd).trans (mem_nodes.1 he)))

theorem IsOrderly.self (h : c.IsOrderly source) : c.HasGrammarOrder :=
  h.ordered c (mem_nodes.2 (.self c))

theorem IsPlaced.stop_le_start {fields : List String} {first second : String} {e : Concrete}
    (hc : c.IsPlaced source) (horder : c.HasFieldOrder fields)
    (hfields : [first, second].Sublist fields) (hd : c.child? first = some d)
    (he : c.child? second = some e) : d.stop ≤ e.start := by
  have hpair : [d, e].Sublist (fields.filterMap c.child?) := by
    have hsub := hfields.filterMap c.child?
    rwa [List.filterMap_cons_some hd, List.filterMap_cons_some he, List.filterMap_nil] at hsub
  have hordered := hc.ordered.sublist (hpair.trans horder)
  exact (List.pairwise_cons.1 hordered).1 e (List.mem_singleton_self e)

end Concrete

namespace Node

/-- A member of a class, or a method or an accessor of an object literal. -/
def isMethod : Node → Bool
  | methodDefinition .. => true
  | property _ _ _ method _ kind => method || !kind.isStr "init"
  | _ => false

/-- The range in which the name of a child's function may lie: that of a method, for its function.
-/
def reach (n : Node) (role : Role) : Option Span :=
  if n.isMethod ∧ role = .value then some n.span else none

/-- The node lies in the text, and its children lie in it, down to every node below. Only the name
of a function expression may lie in `outer` instead. -/
inductive Encloses (length : Nat) : (outer : Option Span) → Node → Prop
  | intro {outer : Option Span} {n : Node} : n.span.InText length →
      (∀ e ∈ n.edges, e.2.span.Within n.span ∨ e.1 = .id ∧
        n.type = .str FunctionKind.expression.name ∧ ∃ s ∈ outer, e.2.span.Within s) →
      (∀ e ∈ n.edges, Encloses length (n.reach e.1) e.2) → Encloses length outer n

variable {length : Nat} {n m : Node} {s s' : Span}

theorem Encloses.inText {outer : Option Span} (h : n.Encloses length outer) :
    n.span.InText length := by
  cases h with
  | intro hs => exact hs

/-- The node lies in a range, and encloses what is below it. -/
def SitsIn (length : Nat) (s : Span) (n : Node) : Prop :=
  n.span.Within s ∧ n.Encloses length none

theorem SitsIn.mono (h : n.SitsIn length s) (hs : s.Within s') : n.SitsIn length s' :=
  ⟨h.1.trans hs, h.2⟩

/-- Apart from methods a node encloses its children exactly if they sit in its range. -/
theorem encloses_iff (hn : n.isMethod = false) :
    n.Encloses length none ↔ n.span.InText length ∧ n.EachChild (SitsIn length n.span) := by
  have hreach : ∀ role, n.reach role = none := by
    intro role
    simp [reach, hn]
  rw [← forall_mem_edges]
  constructor
  · rintro ⟨hs, hwithin, hbelow⟩
    refine ⟨hs, fun e he => ⟨?_, hreach e.1 ▸ hbelow e he⟩⟩
    rcases hwithin e he with h | ⟨_, _, s, hs, _⟩
    · exact h
    · cases hs
  · rintro ⟨hs, hsits⟩
    exact .intro hs (fun e he => .inl (hsits e he).1) fun e he => hreach e.1 ▸ (hsits e he).2

end Node

namespace Lower

open Node

variable {source : String} {lower : String → Concrete → Lowering Node} {c d : Concrete} {n m : Node}
  {a b a' b' i j : Nat}

/-- The range starts and ends with characters, between two byte offsets. -/
def Between (source : String) (a b : Nat) (s : Span) : Prop :=
  ∃ x y i j, a ≤ x ∧ x ≤ y ∧ y ≤ b ∧ Utf8.Offset source x i ∧ Utf8.Offset source y j ∧ s = ⟨i, j⟩

theorem between_of_offset (hi : Utf8.Offset source a i) (hj : Utf8.Offset source b j)
    (hab : a ≤ b) : Between source a b ⟨i, j⟩ :=
  ⟨a, b, i, j, Nat.le_refl _, hab, Nat.le_refl _, hi, hj, rfl⟩

namespace Between

variable {s : Span}

theorem mono (h : Between source a b s) (ha : a' ≤ a) (hb : b ≤ b') : Between source a' b' s := by
  obtain ⟨x, y, i, j, hax, hxy, hyb, hi, hj, hs⟩ := h
  exact ⟨x, y, i, j, ha.trans hax, hxy, hyb.trans hb, hi, hj, hs⟩

theorem inText (h : Between source a b s) : s.InText source.length := by
  obtain ⟨x, y, i, j, _, hxy, _, hi, hj, rfl⟩ := h
  have hij := hi.le_of_byte_le hj hxy
  have hlength := hj.1
  unfold Span.InText
  dsimp only
  omega

theorem within (h : Between source a b s) (hi : Utf8.Offset source a i)
    (hj : Utf8.Offset source b j) : s.Within ⟨i, j⟩ := by
  obtain ⟨x, y, k, l, hax, _, hyb, hk, hl, rfl⟩ := h
  have hik := hi.le_of_byte_le hk hax
  have hlj := hl.le_of_byte_le hj hyb
  unfold Span.Within
  dsimp only
  omega

end Between

/-- The node lies between two byte offsets, and encloses what is below it. -/
def Fits (source : String) (a b : Nat) (n : Node) : Prop :=
  Between source a b n.span ∧ n.Encloses source.length none

theorem Fits.mono (h : Fits source a b n) (ha : a' ≤ a) (hb : b ≤ b') : Fits source a' b' n :=
  ⟨h.1.mono ha hb, h.2⟩

theorem Fits.sitsIn (h : Fits source a b n) (hi : Utf8.Offset source a i)
    (hj : Utf8.Offset source b j) : n.SitsIn source.length ⟨i, j⟩ :=
  ⟨h.1.within hi hj, h.2⟩

theorem eachChild_imp {P Q : Node → Prop} (h : n.EachChild P) (himp : ∀ m, P m → Q m) :
    n.EachChild Q := by
  rw [← forall_mem_edges] at h ⊢
  exact fun e he => himp _ (h e he)

theorem fits_of_children (hn : n.isMethod = false) (hi : Utf8.Offset source a i)
    (hj : Utf8.Offset source b j) (hab : a ≤ b) (hspan : n.span = ⟨i, j⟩)
    (h : n.EachChild (Fits source a b)) : Fits source a b n := by
  have hbetween : Between source a b n.span := hspan ▸ between_of_offset hi hj hab
  refine ⟨hbetween, (encloses_iff hn).2 ⟨hbetween.inText, ?_⟩⟩
  rw [hspan]
  exact eachChild_imp h fun m hm => hm.sitsIn hi hj

theorem fits_of_spanOf (hc : c.IsPlaced source) (hn : n.isMethod = false)
    (hspan : spanOf (Utf8.Encoded.ofString source) c = .ok n.span)
    (h : n.EachChild (Fits source c.start c.stop)) : Fits source c.start c.stop n := by
  obtain ⟨i, hi⟩ := hc.start
  obtain ⟨j, hj⟩ := hc.stop
  rw [spanOf, span_of_offset hi hj] at hspan
  exact fits_of_children hn hi hj hc.le (Except.ok.inj hspan).symm h

/-- What is asked of the lowering of the nodes below. -/
def Nests (source : String) (lower : String → Concrete → Lowering Node) : Prop :=
  ∀ parent d n, d.IsOrderly source → lower parent d = .ok n → Fits source d.start d.stop n

theorem fits_of_mem_children (hc : c.IsPlaced source) (hd : d ∈ c.children)
    (h : Fits source d.start d.stop n) : Fits source c.start c.stop n :=
  h.mono (hc.within d hd).1 (hc.within d hd).2

section Nests

variable (hl : Nests source lower) (hc : c.IsOrderly source)
include hl hc

theorem fits_lower {parent : String} (hd : d ∈ c.children) (h : lower parent d = .ok n) :
    Fits source c.start c.stop n :=
  fits_of_mem_children hc.placed.placed hd (hl _ d n (hc.of_child hd) h)

theorem fits_child {field : String} (h : child lower c field = .ok n) :
    Fits source c.start c.stop n := by
  obtain ⟨d, hd, h⟩ := Except.bind_eq_ok h
  exact fits_lower hl hc (Concrete.mem_children_of_child? (need_eq_ok hd)) h

theorem fits_child? {field : String} {o : Option Node} (h : child? lower c field = .ok o) :
    ∀ m ∈ o, ∃ d, c.child? field = some d ∧ Fits source d.start d.stop m := by
  intro m hm
  unfold child? at h
  split at h
  · next d hd =>
    obtain ⟨k, hk, rfl⟩ := Except.map_eq_ok h
    cases hm
    exact ⟨d, hd, hl _ d _ (hc.of_child (Concrete.mem_children_of_child? hd)) hk⟩
  · cases h
    cases hm

theorem fits_parts {ns : List Node} (h : parts lower c = .ok ns) :
    ∀ m ∈ ns, Fits source c.start c.stop m := by
  intro m hm
  obtain ⟨d, hd, h⟩ := Except.exists_of_mem_mapM h hm
  exact fits_lower hl hc (Concrete.mem_children_of_mem_parts hd) h

theorem fits_annotated? {field : String} {o : Option Node}
    (h : annotated? lower (c.child? field) = .ok o) :
    ∀ m ∈ o, ∃ d, c.child? field = some d ∧ Fits source d.start d.stop m := by
  intro m hm
  unfold annotated? at h
  split at h
  · cases h
    cases hm
  · next a ha =>
    split at h
    · cases h
      cases hm
    · next d ds hd =>
      obtain ⟨k, hk, rfl⟩ := Except.map_eq_ok h
      cases hm
      have hmem := Concrete.mem_children_of_mem_parts (hd ▸ List.mem_cons_self)
      exact ⟨a, ha, fits_lower hl (hc.of_child (Concrete.mem_children_of_child? ha)) hmem hk⟩

theorem fits_restArgument (h : restArgument (Utf8.Encoded.ofString source) lower c = .ok n) :
    Fits source c.start c.stop n := by
  unfold restArgument at h
  split at h
  · obtain ⟨s, hs, h⟩ := Except.bind_eq_ok h
    cases h
    exact fits_of_spanOf hc.placed.placed rfl hs (by simp [EachChild])
  · next d ds hd =>
    exact fits_lower hl hc (Concrete.mem_children_of_mem_parts (hd ▸ List.mem_cons_self)) h

theorem fits_params {ns : List Node} (h : params lower c = .ok ns) :
    ∀ m ∈ ns, ∃ d, c.child? "parameters" = some d ∧ Fits source d.start d.stop m := by
  unfold params at h
  split at h
  · next d hd =>
    have hmem := Concrete.mem_children_of_child? hd
    exact fun m hm => ⟨d, hd, fits_parts hl (hc.of_child hmem) h m hm⟩
  · cases h
    simp

omit hl in
theorem fits_of_field {field : String}
    (h : ∃ d, c.child? field = some d ∧ Fits source d.start d.stop n) :
    Fits source c.start c.stop n := by
  obtain ⟨d, hd, hn⟩ := h
  exact fits_of_mem_children hc.placed.placed (Concrete.mem_children_of_child? hd) hn

theorem fits_function {p : FunctionParts} (h : functionParts lower c = .ok p) {params : List Node}
    (hparams : ∀ m ∈ params, Fits source c.start c.stop m) {s : Span}
    (hs : spanOf (Utf8.Encoded.ofString source) c = .ok s) (kind : FunctionKind) :
    Fits source c.start c.stop ({ p with params }.node kind s) := by
  obtain ⟨_, hid, hbody, hret⟩ := functionParts_eq_ok h
  refine fits_of_spanOf hc.placed.placed rfl hs ⟨hparams, ?_, ?_, ?_⟩
  · exact fun m hm => fits_of_field hc (fits_child? hl hc hid m hm)
  · exact fun m hm => fits_of_field hc (fits_child? hl hc hbody m hm)
  · exact fun m hm => fits_of_field hc (fits_annotated? hl hc hret m hm)

theorem fits_plainFunction {p : FunctionParts} (h : functionParts lower c = .ok p) {s : Span}
    (hs : spanOf (Utf8.Encoded.ofString source) c = .ok s) (kind : FunctionKind) :
    Fits source c.start c.stop (p.node kind s) :=
  fits_function hl hc h (fun m hm => fits_of_field hc
    (fits_params hl hc (functionParts_eq_ok h).1 m hm)) hs kind

theorem fits_arrow (h : arrow (Utf8.Encoded.ofString source) lower c = .ok n) :
    Fits source c.start c.stop n := by
  obtain ⟨p, hp, h⟩ := Except.bind_eq_ok h
  obtain ⟨params, hparams, h⟩ := Except.bind_eq_ok h
  obtain ⟨s, hs, h⟩ := Except.bind_eq_ok h
  cases h
  refine fits_function hl hc hp ?_ hs _
  unfold arrowParams at hparams
  split at hparams
  · next d hd =>
    obtain ⟨m, hm, hparams⟩ := Except.bind_eq_ok hparams
    cases hparams
    simpa using fits_lower hl hc (Concrete.mem_children_of_child? hd) hm
  · cases hparams
    exact fun m hm => fits_of_field hc (fits_params hl hc (functionParts_eq_ok hp).1 m hm)

omit hl in
/-- The function of a method starts inside the method, at its parameters or with it. -/
theorem offset_methodStart {x : Nat}
    (hx : (c.child? "parameters").elim c.start (·.start) = x) :
    (∃ i, Utf8.Offset source x i) ∧ c.start ≤ x ∧ x ≤ c.stop := by
  have hplaced := hc.placed.placed
  cases hparams : c.child? "parameters" with
  | none =>
    rw [hparams] at hx
    obtain rfl : c.start = x := hx
    exact ⟨hplaced.start, Nat.le_refl _, hplaced.le⟩
  | some d =>
    rw [hparams] at hx
    obtain rfl : d.start = x := hx
    have hd := Concrete.mem_children_of_child? hparams
    have hdPlaced := (hc.of_child hd).placed.placed
    obtain ⟨hfrom, hto⟩ := hplaced.within d hd
    exact ⟨hdPlaced.start, hfrom, hdPlaced.le.trans hto⟩

omit hl in
/-- The parameters of a method and what follows them start no earlier than its function. -/
theorem methodStart_le {x : Nat} {field : String}
    (hx : (c.child? "parameters").elim c.start (·.start) = x)
    (horder : c.HasFieldOrder ["name", "parameters", "return_type", "body"])
    (hfield : field ∈ ["parameters", "return_type", "body"]) (hd : c.child? field = some d) :
    x ≤ d.start := by
  have hplaced := hc.placed.placed
  cases hparams : c.child? "parameters" with
  | none =>
    rw [hparams] at hx
    exact hx ▸ (hplaced.within d (Concrete.mem_children_of_child? hd)).1
  | some ps =>
    rw [hparams] at hx
    obtain rfl : ps.start = x := hx
    rcases List.mem_cons.1 hfield with rfl | hfield
    · rw [Option.some.inj (hparams.symm.trans hd)]
    · have hle := (hc.of_child (Concrete.mem_children_of_child? hparams)).placed.placed.le
      have hpair : ["parameters", field].Sublist ["name", "parameters", "return_type", "body"] := by
        rcases List.mem_cons.1 hfield with rfl | hfield
        · decide
        · rw [List.mem_singleton.1 hfield]
          decide
      exact hle.trans (hplaced.stop_le_start horder hpair hparams hd)

/-- The function of a method starts at its parameters, and only its name may lie before. -/
theorem encloses_method {p : FunctionParts} (h : functionParts lower c = .ok p)
    (horder : c.HasFieldOrder ["name", "parameters", "return_type", "body"]) {outer s : Span}
    (houter : spanOf (Utf8.Encoded.ofString source) c = .ok outer)
    (hs : span (Utf8.Encoded.ofString source) ((c.child? "parameters").elim c.start (·.start))
      c.stop = .ok s) :
    Between source c.start c.stop s ∧
      (p.node .expression s).Encloses source.length (some outer) := by
  have hplaced := hc.placed.placed
  obtain ⟨k, hk⟩ := hplaced.start
  obtain ⟨j, hj⟩ := hplaced.stop
  rw [spanOf, span_of_offset hk hj] at houter
  cases houter
  generalize hx : (c.child? "parameters").elim c.start (·.start) = x at hs
  obtain ⟨⟨i, hi⟩, hfrom, hto⟩ := offset_methodStart hc hx
  rw [span_of_offset hi hj] at hs
  cases hs
  -- all parts but the name come after the parameters have begun
  have hafter : ∀ field ∈ ["parameters", "return_type", "body"], ∀ m,
      (∃ d, c.child? field = some d ∧ Fits source d.start d.stop m) →
        m.SitsIn source.length ⟨i, j⟩ := by
    rintro field hfield m ⟨d, hd, hm⟩
    have hstop := (hplaced.within d (Concrete.mem_children_of_child? hd)).2
    exact (hm.mono (methodStart_le hc hx horder hfield hd) hstop).sitsIn hi hj
  obtain ⟨hps, hid, hbody, hret⟩ := functionParts_eq_ok h
  have hbetween := between_of_offset hi hj hto
  have hps := fun m hm => hafter "parameters" (by decide) m (fits_params hl hc hps m hm)
  have hbody := fun m hm => hafter "body" (by decide) m (fits_child? hl hc hbody m hm)
  have hret := fun m hm => hafter "return_type" (by decide) m (fits_annotated? hl hc hret m hm)
  have hid : ∀ m ∈ p.id, m.SitsIn source.length ⟨k, j⟩ := fun m hm =>
    (fits_of_field hc (fits_child? hl hc hid m hm)).sitsIn hk hj
  refine ⟨hbetween.mono hfrom (Nat.le_refl _), .intro hbetween.inText ?_ ?_⟩
  · simp only [FunctionParts.node, edges, List.forall_mem_append, placed, placedOption,
      List.forall_mem_map, Option.mem_toList]
    exact ⟨fun m hm => .inl (hps m hm).1,
      fun m hm => .inr ⟨trivial, rfl, _, rfl, (hid m hm).1⟩,
      fun m hm => .inl (hbody m hm).1, fun m hm => .inl (hret m hm).1⟩
  · simp only [FunctionParts.node, edges, List.forall_mem_append, placed, placedOption,
      List.forall_mem_map, Option.mem_toList]
    exact ⟨fun m hm => (hps m hm).2, fun m hm => (hid m hm).2, fun m hm => (hbody m hm).2,
      fun m hm => (hret m hm).2⟩

omit hl in
theorem fits_entry {key value : Node} (hn : n.isMethod)
    (hedges : n.edges = [(.key, key), (.value, value)])
    (hspan : spanOf (Utf8.Encoded.ofString source) c = .ok n.span)
    (hkey : Fits source c.start c.stop key) (hbetween : Between source c.start c.stop value.span)
    (hvalue : value.Encloses source.length (some n.span)) : Fits source c.start c.stop n := by
  have hplaced := hc.placed.placed
  obtain ⟨i, hi⟩ := hplaced.start
  obtain ⟨j, hj⟩ := hplaced.stop
  rw [spanOf, span_of_offset hi hj] at hspan
  have hspan := Except.ok.inj hspan
  have hself := between_of_offset hi hj hplaced.le
  rw [hspan] at hself
  refine ⟨hself, .intro hself.inText ?_ ?_⟩
  · rw [hedges, ← hspan]
    simp only [List.forall_mem_cons, List.not_mem_nil, false_implies, implies_true, and_true]
    exact ⟨.inl (hkey.sitsIn hi hj).1, .inl (hbetween.within hi hj)⟩
  · rw [hedges]
    simp only [List.forall_mem_cons, List.not_mem_nil, false_implies, implies_true, and_true, reach,
      hn, true_and, if_true]
    exact ⟨hkey.2, hvalue⟩

theorem fits_method {parent : Option String}
    (horder : c.HasFieldOrder ["name", "parameters", "return_type", "body"])
    (h : method (Utf8.Encoded.ofString source) lower parent c = .ok n) :
    Fits source c.start c.stop n := by
  obtain ⟨p, hp, h⟩ := Except.bind_eq_ok h
  obtain ⟨s, hs, h⟩ := Except.bind_eq_ok h
  obtain ⟨d, hd, h⟩ := Except.bind_eq_ok h
  obtain ⟨key, hkey, h⟩ := Except.bind_eq_ok h
  have hkey := fits_lower hl hc (Concrete.mem_children_of_child? (need_eq_ok hd)) hkey
  dsimp only at h
  split at h
  · obtain ⟨outer, houter, h⟩ := Except.bind_eq_ok h
    cases h
    obtain ⟨hbetween, hvalue⟩ := encloses_method hl hc hp horder houter hs
    refine fits_entry hc ?_ rfl houter hkey hbetween hvalue
    cases haccessor : c.children.find? fun d => d.isMark "get" || d.isMark "set" with
    | none => rfl
    | some e =>
      have hkind : e.kind ≠ "init" := by
        have hmark := List.find?_some haccessor
        intro heq
        simp [Concrete.isMark, heq] at hmark
      simp [isMethod, Value.isStr, hkind]
  · obtain ⟨kind, _, h⟩ := Except.bind_eq_ok h
    obtain ⟨outer, houter, h⟩ := Except.bind_eq_ok h
    cases h
    obtain ⟨hbetween, hvalue⟩ := encloses_method hl hc hp horder houter hs
    exact fits_entry hc rfl rfl houter hkey hbetween hvalue

end Nests

end Lower

end ArityLint
