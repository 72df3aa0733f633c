import ArityLint.Proofs.Parameters

namespace ArityLint

section Covers

variable {source : String} {c d : Concrete} {i : Int}

/-- The character offset lies in the range of the node. -/
def Concrete.Covers (source : String) (c : Concrete) (i : Int) : Prop :=
  ∃ byte k, c.start ≤ byte ∧ byte ≤ c.stop ∧ Utf8.Offset source byte k ∧ i = k

def Concrete.AllPlaced (source : String) (c : Concrete) : Prop :=
  ∀ d ∈ c.nodes, d.IsPlaced source

instance (source : String) (c : Concrete) : Decidable (c.AllPlaced source) :=
  inferInstanceAs (Decidable (∀ d ∈ c.nodes, d.IsPlaced source))

theorem Concrete.AllPlaced.of_contains (h : c.AllPlaced source) (hd : c.Contains d) :
    d.AllPlaced source :=
  fun _ he => h _ (mem_nodes.2 (hd.trans (mem_nodes.1 he)))

theorem Concrete.AllPlaced.of_child (h : c.AllPlaced source) (hd : d ∈ c.children) :
    d.AllPlaced source :=
  h.of_contains (.child hd)

theorem Concrete.AllPlaced.placed (h : c.AllPlaced source) : c.IsPlaced source :=
  h c (mem_nodes.2 (.self c))

theorem Concrete.Covers.of_child (h : d.Covers source i) (hc : c.IsPlaced source)
    (hd : d ∈ c.children) : c.Covers source i := by
  obtain ⟨byte, k, hstart, hstop, hoffset, hi⟩ := h
  obtain ⟨hfrom, hto⟩ := hc.within d hd
  exact ⟨byte, k, hfrom.trans hstart, hstop.trans hto, hoffset, hi⟩

namespace Lower

variable {lower : String → Concrete → Lowering Node} {n : Node}

theorem eq_of_char {byte k : Nat} (hk : Utf8.Offset source byte k)
    (h : char (Utf8.Encoded.ofString source) byte = .ok i) : i = k :=
  Except.ok.inj (h.symm.trans (char_of_offset hk))

theorem covers_start (hc : c.IsPlaced source)
    (h : char (Utf8.Encoded.ofString source) c.start = .ok i) : c.Covers source i := by
  obtain ⟨k, hk⟩ := hc.start
  exact ⟨c.start, k, Nat.le_refl _, hc.le, hk, eq_of_char hk h⟩

theorem covers_stop (hc : c.IsPlaced source)
    (h : char (Utf8.Encoded.ofString source) c.stop = .ok i) : c.Covers source i := by
  obtain ⟨k, hk⟩ := hc.stop
  exact ⟨c.stop, k, hc.le, Nat.le_refl _, hk, eq_of_char hk h⟩

/-- The span starts and ends in the range of a concrete node. -/
def LiesIn (source : String) (s : Span) (c : Concrete) : Prop :=
  c.Covers source s.start ∧ c.Covers source s.stop

theorem LiesIn.of_spanOf {s : Span} (hc : c.IsPlaced source)
    (h : spanOf (Utf8.Encoded.ofString source) c = .ok s) : LiesIn source s c :=
  ⟨covers_start hc (span_eq_ok.1 h).1, covers_stop hc (span_eq_ok.1 h).2⟩

theorem LiesIn.of_child {s : Span} (h : LiesIn source s d) (hc : c.IsPlaced source)
    (hd : d ∈ c.children) : LiesIn source s c :=
  ⟨h.1.of_child hc hd, h.2.of_child hc hd⟩

theorem span_pattern_or {code : Utf8.Encoded} {bound : Concrete} {kind : String} {s : Span}
    {declared : Option Node} {optional : Bool}
    (h : pattern code lower bound kind s declared optional = .ok n) :
    n.span = s ∨ lower kind bound = .ok n := by
  unfold pattern at h
  split at h
  case h_6 => exact .inr h
  all_goals
    obtain ⟨x, _, h⟩ := Except.bind_eq_ok h
    cases h
    exact .inl rfl

theorem decorate_span (start : Int) (ds : List Node) (n : Node) :
    (decorate start ds n).span = n.span ∨ (decorate start ds n).span = ⟨start, n.stop⟩ := by
  cases n with
  | identifier | assignmentPattern | restElement | objectPattern | arrayPattern => exact .inr rfl
  | _ => exact .inl rfl

theorem liesIn_parameter {optional : Bool} (hc : c.AllPlaced source)
    (hlower : ∀ kind, ∀ d ∈ c.children, ∀ m, lower kind d = .ok m → LiesIn source m.span d)
    (h : parameter (Utf8.Encoded.ofString source) lower c optional = .ok n) :
    LiesIn source n.span c := by
  obtain ⟨declared, _, h⟩ := Except.bind_eq_ok h
  obtain ⟨bound, hbound, h⟩ := Except.bind_eq_ok h
  obtain ⟨b, hb, h⟩ := Except.bind_eq_ok h
  obtain ⟨s, hs, h⟩ := Except.bind_eq_ok h
  obtain ⟨plain, hplain, h⟩ := Except.bind_eq_ok h
  obtain ⟨binding, hbinding, h⟩ := Except.bind_eq_ok h
  obtain ⟨outer, houter, h⟩ := Except.bind_eq_ok h
  have hmem := Concrete.mem_children_of_child? (need_eq_ok hbound)
  have hstarts : ∀ d ∈ c.children, ∀ i, char (Utf8.Encoded.ofString source) d.start = .ok i →
      c.Covers source i := fun d hd i hi =>
    (covers_start (hc.of_child hd).placed hi).of_child hc.placed hd
  have hstops : ∀ d ∈ c.children, ∀ i, char (Utf8.Encoded.ofString source) d.stop = .ok i →
      c.Covers source i := fun d hd i hi =>
    (covers_stop (hc.of_child hd).placed hi).of_child hc.placed hd
  obtain ⟨hbstart, hbstop⟩ := scan_ends hb
  have hstart : ∀ i, char (Utf8.Encoded.ofString source) (b.start.getD c.start) = .ok i →
      c.Covers source i := by
    intro i hi
    rcases hbstart with heq | ⟨d, hd, heq⟩ <;> rw [heq] at hi
    · exact covers_start hc.placed hi
    · exact hstarts d hd i hi
  have hspan : LiesIn source s c := by
    obtain ⟨hfrom, hto⟩ := span_eq_ok.1 hs
    constructor
    · split at hfrom
      · exact hstarts bound hmem _ hfrom
      · exact hstart _ hfrom
    · rcases hbstop with heq | ⟨d, hd, heq⟩ <;> rw [heq] at hto
      · exact hstops bound hmem _ hto
      · exact hstops d hd _ hto
  -- the pattern has the range of the binding, or is what stands for a child
  have hplain : LiesIn source plain.span c := by
    rcases span_pattern_or hplain with heq | hlow
    · exact heq.symm ▸ hspan
    · exact (hlower _ bound hmem _ hlow).of_child hc.placed hmem
  have hbinding : LiesIn source binding.span c := by
    unfold withValue at hbinding
    split at hbinding
    · cases hbinding
      exact hplain
    · next v hv =>
      obtain ⟨stop, hstop, hbinding⟩ := Except.bind_eq_ok hbinding
      obtain ⟨right, _, hbinding⟩ := Except.bind_eq_ok hbinding
      cases hbinding
      exact ⟨hspan.1, hstops v (Concrete.mem_children_of_child? hv) _ hstop⟩
  have houter : c.Covers source outer := by
    split at houter
    · exact hstart _ houter
    · exact covers_start hc.placed houter
  split at h
  · obtain ⟨stop, hstop, h⟩ := Except.bind_eq_ok h
    cases h
    exact ⟨houter, covers_stop hc.placed hstop⟩
  · cases h
    split
    · exact hbinding
    · rcases decorate_span outer b.decorators binding with heq | heq
      · exact heq.symm ▸ hbinding
      · exact heq.symm ▸ ⟨houter, hbinding.2⟩

theorem liesIn_ofConcrete {levels : Nat} {parent : Option String} (hc : c.AllPlaced source)
    (h : ofConcrete (Utf8.Encoded.ofString source) levels parent c = .ok n) :
    LiesIn source n.span c := by
  induction levels generalizing parent c n with
  | zero => cases h
  | succ levels ih =>
    have hlower : ∀ (kind : String), ∀ d ∈ c.children, ∀ m,
        ofConcrete (Utf8.Encoded.ofString source) levels (some kind) d = .ok m →
          LiesIn source m.span d :=
      fun kind d hd m hm => ih (hc.of_child hd) hm
    unfold ofConcrete at h
    cases hform : Form.ofKind c.kind with
    | parenthesized =>
      unfold node at h
      rw [hform] at h
      dsimp only at h
      split at h
      · exact .of_spanOf hc.placed (span_other h)
      · next d ds hparts =>
        have hd : d ∈ c.children :=
          Concrete.mem_children_of_mem_parts (hparts ▸ List.mem_cons_self)
        exact (hlower _ d hd _ h).of_child hc.placed hd
    | parameter optional =>
      unfold node at h
      rw [hform] at h
      exact liesIn_parameter hc hlower h
    | _ =>
      refine .of_spanOf hc.placed (spanOf_of_node ?_ ?_ h)
      · intro heq
        cases hform.symm.trans heq
      · intro optional heq
        cases hform.symm.trans heq

end Lower

end Covers

theorem Lower.Origin.inParams {source : String} {c : Concrete} {n : Node} {params : List Node}
    {src : SourceText} {e : Edit} (h : Origin (Utf8.Encoded.ofString source) n c)
    (hc : c.AllPlaced source) (hp : n.params? = some params) (hlength : 1 < params.length)
    (hedit : editOf params src = .ok (some e)) : ∃ list, InParams source c list e := by
  obtain ⟨ps, hps, hlist⟩ := h.params
  obtain rfl : ps = params := Option.some.inj (hps.symm.trans hp)
  obtain ⟨list, hlisted, hlowers⟩ := hlist.resolve_left (by omega)
  obtain ⟨firstNode, lastNode, hfirstNode, hlastNode, hspan⟩ := editOf_span hedit
  obtain ⟨first, hfirst, levels, parent, hlow⟩ := head?_of_forall₂ hlowers hfirstNode
  obtain ⟨last, hlast, levels', parent', hlow'⟩ := getLast?_of_forall₂ hlowers hlastNode
  have hplaced := hc.of_child (Concrete.mem_children_of_child? hlisted)
  have hin := Concrete.mem_children_of_mem_parts (List.mem_of_head? hfirst)
  have hin' := Concrete.mem_children_of_mem_parts (List.mem_of_getLast? hlast)
  -- the edit starts in the first parameter and ends in the last one
  obtain ⟨a, i, hfirst_a, ha_first, hi, hstart⟩ := (liesIn_ofConcrete (hplaced.of_child hin) hlow).1
  obtain ⟨b, j, hlast_b, hb_last, hj, hstop⟩ := (liesIn_ofConcrete (hplaced.of_child hin') hlow').2
  have hbetween := hplaced.placed.first_le_last (hlowers.length_eq ▸ hlength) hfirst hlast
  have hlow := (hplaced.placed.within first hin).1
  have hhigh := (hplaced.placed.within last hin').2
  refine ⟨list, hlisted, a, b, i, j, hi, hj, ?_, by omega, by omega, by omega⟩
  rw [hspan, ← hstart, ← hstop]

/-- The findings of a tree whose ranges are as in the source have edits in the parameter lists of
its functions. -/
theorem edits_inParams {limits : Limits} {source language path : String} {c : Concrete} {t : Tree}
    {fs : List Finding} {s s' : Session} (htree : treeOver limits source language path c = .ok t)
    (hc : c.AllPlaced source) (hcheck : t.check.exec s = (.ok fs, s')) :
    ∀ e ∈ editsOf fs, ∃ d ∈ c.functionLikes, ∃ list, InParams source d list e := by
  intro e he
  obtain ⟨f, hf, hfe⟩ := List.mem_filterMap.1 he
  obtain ⟨d, hd, n, params, horigin, hp, hlength, hedit, _⟩ :=
    exists_origin_of_edit htree hcheck hf hfe
  have hcontains := Concrete.mem_nodes.1 (List.mem_filter.1 hd).1
  exact ⟨d, hd, horigin.inParams (hc.of_contains hcontains) hp hlength hedit⟩

end ArityLint
