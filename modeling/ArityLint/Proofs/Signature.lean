import ArityLint.Check
import ArityLint.Proofs.Occurrence
import ArityLint.Proofs.Run

namespace ArityLint

def Value.IsText (v : Value) : Prop := ∃ s, v = .str s

theorem joinTexts_ok {separator : String} {items : List Value} (h : ∀ v ∈ items, v.IsText) :
    ∃ s, joinTexts separator items = .ok s := by
  apply Except.exists_bind_eq_ok
  · apply Except.exists_mapM_eq_ok
    rintro ⟨v, i⟩ hv
    obtain ⟨s, rfl⟩ := h v (List.fst_mem_of_mem_zipIdx hv)
    exact ⟨s, rfl⟩
  · intro texts
    exact ⟨_, rfl⟩

theorem braces_ok {items : List Value} {separator : String} (h : ∀ v ∈ items, v.IsText) :
    ∃ s, braces items separator = .ok s :=
  Except.exists_bind_eq_ok (joinTexts_ok h) fun _ => ⟨_, rfl⟩

namespace Node

def HasTextName : Node → Prop
  | identifier _ name .. => name.IsText
  | _ => True

def HasTextModifier : Node → Prop
  | parameterProperty _ _ accessibility .. => accessibility.truthy → accessibility.IsText
  | _ => True

theorem modifierText_ok {accessibility : Value} (override readonly : Bool)
    (h : accessibility.truthy → accessibility.IsText) :
    ∃ s, modifierText accessibility override readonly = .ok s := by
  apply joinTexts_ok
  intro v hv
  simp only [List.mem_append] at hv
  rcases hv with (hv | hv) | hv
  · split at hv
    · obtain rfl := List.mem_singleton.1 hv
      exact h ‹_›
    · cases hv
  · split at hv
    · exact ⟨_, List.mem_singleton.1 hv⟩
    · cases hv
  · split at hv
    · exact ⟨_, List.mem_singleton.1 hv⟩
    · cases hv

theorem classify_span {n : Node} {src : SourceText} {p : Parameter} (h : n.classify src = .ok p) :
    p.span = n.span := by
  unfold classify at h
  split at h
  · cases h; rfl
  · split at h
    · obtain ⟨m, _, rfl⟩ := Except.map_eq_ok h
      rfl
    all_goals cases h; first | rfl | (split <;> rfl)

/-- Names and modifiers are texts in the node and below it. -/
def HasTexts (n : Node) : Prop := n.All fun m => m.HasTextName ∧ m.HasTextModifier

theorem hasTexts_iff {n : Node} :
    n.HasTexts ↔ (n.HasTextName ∧ n.HasTextModifier) ∧ n.EachChild HasTexts :=
  all_iff

theorem HasTexts.of_contains {n m : Node} (h : n.HasTexts) (hm : n.Contains m) : m.HasTexts :=
  All.of_contains h hm

theorem HasTexts.names {n : Node} (h : n.HasTexts) : n.All HasTextName := fun m hm => (h m hm).1

theorem classify_ok {n : Node} (src : SourceText) (h : n.HasTexts) :
    ∃ p, n.classify src = .ok p ∧ p.describe.entry.IsText := by
  unfold classify
  split
  · exact ⟨_, rfl, _, rfl⟩
  · split
    · rename_i span s name t optional ds accessibility readonly override ds' _
      obtain ⟨m, hm⟩ := modifierText_ok override readonly (h _ (.self _)).2
      have hname := (hasTexts_iff.1 (hasTexts_iff.1 h).2.1).1.1
      refine ⟨.promoted span name (t.map (·.text src)) optional m, ?_, hname⟩
      rw [hm]
      rfl
    · exact ⟨_, rfl, _, rfl⟩
    · exact ⟨_, rfl, (h _ (.self _)).1⟩
    · exact ⟨_, rfl, _, rfl⟩
    · refine ⟨_, rfl, ?_⟩
      split <;> exact ⟨_, rfl⟩
    · exact ⟨_, rfl, _, rfl⟩
    · exact ⟨_, rfl, _, rfl⟩
    · exact ⟨_, rfl, _, rfl⟩
    · exact ⟨_, rfl, _, rfl⟩

end Node

theorem optionsText_ok {ds : List Descriptor} (h : ∀ d ∈ ds, d.entry.IsText) :
    ∃ s, optionsText ds = .ok s := by
  apply Except.exists_bind_eq_ok
  · apply braces_ok
    intro v hv
    obtain ⟨d, hd, rfl⟩ := List.mem_map.1 hv
    exact h d hd
  · intro pattern
    split
    · apply Except.exists_bind_eq_ok
      · apply braces_ok
        intro v hv
        obtain ⟨d, _, rfl⟩ := List.mem_map.1 hv
        exact ⟨_, rfl⟩
      · exact fun _ => ⟨_, rfl⟩
    · exact ⟨_, rfl⟩

theorem optionsEdit?_ok {ps : List Parameter} (h : ∀ p ∈ ps, p.describe.entry.IsText) :
    ∃ e, optionsEdit? ps = .ok e := by
  unfold optionsEdit?
  split
  · exact ⟨_, rfl⟩
  · split
    · apply Except.exists_bind_eq_ok
      · apply optionsText_ok
        intro d hd
        obtain ⟨p, hp, rfl⟩ := List.mem_map.1 hd
        exact h p hp
      · exact fun _ => ⟨_, rfl⟩
    · exact ⟨_, rfl⟩

theorem editOf_ok {params : List Node} (src : SourceText) (h : ∀ n ∈ params, n.HasTexts) :
    ∃ e, editOf params src = .ok e := by
  obtain ⟨ps, hps⟩ := Except.exists_mapM_eq_ok (f := (·.classify src)) fun n hn =>
    (Node.classify_ok src (h n hn)).imp fun _ hp => hp.1
  have htext : ∀ p ∈ ps, p.describe.entry.IsText := by
    intro p hp
    obtain ⟨n, hn, hnp⟩ := Except.exists_of_mem_mapM hps hp
    obtain ⟨q, hq, htext⟩ := Node.classify_ok src (h n hn)
    cases hnp.symm.trans hq
    exact htext
  obtain ⟨e, he⟩ := optionsEdit?_ok htext
  exact ⟨e, by unfold editOf; rw [hps]; exact he⟩

/-- The range from the start of a function's first parameter to the end of its last. -/
def Node.SpansParams (n : Node) (s : Span) : Prop :=
  ∃ params first last, n.params? = some params ∧ params.head? = some first ∧
    params.getLast? = some last ∧ s = ⟨first.start, last.stop⟩

/-- An edit reaches from the start of the first parameter to the end of the last. -/
theorem editOf_span {params : List Node} {src : SourceText} {e : Edit}
    (h : editOf params src = .ok (some e)) :
    ∃ first last, params.head? = some first ∧ params.getLast? = some last ∧
      e.span = ⟨first.start, last.stop⟩ := by
  obtain ⟨ps, hps, hedit⟩ := Except.bind_eq_ok h
  -- classification keeps every range, so first and last can be read off the nodes
  have hspans := Except.map_eq_of_mapM (k := (·.span)) hps fun n p => Node.classify_span
  cases ps with
  | nil => cases hedit
  | cons p others =>
    cases params with
    | nil => cases hspans
    | cons n rest =>
      obtain ⟨hp, hrest⟩ := List.cons.inj hspans
      simp only [optionsEdit?] at hedit
      split at hedit
      · obtain ⟨text, _, hedit⟩ := Except.bind_eq_ok hedit
        cases hedit
        refine ⟨n, rest.getLastD n, rfl, by simp [List.getLast?_cons], ?_⟩
        have hlast : (others.getLastD p).span = (rest.getLastD n).span :=
          calc
            _ = (others.map (·.span)).getLastD p.span := List.getLastD_map.symm
            _ = (rest.map Node.span).getLastD n.span := by rw [hrest]; exact congrArg _ hp
            _ = _ := List.getLastD_map
        exact congr (congrArg Span.mk (congrArg Span.start hp)) (congrArg Span.stop hlast)
      · cases hedit

end ArityLint
