import ArityLint.Proofs.Distinct
import ArityLint.Proofs.Fitting

namespace ArityLint

namespace Lower

open Node

variable {source : String} {lower : String → Concrete → Lowering Node} {c d : Concrete} {n m : Node}
  {a b a' b' i j : Nat}

section Scan

variable {code : Utf8.Encoded} {kind : String} {before between after rest : List Concrete}
  {bound : Concrete} {b b' : Binding}

theorem scan_before (hbefore : ∀ d ∈ before, d.isMark "=" = false)
    (h : scan code lower kind (before ++ rest) b = .ok b') :
    ∃ b₁, scan code lower kind rest b₁ = .ok b' ∧
      (b₁.start = b.start ∨ ∃ d ∈ before, b₁.start = some d.start) ∧
      ∀ m ∈ b₁.decorators, m ∈ b.decorators ∨ ∃ d ∈ before, lower kind d = .ok m := by
  induction before generalizing b with
  | nil => exact ⟨b, h, .inl rfl, fun m hm => .inl hm⟩
  | cons d before ih =>
    obtain ⟨hd, hbefore⟩ := List.forall_mem_cons.1 hbefore
    have hself : d ∈ d :: before := List.mem_cons_self
    rcases scan_cons_eq_ok h with ⟨m, _, hm, h⟩ | ⟨b₁, _, hds, hstart, _, _, hrest⟩
    · obtain ⟨b₂, h₂, hstart, hdecorators⟩ := ih hbefore h
      refine ⟨b₂, h₂, ?_, fun k hk => ?_⟩
      · exact hstart.imp_right fun ⟨e, he, heq⟩ => ⟨e, List.mem_cons_of_mem _ he, heq⟩
      · rcases hdecorators k hk with hk | ⟨e, he, hk⟩
        · rcases List.mem_append.1 hk with hk | hk
          · exact .inl hk
          · exact .inr ⟨d, hself, List.mem_singleton.1 hk ▸ hm⟩
        · exact .inr ⟨e, List.mem_cons_of_mem _ he, hk⟩
    · rcases hrest with ⟨hmark, _⟩ | ⟨h, _⟩
      · rw [hd] at hmark
        cases hmark
      · obtain ⟨b₂, h₂, hstart', hdecorators⟩ := ih hbefore h
        refine ⟨b₂, h₂, ?_, fun k hk => ?_⟩
        · rcases hstart' with heq | ⟨e, he, heq⟩
          · rw [heq, hstart]
            cases b.start with
            | none => exact .inr ⟨d, hself, rfl⟩
            | some i => exact .inl rfl
          · exact .inr ⟨e, List.mem_cons_of_mem _ he, heq⟩
        · rcases hdecorators k hk with hk | ⟨e, he, hk⟩
          · exact .inl (hds ▸ hk)
          · exact .inr ⟨e, List.mem_cons_of_mem _ he, hk⟩

theorem scan_after {i : Nat} (hbetween : ∀ d ∈ between, d.kind ∉ markKinds)
    (hafter : ∀ d ∈ after.head?, d.isMark "=") (hb : b.start = some i) :
    scan code lower kind (between ++ after) b =
      .ok { b with stop := (between.map (·.stop)).getLastD b.stop } := by
  induction between generalizing b with
  | nil =>
    cases after with
    | nil => rfl
    | cons d after => exact scan_mark (hafter d rfl) hb
  | cons d between ih =>
    obtain ⟨hd, hbetween⟩ := List.forall_mem_cons.1 hbetween
    rw [List.cons_append, scan_cons hd, ih hbetween (by rw [hb, Option.some_or]),
      List.map_cons, List.getLastD_cons, hb, Option.some_or]

/-- The scan of a typed parameter in order starts at or before what is bound, ends with the last
child before `=`, and collects decorators from before what is bound. -/
theorem scan_ordered (hbefore : ∀ d ∈ before, d.isMark "=" = false)
    (hbetween : ∀ d ∈ bound :: between, d.kind ∉ markKinds)
    (hafter : ∀ d ∈ after.head?, d.isMark "=") {stop : Nat}
    (h : scan code lower kind (before ++ bound :: (between ++ after)) { stop } = .ok b) :
    (∃ d ∈ before ++ [bound], b.start = some d.start) ∧
      b.stop = (between.map (·.stop)).getLastD bound.stop ∧
      ∀ m ∈ b.decorators, ∃ d ∈ before, lower kind d = .ok m := by
  obtain ⟨b₁, h₁, hstart, hdecorators⟩ := scan_before hbefore h
  obtain ⟨hbound, hbetween⟩ := List.forall_mem_cons.1 hbetween
  have hdecorators : ∀ m ∈ b₁.decorators, ∃ d ∈ before, lower kind d = .ok m :=
    fun m hm => (hdecorators m hm).resolve_left nofun
  have hstart : ∃ d ∈ before ++ [bound], b₁.start.or (some bound.start) = some d.start := by
    rcases hstart with heq | ⟨d, hd, heq⟩
    · exact ⟨bound, by simp, by rw [heq]; rfl⟩
    · exact ⟨d, List.mem_append_left _ hd, by rw [heq]; rfl⟩
  obtain ⟨d, hd, hstart⟩ := hstart
  rw [scan_cons hbound, scan_after hbetween hafter hstart] at h₁
  cases h₁
  exact ⟨⟨d, hd, hstart⟩, rfl, hdecorators⟩

theorem stop_le_last {bound : Concrete} {between : List Concrete}
    (hle : ∀ d ∈ between, d.start ≤ d.stop)
    (hordered : (bound :: between).Pairwise fun d e => d.stop ≤ e.start) :
    (∃ e ∈ bound :: between, (between.map (·.stop)).getLastD bound.stop = e.stop) ∧
      ∀ d ∈ bound :: between, d.stop ≤ (between.map (·.stop)).getLastD bound.stop := by
  induction between generalizing bound with
  | nil => simp
  | cons x between ih =>
    obtain ⟨hx, hle⟩ := List.forall_mem_cons.1 hle
    obtain ⟨hbound, hordered⟩ := List.pairwise_cons.1 hordered
    obtain ⟨⟨e, he, heq⟩, hlast⟩ := ih hle hordered
    rw [List.map_cons, List.getLastD_cons]
    refine ⟨⟨e, List.mem_cons_of_mem _ he, heq⟩, List.forall_mem_cons.2 ⟨?_, hlast⟩⟩
    have hfirst := hbound x List.mem_cons_self
    have hnext := hlast x List.mem_cons_self
    omega

/-- Where the binding of a typed parameter starts and ends, and what lies where. -/
structure BindingLayout (source : String) (c bound : Concrete) (b : Binding) (start : Nat) : Prop where
  start_eq : b.start = some start
  offset_start : ∃ i, Utf8.Offset source start i
  offset_stop : ∃ j, Utf8.Offset source b.stop j
  le_start : c.start ≤ start
  start_le : start ≤ bound.start
  bound_le : bound.stop ≤ b.stop
  stop_le : b.stop ≤ c.stop
  type : ∀ t, c.child? "type" = some t → bound.start ≤ t.start ∧ t.stop ≤ b.stop
  value : ∀ v, c.child? "value" = some v → b.stop ≤ v.start
  decorators : ∀ m ∈ b.decorators, Fits source c.start bound.start m

end Scan

section Nests

variable (hl : Nests source lower) (hc : c.IsOrderly source)
include hl hc

theorem layout_of_scan {bound : Concrete} {b : Binding} {stop : Nat} (horder : c.HasParameterOrder)
    (hbound : c.child? "pattern" = some bound)
    (h : scan (Utf8.Encoded.ofString source) lower c.kind c.children { stop } = .ok b) :
    ∃ start, BindingLayout source c bound b start := by
  obtain ⟨before, between, after, hchildren, hbefore, hbetween, htype, hafter, hvalue⟩ :=
    horder bound hbound
  rw [hchildren] at h
  obtain ⟨⟨first, hfirst, hstart⟩, hstop, hdecorators⟩ := scan_ordered hbefore hbetween hafter h
  have hplaced := hc.placed.placed
  have hordered := hplaced.ordered
  have hmem : ∀ d, d ∈ c.children ↔ d ∈ before ∨ d ∈ bound :: between ∨ d ∈ after := by
    intro d
    rw [hchildren]
    simp [or_assoc]
  have hchild : ∀ d ∈ c.children, d.IsPlaced source := fun d hd => (hc.of_child hd).placed.placed
  rw [hchildren, List.pairwise_append] at hordered
  obtain ⟨_, hordered, hfront⟩ := hordered
  rw [← List.cons_append, List.pairwise_append] at hordered
  obtain ⟨hordered, _, hback⟩ := hordered
  have hboundMem : bound ∈ c.children := (hmem bound).2 (.inr (.inl List.mem_cons_self))
  have hbefore : ∀ d ∈ before, d.stop ≤ bound.start := fun d hd =>
    hfront d hd bound (by simp)
  obtain ⟨⟨last, hlast, hlastEq⟩, hle⟩ := stop_le_last
    (fun d hd => (hchild d ((hmem d).2 (.inr (.inl (List.mem_cons_of_mem _ hd))))).le) hordered
  rw [← hstop] at hlastEq hle
  have hlastMem : last ∈ c.children := (hmem last).2 (.inr (.inl hlast))
  -- the scan starts with a modifier before the binding, or with the binding
  have hfirstMem : first ∈ c.children ∧ first.start ≤ bound.start := by
    rcases List.mem_append.1 hfirst with hd | hd
    · have hmem := (hmem first).2 (.inl hd)
      exact ⟨hmem, (hchild first hmem).le.trans (hbefore first hd)⟩
    · obtain rfl := List.mem_singleton.1 hd
      exact ⟨hboundMem, Nat.le_refl _⟩
  refine ⟨first.start, hstart, (hchild first hfirstMem.1).start,
    hlastEq ▸ (hchild last hlastMem).stop, (hplaced.within first hfirstMem.1).1, hfirstMem.2,
    hle bound List.mem_cons_self, hlastEq ▸ (hplaced.within last hlastMem).2, ?_, ?_, ?_⟩
  · intro t ht
    have ht := htype t ht
    have hbt := (List.pairwise_cons.1 hordered).1 t ht
    exact ⟨(hchild bound hboundMem).le.trans hbt, hle t (List.mem_cons_of_mem _ ht)⟩
  · intro v hv
    exact hlastEq ▸ hback last hlast v (hvalue v hv)
  · intro m hm
    obtain ⟨d, hd, hm⟩ := hdecorators m hm
    have hmem := (hmem d).2 (.inl hd)
    exact (hl _ d m (hc.of_child hmem) hm).mono (hplaced.within d hmem).1 (hbefore d hd)

/-- A binding that is given the range from `a` to `b` fits there, and ends after its pattern
starts. -/
theorem fits_pattern {kind : String} {declared : Option Node} {optional : Bool}
    (hi : Utf8.Offset source a i) (hj : Utf8.Offset source b j) (ha : a ≤ c.start) (hb : c.stop ≤ b)
    (hdeclared : ∀ m ∈ declared, Fits source a b m)
    (h : pattern (Utf8.Encoded.ofString source) lower c kind ⟨i, j⟩ declared optional = .ok n) :
    Fits source a b n ∧ ∀ k, Utf8.Offset source c.start k → k ≤ n.stop := by
  have hle := hc.placed.placed.le
  have hab : a ≤ b := by omega
  have hstop : ∀ k, Utf8.Offset source c.start k → (k : Int) ≤ j := fun k hk =>
    Int.ofNat_le.2 (hk.le_of_byte_le hj (by omega))
  unfold pattern at h
  split at h
  · obtain ⟨name, _, h⟩ := Except.bind_eq_ok h
    cases h
    exact ⟨fits_of_children rfl hi hj hab rfl ⟨hdeclared, by simp⟩, hstop⟩
  · obtain ⟨name, _, h⟩ := Except.bind_eq_ok h
    cases h
    exact ⟨fits_of_children rfl hi hj hab rfl ⟨hdeclared, by simp⟩, hstop⟩
  · obtain ⟨x, hx, h⟩ := Except.bind_eq_ok h
    cases h
    have hx := (fits_restArgument hl hc hx).mono ha hb
    exact ⟨fits_of_children rfl hi hj hab rfl ⟨hx, hdeclared, by simp⟩, hstop⟩
  · obtain ⟨ps, hps, h⟩ := Except.bind_eq_ok h
    cases h
    have hps := fun m hm => (fits_parts hl hc hps m hm).mono ha hb
    exact ⟨fits_of_children rfl hi hj hab rfl ⟨hps, hdeclared, by simp⟩, hstop⟩
  · obtain ⟨es, hes, h⟩ := Except.bind_eq_ok h
    cases h
    have hes := fun m hm => (fits_parts hl hc hes m hm).mono ha hb
    exact ⟨fits_of_children rfl hi hj hab rfl ⟨hes, hdeclared, by simp⟩, hstop⟩
  · have hn := hl _ c n hc h
    refine ⟨hn.mono ha hb, fun k hk => ?_⟩
    obtain ⟨x, y, k', l, hx, hxy, _, hk', hl, hspan⟩ := hn.1
    rw [Node.stop, hspan]
    exact Int.ofNat_le.2 (hk.le_of_byte_le hl (hx.trans hxy))

/-- A binding with its default fits from where it starts, and ends no earlier than without. -/
theorem fits_withValue {plain : Node} {k : Nat} (hi : Utf8.Offset source a i)
    (hj : Utf8.Offset source b j) (hab : a ≤ b) (hb : b ≤ c.stop)
    (hvalue : ∀ v, c.child? "value" = some v → b ≤ v.start) (hplain : Fits source a b plain)
    (hk : k ≤ plain.stop) (hkj : k ≤ j)
    (h : withValue (Utf8.Encoded.ofString source) lower c ⟨i, j⟩ plain = .ok n) :
    Fits source a c.stop n ∧ k ≤ n.stop := by
  unfold withValue at h
  split at h
  · cases h
    exact ⟨hplain.mono (Nat.le_refl _) hb, hk⟩
  · next v hv =>
    obtain ⟨stop, hstop, h⟩ := Except.bind_eq_ok h
    obtain ⟨right, hright, h⟩ := Except.bind_eq_ok h
    cases h
    have hmem := Concrete.mem_children_of_child? hv
    have hplaced := (hc.of_child hmem).placed.placed
    obtain ⟨l, hl'⟩ := hplaced.stop
    rw [char_of_offset hl'] at hstop
    cases hstop
    have hle := hplaced.le
    have hbv := hvalue v hv
    have hright := hl _ v right (hc.of_child hmem) hright
    have hto := (hc.placed.placed.within v hmem).2
    have hfits : Fits source a v.stop (.assignmentPattern ⟨i, l⟩ plain right []) :=
      fits_of_children rfl hi hl' (by omega) rfl
        ⟨hplain.mono (Nat.le_refl _) (by omega), hright.mono (by omega) (Nat.le_refl _), by simp⟩
    have hjl := hj.le_of_byte_le hl' (by omega)
    refine ⟨hfits.mono (Nat.le_refl _) hto, ?_⟩
    change (k : Int) ≤ l
    omega

omit hl hc in
/-- A binding with its decorators fits from where these start, if they end before it does. -/
theorem fits_decorate {ds : List Node} {k : Nat} (hi : Utf8.Offset source a i)
    (hk : Utf8.Offset source a' k) (ha : a ≤ b) (hn : Fits source b b' n) (hstop : k ≤ n.stop)
    (hds : ∀ m ∈ ds, Fits source a a' m) : Fits source a b' (decorate i ds n) := by
  obtain ⟨x, y, u, w, hx, hxy, hy, hu, hw, hspan⟩ := hn.1
  have hiu := hi.le_of_byte_le hu (ha.trans hx)
  have hbetween : Between source a b' ⟨i, n.span.stop⟩ := by
    rw [hspan]
    exact ⟨a, y, i, w, Nat.le_refl _, by omega, hy, hi, hw, rfl⟩
  have hwithin : n.span.Within ⟨i, n.span.stop⟩ := by
    rw [hspan]
    unfold Span.Within
    dsimp only
    omega
  have hsits : ∀ m : Node, m.SitsIn source.length n.span → m.SitsIn source.length ⟨i, n.span.stop⟩ :=
    fun m hm => hm.mono hwithin
  have hds : ∀ m ∈ ds, m.SitsIn source.length ⟨i, n.span.stop⟩ := by
    intro m hm
    refine ((hds m hm).sitsIn hi hk).mono ⟨Int.le_refl _, hstop⟩
  -- each binding keeps its children but for the decorators
  cases n with
  | identifier =>
    obtain ⟨_, ht, _⟩ := (encloses_iff rfl).1 hn.2
    exact ⟨hbetween, (encloses_iff rfl).2 ⟨hbetween.inText, fun m hm => hsits m (ht m hm), hds⟩⟩
  | assignmentPattern =>
    obtain ⟨_, hl, hr, _⟩ := (encloses_iff rfl).1 hn.2
    exact ⟨hbetween, (encloses_iff rfl).2 ⟨hbetween.inText, hsits _ hl, hsits _ hr, hds⟩⟩
  | restElement =>
    obtain ⟨_, harg, ht, _⟩ := (encloses_iff rfl).1 hn.2
    exact ⟨hbetween, (encloses_iff rfl).2
      ⟨hbetween.inText, hsits _ harg, fun m hm => hsits m (ht m hm), hds⟩⟩
  | objectPattern =>
    obtain ⟨_, hps, ht, _⟩ := (encloses_iff rfl).1 hn.2
    exact ⟨hbetween, (encloses_iff rfl).2 ⟨hbetween.inText, fun m hm => hsits m (hps m hm),
      fun m hm => hsits m (ht m hm), hds⟩⟩
  | arrayPattern =>
    obtain ⟨_, hes, ht, _⟩ := (encloses_iff rfl).1 hn.2
    exact ⟨hbetween, (encloses_iff rfl).2 ⟨hbetween.inText, fun m hm => hsits m (hes m hm),
      fun m hm => hsits m (ht m hm), hds⟩⟩
  | _ => exact hn.mono ha (Nat.le_refl _)

theorem fits_parameter {optional : Bool} (horder : c.HasParameterOrder)
    (h : parameter (Utf8.Encoded.ofString source) lower c optional = .ok n) :
    Fits source c.start c.stop n := by
  obtain ⟨declared, hdeclared, h⟩ := Except.bind_eq_ok h
  obtain ⟨bound, hbound, h⟩ := Except.bind_eq_ok h
  obtain ⟨b, hb, h⟩ := Except.bind_eq_ok h
  obtain ⟨s, hs, h⟩ := Except.bind_eq_ok h
  obtain ⟨plain, hplain, h⟩ := Except.bind_eq_ok h
  obtain ⟨binding, hbinding, h⟩ := Except.bind_eq_ok h
  obtain ⟨outer, houter, h⟩ := Except.bind_eq_ok h
  have hplaced := hc.placed.placed
  have hbound := need_eq_ok hbound
  have hboundMem := Concrete.mem_children_of_child? hbound
  have hboundPlaced := (hc.of_child hboundMem).placed.placed
  obtain ⟨start, hlayout⟩ := layout_of_scan hl hc horder hbound hb
  obtain ⟨hstart, ⟨i, hi⟩, ⟨j, hj⟩, hfrom, hto, hboundLe, hstopLe, htype, hvalue, hdecorators⟩ :=
    hlayout
  obtain ⟨k, hk⟩ := hboundPlaced.start
  obtain ⟨o, ho⟩ := hplaced.start
  obtain ⟨e, he⟩ := hplaced.stop
  have hboundOrder := hboundPlaced.le
  rw [hstart, Option.getD_some] at hs houter
  -- the binding starts where the parameter does, or after its modifiers
  have hbegin : ∃ x u, (if b.promoted then bound.start else start) = x ∧ Utf8.Offset source x u ∧
      start ≤ x ∧ x ≤ bound.start := by
    split
    · exact ⟨_, k, rfl, hk, hto, Nat.le_refl _⟩
    · exact ⟨_, i, rfl, hi, Nat.le_refl _, hto⟩
  obtain ⟨x, u, hx, hu, hstartx, hxbound⟩ := hbegin
  rw [hx, span_of_offset hu hj] at hs
  cases hs
  have hdeclared : ∀ m ∈ declared, Fits source x b.stop m := by
    intro m hm
    obtain ⟨t, ht, hm⟩ := fits_annotated? hl hc hdeclared m hm
    obtain ⟨hfrom, hto⟩ := htype t ht
    exact hm.mono (hxbound.trans hfrom) hto
  obtain ⟨hplain, hstop⟩ := fits_pattern hl (hc.of_child hboundMem) hu hj hxbound hboundLe
    hdeclared hplain
  obtain ⟨hbinding, hstop⟩ := fits_withValue hl hc hu hj (by omega) hstopLe hvalue hplain
    (hstop k hk) (hk.le_of_byte_le hj (by omega)) hbinding
  by_cases hempty : b.decorators.isEmpty
  · rw [if_pos hempty, char_of_offset hi] at houter
    cases houter
    split at h
    · obtain ⟨stop, hstop, h⟩ := Except.bind_eq_ok h
      rw [char_of_offset he] at hstop
      cases hstop
      cases h
      rw [List.isEmpty_iff.1 hempty]
      refine Fits.mono (a := start) (b := c.stop) ?_ hfrom (Nat.le_refl _)
      exact fits_of_children rfl hi he (by omega) rfl
        ⟨hbinding.mono hstartx (Nat.le_refl _), by simp⟩
    · cases h
      exact hbinding.mono (by omega) (Nat.le_refl _)
  · rw [if_neg hempty, char_of_offset ho] at houter
    cases houter
    split at h
    · obtain ⟨stop, hstop, h⟩ := Except.bind_eq_ok h
      rw [char_of_offset he] at hstop
      cases hstop
      cases h
      exact fits_of_children rfl ho he (by omega) rfl
        ⟨hbinding.mono (by omega) (Nat.le_refl _),
          fun m hm => (hdecorators m hm).mono (Nat.le_refl _) (by omega)⟩
    · cases h
      exact fits_decorate ho hk (by omega) hbinding hstop hdecorators

theorem fits_target {bound : Concrete} (horder : c.HasFieldOrder ["name", "type", "value"])
    (hbound : c.child? "name" = some bound)
    (h : target (Utf8.Encoded.ofString source) lower c bound = .ok n) :
    Fits source c.start c.stop n := by
  have hplaced := hc.placed.placed
  have hmem := Concrete.mem_children_of_child? hbound
  have hboundPlaced := (hc.of_child hmem).placed.placed
  unfold target at h
  split at h
  · obtain ⟨s, hs, h⟩ := Except.bind_eq_ok h
    obtain ⟨name, _, h⟩ := Except.bind_eq_ok h
    obtain ⟨t, ht, h⟩ := Except.bind_eq_ok h
    cases h
    obtain ⟨i, hi⟩ := hboundPlaced.start
    obtain ⟨hfrom, hto⟩ := hplaced.within bound hmem
    have hle := hboundPlaced.le
    -- where the type ends if there is one, and else the name itself
    have hend : ∃ y j, (c.child? "type").elim bound.stop (·.stop) = y ∧ Utf8.Offset source y j ∧
        bound.stop ≤ y ∧ y ≤ c.stop ∧
        ∀ d, c.child? "type" = some d → bound.start ≤ d.start ∧ d.stop = y := by
      cases htype : c.child? "type" with
      | none =>
        obtain ⟨j, hj⟩ := hboundPlaced.stop
        exact ⟨_, j, rfl, hj, Nat.le_refl _, hto, nofun⟩
      | some d =>
        have hd := Concrete.mem_children_of_child? htype
        have hdPlaced := (hc.of_child hd).placed.placed
        obtain ⟨j, hj⟩ := hdPlaced.stop
        have hbetween := hplaced.stop_le_start horder (by decide) hbound htype
        refine ⟨_, j, rfl, hj, hbetween.trans hdPlaced.le, (hplaced.within d hd).2, ?_⟩
        rintro e ⟨⟩
        exact ⟨hle.trans hbetween, rfl⟩
    obtain ⟨y, j, hy, hj, hboundy, hystop, htype⟩ := hend
    rw [hy, span_of_offset hi hj] at hs
    cases hs
    have hfits : ∀ m ∈ t, Fits source bound.start y m := by
      intro m hm
      obtain ⟨d, hd, hm⟩ := fits_annotated? hl hc ht m hm
      obtain ⟨hstart, rfl⟩ := htype d hd
      exact hm.mono hstart (Nat.le_refl _)
    refine Fits.mono (a := bound.start) (b := y) ?_ hfrom hystop
    exact fits_of_children rfl hi hj (hle.trans hboundy) rfl ⟨hfits, by simp⟩
  · exact fits_lower hl hc hmem h

theorem fits_declarator (horder : c.HasFieldOrder ["name", "type", "value"])
    (h : declarator (Utf8.Encoded.ofString source) lower c = .ok n) :
    Fits source c.start c.stop n := by
  obtain ⟨bound, hbound, h⟩ := Except.bind_eq_ok h
  obtain ⟨id, hid, h⟩ := Except.bind_eq_ok h
  obtain ⟨s, hs, h⟩ := Except.bind_eq_ok h
  obtain ⟨init, hinit, h⟩ := Except.bind_eq_ok h
  cases h
  exact fits_of_spanOf hc.placed.placed rfl hs ⟨fits_target hl hc horder (need_eq_ok hbound) hid,
    fun m hm => fits_of_field hc (fits_child? hl hc hinit m hm)⟩

theorem fits_assignment (h : assignment (Utf8.Encoded.ofString source) lower c = .ok n) :
    Fits source c.start c.stop n := by
  obtain ⟨s, hs, h⟩ := Except.bind_eq_ok h
  obtain ⟨left, hleft, h⟩ := Except.bind_eq_ok h
  obtain ⟨right, hright, h⟩ := Except.bind_eq_ok h
  obtain ⟨operator, _, h⟩ := Except.bind_eq_ok h
  cases h
  exact fits_of_spanOf hc.placed.placed rfl hs ⟨fits_child hl hc hleft, fits_child hl hc hright⟩

omit hl in
theorem fits_shorthand (h : shorthand (Utf8.Encoded.ofString source) c = .ok n) :
    Fits source c.start c.stop n := by
  unfold shorthand at h
  split at h
  · cases h
  · next d ds hd =>
    obtain ⟨nameSpan, hname, h⟩ := Except.bind_eq_ok h
    obtain ⟨name, _, h⟩ := Except.bind_eq_ok h
    obtain ⟨s, hs, h⟩ := Except.bind_eq_ok h
    cases h
    have hmem := Concrete.mem_children_of_mem_parts (hd ▸ List.mem_cons_self)
    have hbare : Fits source d.start d.stop (bareName nameSpan (.str name)) :=
      fits_of_spanOf (hc.of_child hmem).placed.placed rfl hname ⟨by simp, by simp⟩
    exact fits_of_spanOf hc.placed.placed rfl hs (fits_of_mem_children hc.placed.placed hmem hbare)

theorem fits_other (h : other (Utf8.Encoded.ofString source) lower c = .ok n) :
    Fits source c.start c.stop n := by
  obtain ⟨s, hs, h⟩ := Except.bind_eq_ok h
  obtain ⟨body, hbody, h⟩ := Except.bind_eq_ok h
  cases h
  exact fits_of_spanOf hc.placed.placed rfl hs (fits_parts hl hc hbody)

theorem fits_pair {first second : String} {make : Span → Node → Node → Node}
    (h : (do
      let s ← spanOf (Utf8.Encoded.ofString source) c
      let a ← child lower c first
      let b ← child lower c second
      .ok (make s a b)) = .ok n)
    (hmake : ∀ s a b, (make s a b).isMethod = false ∧ (make s a b).span = s)
    (hchildren : ∀ {s a b}, Fits source c.start c.stop a → Fits source c.start c.stop b →
      (make s a b).EachChild (Fits source c.start c.stop)) : Fits source c.start c.stop n := by
  obtain ⟨s, hs, h⟩ := Except.bind_eq_ok h
  obtain ⟨a, ha, h⟩ := Except.bind_eq_ok h
  obtain ⟨b, hb, h⟩ := Except.bind_eq_ok h
  cases h
  obtain ⟨hmethod, hspan⟩ := hmake s a b
  exact fits_of_spanOf hc.placed.placed hmethod (hs.trans (congrArg _ hspan.symm))
    (hchildren (fits_child hl hc ha) (fits_child hl hc hb))

theorem fits_node {parent : Option String}
    (h : node (Utf8.Encoded.ofString source) lower parent c = .ok n) :
    Fits source c.start c.stop n := by
  have hplaced := hc.placed.placed
  have horder := hc.self
  unfold Concrete.HasGrammarOrder at horder
  unfold node at h
  cases hform : Form.ofKind c.kind <;> rw [hform] at h horder <;> dsimp only at h horder
  case parenthesized =>
    split at h
    · exact fits_other hl hc h
    · next d ds hd =>
      exact fits_lower hl hc (Concrete.mem_children_of_mem_parts (hd ▸ List.mem_cons_self)) h
  case function =>
    obtain ⟨s, hs, h⟩ := Except.bind_eq_ok h
    obtain ⟨p, hp, h⟩ := Except.bind_eq_ok h
    cases h
    exact fits_plainFunction hl hc hp hs _
  case arrow => exact fits_arrow hl hc h
  case method => exact fits_method hl hc horder h
  case parameter => exact fits_parameter hl hc horder h
  case name =>
    obtain ⟨s, hs, h⟩ := Except.bind_eq_ok h
    obtain ⟨name, _, h⟩ := Except.bind_eq_ok h
    cases h
    exact fits_of_spanOf hplaced rfl hs ⟨by simp, by simp⟩
  case assignmentPattern =>
    exact fits_pair hl hc h (fun _ _ _ => ⟨rfl, rfl⟩) fun ha hb => ⟨ha, hb, by simp⟩
  case rest =>
    obtain ⟨s, hs, h⟩ := Except.bind_eq_ok h
    obtain ⟨a, ha, h⟩ := Except.bind_eq_ok h
    cases h
    exact fits_of_spanOf hplaced rfl hs ⟨fits_restArgument hl hc ha, by simp, by simp⟩
  case objectPattern | arrayPattern =>
    obtain ⟨s, hs, h⟩ := Except.bind_eq_ok h
    obtain ⟨ns, hns, h⟩ := Except.bind_eq_ok h
    cases h
    exact fits_of_spanOf hplaced rfl hs ⟨fits_parts hl hc hns, by simp, by simp⟩
  case call =>
    split at h
    · next args hargs =>
      split at h
      · obtain ⟨s, hs, h⟩ := Except.bind_eq_ok h
        obtain ⟨callee, hcallee, h⟩ := Except.bind_eq_ok h
        obtain ⟨ns, hns, h⟩ := Except.bind_eq_ok h
        cases h
        have hmem := Concrete.mem_children_of_child? hargs
        exact fits_of_spanOf hplaced rfl hs ⟨fits_child hl hc hcallee, fun m hm =>
          fits_of_mem_children hplaced hmem (fits_parts hl (hc.of_child hmem) hns m hm)⟩
      · exact fits_other hl hc h
    · exact fits_other hl hc h
  case member | subscript | pair =>
    exact fits_pair hl hc h (fun _ _ _ => ⟨rfl, rfl⟩) fun ha hb => ⟨ha, hb⟩
  case shorthand => exact fits_shorthand hc h
  case assignment => exact fits_assignment hl hc h
  case declarator => exact fits_declarator hl hc horder h
  case literal =>
    obtain ⟨raw, _, h⟩ := Except.bind_eq_ok h
    obtain ⟨s, hs, h⟩ := Except.bind_eq_ok h
    cases h
    exact fits_of_spanOf hplaced rfl hs trivial
  case other => exact fits_other hl hc h

end Nests

/-- Every node is lowered to one that fits where it is, however deep the concrete tree is. -/
theorem fits_ofConcrete {levels : Nat} {parent : Option String} (hc : c.IsOrderly source)
    (h : ofConcrete (Utf8.Encoded.ofString source) levels parent c = .ok n) :
    Fits source c.start c.stop n := by
  induction levels generalizing parent c n with
  | zero => cases h
  | succ levels ih => exact fits_node (fun p d n hd hn => ih hd hn) hc h

end Lower

section Visits

variable {t : Tree} {v : Visit} {length : Nat}

/-- The range in which the name of a visited function may lie. -/
def Visit.outer (v : Visit) : Option Span := v.parent.bind fun (p, role) => p.reach role

theorem Tree.Occurs.encloses (hv : t.Occurs v) (h : t.root.Encloses length none) :
    v.node.Encloses length v.outer := by
  induction hv with
  | refl => exact h
  | step _ hv ih =>
    obtain ⟨e, i, hm, rfl⟩ := Visit.mem_offspring.1 hv
    cases ih with
    | intro _ _ hbelow => exact hbelow e (Node.mem_edges_of_mem_links hm)

/-- The visit is of the function of a method, at `p`. -/
structure Visit.IsFunctionOf (p v : Visit) : Prop where
  child : v ∈ p.offspring
  method : p.node.isMethod
  place : v.parent = some (p.node, .value)
  expression : v.node.type = .str FunctionKind.expression.name

/-- In a tree over an orderly concrete tree every node lies in the source, and every child in its
parent. Only the name of a method's function may lie outside of the function, and then it lies in
the method. -/
theorem treeOver_encloses {limits : Limits} {source language path : String} {c : Concrete}
    (htree : treeOver limits source language path c = .ok t) (hc : c.IsOrderly source)
    (hv : t.Occurs v) :
    v.node.span.InText source.length ∧ ∀ u ∈ v.offspring, u.node.span.Within v.node.span ∨
      ∃ p, t.Occurs p ∧ p.IsFunctionOf v ∧ u.parent = some (v.node, .id) ∧
        u.node.span.Within p.node.span := by
  have hroot := (Lower.fits_ofConcrete hc (treeOver_eq_ok htree)).2
  have hencloses := Tree.Occurs.encloses hv hroot
  refine ⟨hencloses.inText, fun u hu => ?_⟩
  obtain ⟨e, i, hm, rfl⟩ := Visit.mem_offspring.1 hu
  cases hencloses with
  | intro _ hwithin _ =>
    rcases hwithin e (Node.mem_edges_of_mem_links hm) with h | ⟨hid, htype, s, hs, hsits⟩
    · exact .inl h
    · cases hv with
      | refl => cases hs
      | @step p _ hp hvp =>
        obtain ⟨f, k, hf, rfl⟩ := Visit.mem_offspring.1 hvp
        change s ∈ p.node.reach f.1 at hs
        unfold Node.reach at hs
        split at hs
        · next hmethod =>
          cases hs
          refine .inr ⟨p, hp, ⟨hvp, hmethod.1, ?_, htype⟩, ?_, hsits⟩
          · rw [Visit.follow, hmethod.2]
          · rw [Visit.follow, hid]
        · cases hs

end Visits

section Instances

open Node Concrete

def promotedSource : String := "class A \x7b m(private é: T = 1) \x7b\x7d \x7d"

/-- `private é: T = 1` -/
def promotedParam : Concrete :=
  .node (token "required_parameter" 12 29 none)
    [.node (token "accessibility_modifier" 12 19 none) [mark "private" 12],
      .node (token "identifier" 20 22 (some "pattern")) [],
      .node (token "type_annotation" 22 25 (some "type"))
        [mark ":" 22, .node (token "type_identifier" 24 25 none) []],
      mark "=" 26, .node (token "number" 28 29 (some "value")) []]

def promotedTree : Concrete :=
  classTree (.node (token "property_identifier" 10 11 (some "name")) [])
    (.node (token "formal_parameters" 11 30 (some "parameters"))
      [mark "(" 11, promotedParam, mark ")" 29])

theorem isOrderly_promotedTree : promotedTree.IsOrderly promotedSource := by
  refine ⟨by decide +kernel, fun d hd => ?_⟩
  have hnode : ∀ form, Form.ofKind d.kind = form →
      d ∈ promotedTree.nodes.filter fun d => Form.ofKind d.kind = form :=
    fun form hform => List.mem_filter.2 ⟨hd, by simp [hform]⟩
  -- there is one parameter, one method and no declaration
  unfold HasGrammarOrder
  split
  · next optional hform =>
    cases optional with
    | true => exact absurd (hnode _ hform) List.not_mem_nil
    | false =>
      obtain rfl : d = promotedParam := List.mem_singleton.1 (hnode _ hform)
      rintro bound ⟨⟩
      exact ⟨[_], [_], [_, _], rfl, by decide, by decide, by rintro t ⟨⟩; simp,
        by rintro e ⟨⟩; rfl, by rintro v ⟨⟩; simp⟩
  · next hform => exact absurd (hnode _ hform) List.not_mem_nil
  · next hform =>
    obtain rfl : d = _ := List.mem_singleton.1 (hnode _ hform)
    exact List.Sublist.refl _
  · trivial

def promotedMethod : Node :=
  .methodDefinition ⟨10, 32⟩ (.bareName ⟨10, 11⟩ (.str "m"))
    (.function ⟨11, 32⟩ .expression
      [.parameterProperty ⟨12, 28⟩
        (.assignmentPattern ⟨20, 28⟩
          (.identifier ⟨20, 24⟩ (.str "é") (some (.other ⟨23, 24⟩ (.str "type_identifier") []))
            false [])
          (.literal ⟨27, 28⟩ .number (.str "1") (.str "1")) [])
        (.str "private") false false []]
      (some (.bareName ⟨10, 11⟩ (.str "m"))) (some (.other ⟨30, 32⟩ (.str "statement_block") []))
      none)
    (.str "method") false

def promotedRoot : Node :=
  .other ⟨0, 34⟩ (.str "program")
    [.other ⟨0, 34⟩ (.str "class_declaration")
      [.bareName ⟨6, 7⟩ (.str "A"), .other ⟨8, 34⟩ (.str "class_body") [promotedMethod]]]

theorem treeOver_promotedTree :
    treeOver wideLimits promotedSource Language.typescript.name "a.ts" promotedTree =
      .ok (.build promotedRoot (SourceText.ofString promotedSource)) := rfl

/-- The name of the method lies before its function. -/
theorem promotedTree_encloses :
    promotedTree.IsOrderly promotedSource ∧
      ∃ v u, (Tree.build promotedRoot (SourceText.ofString promotedSource)).Occurs v ∧
        v.node.span = ⟨11, 32⟩ ∧ u ∈ v.offspring ∧ u.node.span = ⟨10, 11⟩ ∧
        v.node.span.InText promotedSource.length ∧
        ∃ p : Visit, p.IsFunctionOf v ∧ u.parent = some (v.node, .id) ∧
          u.node.span.Within p.node.span := by
  have hclass : (Tree.build promotedRoot (SourceText.ofString promotedSource)).Occurs _ :=
    .step .refl (List.mem_of_getElem? (i := 0) rfl)
  have hbody := hclass.step (List.mem_of_getElem? (i := 1) rfl)
  have hmethod := hbody.step (List.mem_of_getElem? (i := 0) rfl)
  have hvalue := hmethod.step (List.mem_of_getElem? (i := 1) rfl)
  obtain ⟨htext, hchildren⟩ :=
    treeOver_encloses treeOver_promotedTree isOrderly_promotedTree hvalue
  refine ⟨isOrderly_promotedTree, _, _, hvalue, rfl, List.mem_of_getElem? (i := 1) rfl, rfl, htext,
    ?_⟩
  rcases hchildren _ (List.mem_of_getElem? (i := 1) rfl) with h | ⟨p, _, hp, hid, hwithin⟩
  · exact absurd h.1 (by decide)
  · exact ⟨p, hp, hid, hwithin⟩

end Instances

end ArityLint
