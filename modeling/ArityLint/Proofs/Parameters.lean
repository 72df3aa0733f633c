import ArityLint.Proofs.Offsets
import ArityLint.Proofs.Origins
import ArityLint.Proofs.Patches
import ArityLint.Proofs.Rounds

namespace ArityLint

namespace Concrete

def plainKinds : List String :=
  ["identifier", "assignment_pattern", "rest_pattern", "object_pattern", "array_pattern"]

def boundKinds : List String :=
  ["identifier", "this", "rest_pattern", "object_pattern", "array_pattern"]

/-- The range of a node starts and ends with characters and holds its children, one after the
other. -/
structure IsPlaced (source : String) (c : Concrete) : Prop where
  start : ∃ i, Utf8.Offset source c.start i
  stop : ∃ i, Utf8.Offset source c.stop i
  le : c.start ≤ c.stop
  within : ∀ d ∈ c.children, c.start ≤ d.start ∧ d.stop ≤ c.stop
  ordered : c.children.Pairwise fun d e => d.stop ≤ e.start

instance (source : String) (c : Concrete) : Decidable (c.IsPlaced source) :=
  decidable_of_iff ((∃ i, Utf8.Offset source c.start i) ∧ (∃ i, Utf8.Offset source c.stop i) ∧
      c.start ≤ c.stop ∧ (∀ d ∈ c.children, c.start ≤ d.start ∧ d.stop ≤ c.stop) ∧
      c.children.Pairwise fun d e => d.stop ≤ e.start)
    ⟨fun ⟨h₁, h₂, h₃, h₄, h₅⟩ => ⟨h₁, h₂, h₃, h₄, h₅⟩,
      fun ⟨h₁, h₂, h₃, h₄, h₅⟩ => ⟨h₁, h₂, h₃, h₄, h₅⟩⟩

/-- A typed parameter starts with its first child and ends with its last one; a value is the last,
and only a value is preceded by `=`. -/
def IsTyped (c : Concrete) : Prop :=
  (c.kind = "required_parameter" ∨ c.kind = "optional_parameter") ∧
    (∃ p ∈ c.child? "pattern", p.kind ∈ boundKinds) ∧
    (∃ d ∈ c.children.head?, d.start = c.start) ∧ (∃ d ∈ c.children.getLast?, d.stop = c.stop) ∧
    (∀ v ∈ c.child? "value", v.stop = c.stop) ∧
    (c.child? "value" = none → ∀ d ∈ c.children, d.isMark "=" = false)

instance (c : Concrete) : Decidable c.IsTyped :=
  show Decidable (_ ∧ _ ∧ _ ∧ _ ∧ _ ∧ _) from inferInstance

/-- All ranges of a tree are as in a source, and all parameters of its functions are of known
kinds. -/
structure IsLaidOut (source : String) (c : Concrete) : Prop where
  placed : ∀ d ∈ c.nodes, d.IsPlaced source
  params : ∀ d ∈ c.functionLikes, ∀ list ∈ d.child? "parameters", ∀ p ∈ list.parts,
    p.kind ∈ plainKinds ∨ p.IsTyped

instance (source : String) (c : Concrete) : Decidable (c.IsLaidOut source) :=
  decidable_of_iff ((∀ d ∈ c.nodes, d.IsPlaced source) ∧ ∀ d ∈ c.functionLikes,
      ∀ list ∈ d.child? "parameters", ∀ p ∈ list.parts, p.kind ∈ plainKinds ∨ p.IsTyped)
    ⟨fun ⟨h₁, h₂⟩ => ⟨h₁, h₂⟩, fun ⟨h₁, h₂⟩ => ⟨h₁, h₂⟩⟩

end Concrete

namespace Lower

open Node

variable {code : Utf8.Encoded} {lower : String → Concrete → Lowering Node} {c : Concrete} {n : Node}

theorem span_eq_ok {start stop : Nat} {s : Span} :
    span code start stop = .ok s ↔ char code start = .ok s.start ∧ char code stop = .ok s.stop := by
  unfold span
  cases char code start with
  | error e => exact ⟨nofun, fun h => nomatch h.1⟩
  | ok i =>
    cases char code stop with
    | error e => exact ⟨nofun, fun h => nomatch h.2⟩
    | ok j =>
      constructor
      · intro h
        cases h
        exact ⟨rfl, rfl⟩
      · rintro ⟨hi, hj⟩
        cases hi
        cases hj
        rfl

/-- Kinds with a meaning of their own in a typed parameter. -/
def markKinds : List String :=
  ["decorator", "accessibility_modifier", "override_modifier", "readonly", "="]

theorem scan_cons {kind : String} {cs : List Concrete} {b : Binding} (h : c.kind ∉ markKinds) :
    scan code lower kind (c :: cs) b =
      scan code lower kind cs { b with start := b.start.or (some c.start), stop := c.stop } := by
  simp only [markKinds, List.mem_cons, not_or] at h
  simp [scan, Concrete.isMark, h]

theorem scan_mark {kind : String} {cs : List Concrete} {b : Binding} {i : Nat}
    (h : c.isMark "=") (hb : b.start = some i) : scan code lower kind (c :: cs) b = .ok b := by
  have hkind : c.kind = "=" := by
    simp only [Concrete.isMark, Bool.and_eq_true, decide_eq_true_eq] at h
    exact h.2
  have hreadonly : c.isMark "readonly" = false := by simp [Concrete.isMark, hkind]
  cases b
  cases hb
  simp [scan, h, hkind, hreadonly]

theorem scan_keeps {kind : String} {cs : List Concrete} {b b' : Binding}
    (h : scan code lower kind cs b = .ok b') :
    b.decorators <+: b'.decorators ∧ (∀ i, b.start = some i → b'.start = some i) ∧
      (b.promoted → b'.promoted) := by
  induction cs generalizing b with
  | nil =>
    cases h
    exact ⟨List.prefix_refl _, fun _ => id, id⟩
  | cons d cs ih =>
    rcases scan_cons_eq_ok h with ⟨m, _, _, h⟩ | ⟨b₁, _, hds, hstart, _, hpromoted, hrest⟩
    · obtain ⟨hds', hstart', hpromoted'⟩ := ih h
      exact ⟨(List.prefix_append _ _).trans hds', hstart', hpromoted'⟩
    · have hfirst : ∀ i, b.start = some i → b₁.start = some i := by
        intro i hi
        rw [hstart, hi, Option.some_or]
      rcases hrest with ⟨_, rfl⟩ | ⟨h, _⟩
      · exact ⟨hds ▸ List.prefix_refl _, hfirst, hpromoted⟩
      · obtain ⟨hds', hstart', hpromoted'⟩ := ih h
        rw [hds] at hds'
        exact ⟨hds', fun i hi => hstart' i (hfirst i hi), fun hb => hpromoted' (hpromoted hb)⟩

theorem scan_start {kind : String} {cs : List Concrete} {b b' : Binding} {d : Concrete}
    (h : scan code lower kind cs b = .ok b') (hb : b.start = none) (hd : cs.head? = some d)
    (hds : b'.decorators = []) : b'.start = some d.start := by
  obtain ⟨rest, rfl⟩ := List.head?_eq_some_iff.1 hd
  rcases scan_cons_eq_ok h with ⟨m, _, _, h⟩ | ⟨b₁, _, _, hstart, _, _, hrest⟩
  · have hkeeps := (scan_keeps h).1
    rw [hds] at hkeeps
    exact absurd (List.prefix_nil.1 hkeeps) (by simp)
  · rw [hb, Option.none_or] at hstart
    rcases hrest with ⟨_, rfl⟩ | ⟨h, _⟩
    · exact hstart
    · exact (scan_keeps h).2.1 _ hstart

/-- With neither decorators nor modifiers a scan that meets no `=` ends where the last child does.
-/
theorem scan_stop {kind : String} {cs : List Concrete} {b b' : Binding}
    (h : scan code lower kind cs b = .ok b') (hds : b'.decorators = [])
    (hpromoted : b'.promoted = false) (hmark : ∀ d ∈ cs, d.isMark "=" = false) :
    b'.stop = (cs.map (·.stop)).getLastD b.stop := by
  induction cs generalizing b with
  | nil =>
    cases h
    rfl
  | cons d cs ih =>
    obtain ⟨hd, hmark⟩ := List.forall_mem_cons.1 hmark
    rw [List.map_cons, List.getLastD_cons]
    rcases scan_cons_eq_ok h with ⟨m, _, _, h⟩ | ⟨b₁, _, _, _, _, _, hrest⟩
    · have hkeeps := (scan_keeps h).1
      rw [hds] at hkeeps
      exact absurd (List.prefix_nil.1 hkeeps) (by simp)
    · rcases hrest with ⟨heq, _⟩ | ⟨h, hb₁ | hstop⟩
      · rw [hd] at heq
        cases heq
      · have hb' := (scan_keeps h).2.2 hb₁
        rw [hpromoted] at hb'
        cases hb'
      · rw [← hstop]
        exact ih h hmark

/-- A binding of a typed parameter has the range it is given, and can bear decorators. -/
theorem span_pattern {bound : Concrete} {kind : String} {s : Span} {declared : Option Node}
    {optional : Bool} (hbound : bound.kind ∈ Concrete.boundKinds)
    (h : pattern code lower bound kind s declared optional = .ok n) :
    n.span = s ∧ ∀ start ds, (decorate start ds n).decorators = ds := by
  unfold pattern at h
  split at h
  · obtain ⟨name, _, h⟩ := Except.bind_eq_ok h
    cases h
    exact ⟨rfl, fun _ _ => rfl⟩
  · obtain ⟨name, _, h⟩ := Except.bind_eq_ok h
    cases h
    exact ⟨rfl, fun _ _ => rfl⟩
  · obtain ⟨a, _, h⟩ := Except.bind_eq_ok h
    cases h
    exact ⟨rfl, fun _ _ => rfl⟩
  · obtain ⟨ps, _, h⟩ := Except.bind_eq_ok h
    cases h
    exact ⟨rfl, fun _ _ => rfl⟩
  · obtain ⟨es, _, h⟩ := Except.bind_eq_ok h
    cases h
    exact ⟨rfl, fun _ _ => rfl⟩
  · -- no other kind is bound
    simp only [Concrete.boundKinds, List.mem_cons, List.not_mem_nil, or_false] at hbound
    rcases hbound with hkind | hkind | hkind | hkind | hkind <;> contradiction

theorem span_withValue {s : Span} {plain : Node} (hplain : plain.span = s)
    (hbears : ∀ start ds, (decorate start ds plain).decorators = ds)
    (h : withValue code lower c s plain = .ok n) :
    n.start = s.start ∧ (∀ start ds, (decorate start ds n).decorators = ds) ∧
      (c.child? "value" = none → n.stop = s.stop) ∧
      ∀ v, c.child? "value" = some v → char code v.stop = .ok n.stop := by
  unfold withValue at h
  split at h
  · next hnone =>
    cases h
    exact ⟨congrArg Span.start hplain, hbears, fun _ => congrArg Span.stop hplain,
      fun v hv => (nomatch hnone.symm.trans hv)⟩
  · next v hv =>
    obtain ⟨stop, hstop, h⟩ := Except.bind_eq_ok h
    obtain ⟨right, _, h⟩ := Except.bind_eq_ok h
    cases h
    refine ⟨rfl, fun _ _ => rfl, fun hnone => (nomatch hnone.symm.trans hv), fun v' hv' => ?_⟩
    cases hv.symm.trans hv'
    exact hstop

/-- A typed parameter without decorators is lowered to a node with its own range. -/
theorem span_parameter {optional : Bool} (hc : c.IsTyped)
    (h : parameter code lower c optional = .ok n) (hn : n.decorators = []) :
    spanOf code c = .ok n.span := by
  obtain ⟨_, ⟨bound', hbound', hkind⟩, ⟨first, hfirst, hstart⟩, ⟨last, hlast, hstop⟩, hvalue,
    hmark⟩ := hc
  obtain ⟨declared, _, h⟩ := Except.bind_eq_ok h
  obtain ⟨bound, hbound, h⟩ := Except.bind_eq_ok h
  obtain ⟨b, hb, h⟩ := Except.bind_eq_ok h
  obtain ⟨s, hs, h⟩ := Except.bind_eq_ok h
  obtain ⟨plain, hplain, h⟩ := Except.bind_eq_ok h
  obtain ⟨binding, hbinding, h⟩ := Except.bind_eq_ok h
  obtain ⟨outer, houter, h⟩ := Except.bind_eq_ok h
  have heq : bound' = bound := Option.some.inj (hbound'.symm.trans (need_eq_ok hbound))
  rw [heq] at hkind
  obtain ⟨hspan, hbears⟩ := span_pattern hkind hplain
  obtain ⟨hbstart, hbears, hnone, hsome⟩ := span_withValue hspan hbears hbinding
  -- the node shows the decorators that the scan has met, so there are none
  have hds : b.decorators = [] := by
    split at h
    · obtain ⟨stop, _, h⟩ := Except.bind_eq_ok h
      cases h
      exact hn
    · cases h
      by_cases hempty : b.decorators.isEmpty = true
      · exact List.isEmpty_iff.1 hempty
      · rw [if_neg hempty, hbears] at hn
        exact hn
  have hbegin : b.start.getD c.start = c.start := by
    rw [scan_start hb rfl hfirst hds, Option.getD_some, hstart]
  rw [hds, hbegin] at houter
  rw [hbegin] at hs
  have hempty : b.decorators.isEmpty = true := by rw [hds]; rfl
  split at h
  · obtain ⟨stop, hstop', h⟩ := Except.bind_eq_ok h
    cases h
    exact span_eq_ok.2 ⟨houter, hstop'⟩
  · next hpromoted =>
    cases h
    have hpromoted := Bool.eq_false_iff.2 hpromoted
    rw [hpromoted] at hs
    obtain ⟨hfrom, hto⟩ := span_eq_ok.1 hs
    refine span_eq_ok.2 ⟨hfrom.trans (congrArg _ hbstart.symm), ?_⟩
    cases hv : c.child? "value" with
    | some v =>
      rw [← hvalue v hv]
      exact hsome v hv
    | none =>
      have hend : b.stop = c.stop := by
        rw [scan_stop hb hds hpromoted (hmark hv), ← hstop, List.getLastD_eq_getLast?,
          List.getLast?_map, hlast]
        rfl
      rw [← hend]
      exact hto.trans (congrArg _ (hnone hv).symm)

theorem span_other (h : other code lower c = .ok n) : spanOf code c = .ok n.span := by
  obtain ⟨s, hs, h⟩ := Except.bind_eq_ok h
  obtain ⟨ps, _, h⟩ := Except.bind_eq_ok h
  cases h
  exact hs

/-- Only what stands for a child and typed parameters do not have the range of their node. -/
theorem spanOf_of_node {parent : Option String} (hform : Form.ofKind c.kind ≠ .parenthesized)
    (hform' : ∀ optional, Form.ofKind c.kind ≠ .parameter optional)
    (h : node code lower parent c = .ok n) : spanOf code c = .ok n.span := by
  unfold node at h
  cases hkind : Form.ofKind c.kind <;> rw [hkind] at h
  case parenthesized => exact absurd hkind hform
  case parameter optional => exact absurd hkind (hform' optional)
  case function kind =>
    obtain ⟨s, hs, h⟩ := Except.bind_eq_ok h
    obtain ⟨p, _, h⟩ := Except.bind_eq_ok h
    cases h
    exact hs
  case arrow =>
    obtain ⟨p, _, h⟩ := Except.bind_eq_ok h
    obtain ⟨ps, _, h⟩ := Except.bind_eq_ok h
    obtain ⟨s, hs, h⟩ := Except.bind_eq_ok h
    cases h
    exact hs
  case method =>
    obtain ⟨p, _, h⟩ := Except.bind_eq_ok h
    obtain ⟨s, _, h⟩ := Except.bind_eq_ok h
    obtain ⟨name, _, h⟩ := Except.bind_eq_ok h
    obtain ⟨key, _, h⟩ := Except.bind_eq_ok h
    dsimp only at h
    split at h
    · obtain ⟨s, hs, h⟩ := Except.bind_eq_ok h
      cases h
      exact hs
    · obtain ⟨kind, _, h⟩ := Except.bind_eq_ok h
      obtain ⟨s, hs, h⟩ := Except.bind_eq_ok h
      cases h
      exact hs
  case call =>
    dsimp only at h
    split at h
    · split at h
      · obtain ⟨s, hs, h⟩ := Except.bind_eq_ok h
        obtain ⟨f, _, h⟩ := Except.bind_eq_ok h
        obtain ⟨as, _, h⟩ := Except.bind_eq_ok h
        cases h
        exact hs
      · exact span_other h
    · exact span_other h
  case name | rest | objectPattern | arrayPattern =>
    obtain ⟨s, hs, h⟩ := Except.bind_eq_ok h
    obtain ⟨t, _, h⟩ := Except.bind_eq_ok h
    cases h
    exact hs
  case assignmentPattern | member | subscript | pair =>
    obtain ⟨s, hs, h⟩ := Except.bind_eq_ok h
    obtain ⟨l, _, h⟩ := Except.bind_eq_ok h
    obtain ⟨r, _, h⟩ := Except.bind_eq_ok h
    cases h
    exact hs
  case shorthand =>
    dsimp only [shorthand] at h
    split at h
    · cases h
    · obtain ⟨s, _, h⟩ := Except.bind_eq_ok h
      obtain ⟨name, _, h⟩ := Except.bind_eq_ok h
      obtain ⟨s, hs, h⟩ := Except.bind_eq_ok h
      cases h
      exact hs
  case assignment =>
    obtain ⟨s, hs, h⟩ := Except.bind_eq_ok h
    obtain ⟨l, _, h⟩ := Except.bind_eq_ok h
    obtain ⟨r, _, h⟩ := Except.bind_eq_ok h
    obtain ⟨o, _, h⟩ := Except.bind_eq_ok h
    cases h
    exact hs
  case declarator =>
    obtain ⟨bound, _, h⟩ := Except.bind_eq_ok h
    obtain ⟨t, _, h⟩ := Except.bind_eq_ok h
    obtain ⟨s, hs, h⟩ := Except.bind_eq_ok h
    obtain ⟨v, _, h⟩ := Except.bind_eq_ok h
    cases h
    exact hs
  case literal kind =>
    obtain ⟨raw, _, h⟩ := Except.bind_eq_ok h
    obtain ⟨s, hs, h⟩ := Except.bind_eq_ok h
    cases h
    exact hs
  case other => exact span_other h

theorem Lowers.span (h : Lowers code c n) (hc : c.kind ∈ Concrete.plainKinds ∨ c.IsTyped)
    (hn : n.decorators = []) : spanOf code c = .ok n.span := by
  obtain ⟨levels, parent, h⟩ := h
  cases levels with
  | zero => cases h
  | succ levels =>
    unfold ofConcrete at h
    rcases hc with hplain | htyped
    · have hform : ∀ kind ∈ Concrete.plainKinds, Form.ofKind kind ≠ .parenthesized ∧
          ∀ optional, Form.ofKind kind ≠ .parameter optional := by decide
      exact spanOf_of_node (hform _ hplain).1 (hform _ hplain).2 h
    · unfold node at h
      rcases htyped.1 with hkind | hkind
      · rw [hkind] at h
        exact span_parameter htyped h hn
      · rw [hkind] at h
        exact span_parameter htyped h hn

end Lower

section Lists

variable {α β : Type} {R : α → β → Prop} {xs : List α} {ys : List β}

theorem exists_mem_of_forall₂ (h : List.Forall₂ R xs ys) {x : α} (hx : x ∈ xs) :
    ∃ y ∈ ys, R x y := by
  induction h with
  | nil => cases hx
  | @cons a b _ _ hab _ ih =>
    rcases List.mem_cons.1 hx with rfl | hx
    · exact ⟨b, List.mem_cons_self, hab⟩
    · obtain ⟨y, hy, hxy⟩ := ih hx
      exact ⟨y, List.mem_cons_of_mem _ hy, hxy⟩

theorem head?_of_forall₂ (h : List.Forall₂ R xs ys) {y : β} (hy : ys.head? = some y) :
    ∃ x, xs.head? = some x ∧ R x y := by
  cases h with
  | nil => cases hy
  | cons hab _ =>
    cases hy
    exact ⟨_, rfl, hab⟩

theorem getLast?_of_forall₂ (h : List.Forall₂ R xs ys) {y : β} (hy : ys.getLast? = some y) :
    ∃ x, xs.getLast? = some x ∧ R x y := by
  rw [← List.head?_reverse] at hy
  rw [← List.head?_reverse]
  exact head?_of_forall₂ (List.forall₂_reverse_iff.2 h) hy

end Lists

theorem decorators_of_mergeable {n : Node} {src : SourceText} {p : Parameter}
    (h : n.classify src = .ok p) (hp : p.mergeable) : n.decorators = [] := by
  by_contra hne
  have hsome : (!n.decorators.isEmpty) = true := by simpa using hne
  unfold Node.classify at h
  rw [if_pos hsome] at h
  cases h
  cases hp

theorem decorators_of_editOf {params : List Node} {src : SourceText} {e : Edit}
    (h : editOf params src = .ok (some e)) : ∀ n ∈ params, n.decorators = [] := by
  obtain ⟨ps, hps, hedit⟩ := Except.bind_eq_ok h
  have hmerge : ∀ p ∈ ps, p.mergeable := by
    cases ps with
    | nil => nofun
    | cons p others =>
      simp only [optionsEdit?] at hedit
      split at hedit
      · next hall => exact List.all_eq_true.1 hall
      · cases hedit
  intro n hn
  obtain ⟨p, hp, hnp⟩ := exists_mem_of_forall₂ (Except.forall₂_of_mapM hps) hn
  exact decorators_of_mergeable hnp (hmerge p hp)

/-- The edit lies in the parameter list of a function. -/
structure InParams (source : String) (c list : Concrete) (e : Edit) : Prop where
  listed : c.child? "parameters" = some list
  inside : ∃ a b i j, Utf8.Offset source a i ∧ Utf8.Offset source b j ∧ e.span = ⟨i, j⟩ ∧
    list.start ≤ a ∧ a ≤ b ∧ b ≤ list.stop

theorem InParams.fits {source : String} {c list : Concrete} {e : Edit}
    (h : InParams source c list e) : e.Fits source.length := by
  obtain ⟨a, b, i, j, hi, hj, hspan, _, hle, _⟩ := h.inside
  have hij := hi.le_of_byte_le hj hle
  have hj := hj.1
  unfold Edit.Fits
  rw [hspan]
  dsimp only
  omega

/-- The edit replaces what lies from the first parameter of a function to the last one, which is in
its parameter list. -/
structure ReplacesParams (source : String) (c list : Concrete) (e : Edit) : Prop where
  listed : c.child? "parameters" = some list
  exact : ∃ first ∈ list.parts.head?, ∃ last ∈ list.parts.getLast?, ∃ i j,
    Utf8.Offset source first.start i ∧ Utf8.Offset source last.stop j ∧ e.span = ⟨i, j⟩ ∧
      list.start ≤ first.start ∧ first.start ≤ last.stop ∧ last.stop ≤ list.stop

theorem ReplacesParams.inParams {source : String} {c list : Concrete} {e : Edit}
    (h : ReplacesParams source c list e) : InParams source c list e := by
  obtain ⟨first, _, last, _, i, j, hi, hj, hspan, hstart, hle, hstop⟩ := h.exact
  exact ⟨h.listed, first.start, last.stop, i, j, hi, hj, hspan, hstart, hle, hstop⟩

theorem Concrete.IsPlaced.first_le_last {source : String} {list first last : Concrete}
    (h : list.IsPlaced source) (hlength : 1 < list.parts.length)
    (hfirst : first ∈ list.parts.head?) (hlast : last ∈ list.parts.getLast?) :
    first.stop ≤ last.start := by
  have hordered : list.parts.Pairwise fun d e => d.stop ≤ e.start :=
    h.ordered.sublist List.filter_sublist
  obtain ⟨rest, hparts⟩ := List.head?_eq_some_iff.1 hfirst
  rw [hparts] at hordered hlast hlength
  cases rest with
  | nil => exact absurd hlength (Nat.lt_irrefl 1)
  | cons next rest =>
    rw [List.getLast?_cons_cons] at hlast
    exact (List.pairwise_cons.1 hordered).1 last (List.mem_of_getLast? hlast)

theorem Lower.Origin.replacesParams {source : String} {c root : Concrete} {n : Node}
    {params : List Node} {src : SourceText} {e : Edit}
    (h : Origin (Utf8.Encoded.ofString source) n c) (hroot : root.IsLaidOut source)
    (hc : c ∈ root.functionLikes) (hp : n.params? = some params) (hlength : 1 < params.length)
    (hedit : editOf params src = .ok (some e)) : ∃ list, ReplacesParams source c list e := by
  obtain ⟨ps, hps, hlist⟩ := h.params
  obtain rfl : ps = params := Option.some.inj (hps.symm.trans hp)
  obtain ⟨list, hlisted, hlowers⟩ := hlist.resolve_left (by omega)
  have hdecorators := decorators_of_editOf hedit
  obtain ⟨firstNode, lastNode, hfirstNode, hlastNode, hspan⟩ := editOf_span hedit
  obtain ⟨first, hfirst, hlow⟩ := head?_of_forall₂ hlowers hfirstNode
  obtain ⟨last, hlast, hlow'⟩ := getLast?_of_forall₂ hlowers hlastNode
  -- the list is a node of the tree, and so are its parameters
  have hcontains : root.Contains list :=
    (Concrete.mem_nodes.1 (List.mem_filter.1 hc).1).trans
      (.child (Concrete.mem_children_of_child? hlisted))
  have hplaced : list.IsPlaced source := hroot.placed list (Concrete.mem_nodes.2 hcontains)
  have hchildren : ∀ d ∈ list.children, d.IsPlaced source := fun d hd =>
    hroot.placed d (Concrete.mem_nodes.2 (hcontains.trans (.child hd)))
  have hmem := List.mem_of_head? hfirst
  have hmem' := List.mem_of_getLast? hlast
  have hin := Concrete.mem_children_of_mem_parts hmem
  have hin' := Concrete.mem_children_of_mem_parts hmem'
  obtain ⟨i, hi⟩ := (hchildren first hin).start
  obtain ⟨j, hj⟩ := (hchildren last hin').stop
  have hfirstSpan := hlow.span (hroot.params c hc list hlisted first hmem)
    (hdecorators _ (List.mem_of_head? hfirstNode))
  have hlastSpan := hlow'.span (hroot.params c hc list hlisted last hmem')
    (hdecorators _ (List.mem_of_getLast? hlastNode))
  have hstart : (i : Int) = firstNode.start :=
    Except.ok.inj ((Lower.char_of_offset hi).symm.trans (Lower.span_eq_ok.1 hfirstSpan).1)
  have hstop : (j : Int) = lastNode.stop :=
    Except.ok.inj ((Lower.char_of_offset hj).symm.trans (Lower.span_eq_ok.1 hlastSpan).2)
  have hle := (hchildren first hin).le
  have hbetween := hplaced.first_le_last (hlowers.length_eq ▸ hlength) hfirst hlast
  have hle' := (hchildren last hin').le
  refine ⟨list, hlisted, first, hfirst, last, hlast, i, j, hi, hj, ?_, (hplaced.within first hin).1,
    by omega, (hplaced.within last hin').2⟩
  rw [hspan, hstart, hstop]

/-- An edit comes from the parameters of a function that is lowered from one of the concrete tree.
-/
theorem exists_origin_of_edit {limits : Limits} {source language path : String} {c : Concrete}
    {t : Tree}
    {fs : List Finding} {s s' : Session} (htree : treeOver limits source language path c = .ok t)
    (hcheck : t.check.exec s = (.ok fs, s')) {f : Finding} (hf : f ∈ fs) {e : Edit}
    (he : e ∈ f.edit) : ∃ d ∈ c.functionLikes, ∃ n params,
      Lower.Origin (Utf8.Encoded.ofString source) n d ∧ n.params? = some params ∧
        1 < params.length ∧ editOf params t.source = .ok (some e) ∧ f.span = n.span := by
  rw [exec_check hcheck] at hf
  obtain ⟨v, hv, hfinding⟩ := List.mem_filterMap.1 ((List.mergeSort_perm _ _).mem_iff.1 hf)
  obtain ⟨params, hp, hlength, hspan, hedit⟩ := finding?_eq_some hfinding
  rw [he] at hedit
  have hfunction : v ∈ t.functions := by
    refine List.mem_filter.2 ⟨hv, ?_⟩
    rw [Node.isFunction, hp, Option.isSome_some]
  obtain ⟨os, hos, hsub, _⟩ := treeOver_functions_traced htree
  obtain ⟨d, hd, horigin⟩ := exists_mem_of_forall₂ hos (List.mem_map_of_mem hfunction)
  unfold maxParameters at hlength
  exact ⟨d, hsub hd, v.node, params, horigin, hp, by omega, hedit, hspan⟩

/-- The findings of a laid out tree have edits that replace the parameters of its functions. -/
theorem edits_replaceParams {limits : Limits} {source language path : String} {c : Concrete}
    {t : Tree}
    {fs : List Finding} {s s' : Session} (htree : treeOver limits source language path c = .ok t)
    (hc : c.IsLaidOut source) (hcheck : t.check.exec s = (.ok fs, s')) :
    ∀ f ∈ fs, ∀ e ∈ f.edit, ∃ d ∈ c.functionLikes, ∃ list,
      Lower.span (Utf8.Encoded.ofString source) d.functionStart d.stop = .ok f.span ∧
        ReplacesParams source d list e := by
  intro f hf e he
  obtain ⟨d, hd, n, params, horigin, hp, hlength, hedit, hspan⟩ :=
    exists_origin_of_edit htree hcheck hf he
  obtain ⟨list, hlist⟩ := horigin.replacesParams hc hd hp hlength hedit
  rw [hspan]
  exact ⟨d, hd, list, horigin.span, hlist⟩

/-- In a laid out tree each edit of a finding goes exactly from where the first concrete parameter
of its function starts to where the last one ends, within the parameter list. Applying the edits
replaces some of these ranges and keeps every other character. -/
theorem lintSource_replaces_params {g : Grammar} {lang : Language} {source path : String}
    {fs : List Finding} {s s' : Session}
    (h : (lintSource g source lang.name path).exec s = (.ok fs, s'))
    (hlaid : (g lang source).IsLaidOut source) :
    (∀ f ∈ fs, ∀ e ∈ f.edit, ∃ d ∈ (g lang source).functionLikes, ∃ list,
      Lower.span (Utf8.Encoded.ofString source) d.functionStart d.stop = .ok f.span ∧
        ReplacesParams source d list e) ∧
      ∃ es out, (∀ e ∈ es, e ∈ editsOf fs) ∧
        applyEdits source (editsOf fs) = (String.ofList out, es.length) ∧
        Patched 0 source.toList es out := by
  obtain ⟨t, s₁, htree, hcheck⟩ := exec_lintSource_tree h
  have hedits := edits_replaceParams htree hlaid hcheck
  refine ⟨hedits, applyEdits_keeps ?_⟩
  intro e he
  obtain ⟨f, hf, hfe⟩ := List.mem_filterMap.1 he
  obtain ⟨d, _, list, _, hlist⟩ := hedits f hf e hfe
  exact hlist.inParams.fits

section Instances

open Node

def typedName (kind : String) (start stop nameStop : Nat) (others : List Concrete) : Concrete :=
  .node (token kind start stop none)
    (.node (token "identifier" start nameStop (some "pattern")) [] :: others)

/-- `(é: T, b?, c, d = 1) => b` -/
def typedTree : Concrete :=
  .node (token "program" 0 26 none)
    [.node (token "expression_statement" 0 26 none)
      [.node (token "arrow_function" 0 26 none)
        [.node (token "formal_parameters" 0 21 (some "parameters"))
          [mark "(" 0,
            typedName "required_parameter" 1 6 3
              [.node (token "type_annotation" 3 6 (some "type"))
                [mark ":" 3, .node (token "type_identifier" 5 6 none) []]],
            mark "," 6, typedName "optional_parameter" 8 10 9 [mark "?" 9],
            mark "," 10, typedName "required_parameter" 12 13 13 [],
            mark "," 13,
            typedName "required_parameter" 15 20 16
              [mark "=" 17, .node (token "number" 19 20 (some "value")) []],
            mark ")" 20],
          mark "=>" 22, .node (token "identifier" 25 26 (some "body")) []]]]

def typedSource : String := "(é: T, b?, c, d = 1) => b"

theorem isLaidOut_typedTree : typedTree.IsLaidOut typedSource := by decide +kernel

/-- The function of the text: its parameters reach from character 1 to character 19. -/
def typedArrow : Node :=
  .function ⟨0, 25⟩ .arrow
    [.identifier ⟨1, 5⟩ (.str "é") (some (.other ⟨4, 5⟩ (.str "type_identifier") [])) false [],
      .identifier ⟨7, 9⟩ (.str "b") none true [], .bareName ⟨11, 12⟩ (.str "c"),
      .assignmentPattern ⟨14, 19⟩ (.bareName ⟨14, 15⟩ (.str "d"))
        (.literal ⟨18, 19⟩ .number (.str "1") (.str "1")) []]
    none (some (.bareName ⟨24, 25⟩ (.str "b"))) none

def typedRoot : Node :=
  .other ⟨0, 25⟩ (.str "program") [.other ⟨0, 25⟩ (.str "expression_statement") [typedArrow]]

theorem treeOver_typedTree :
    treeOver wideLimits typedSource Language.typescript.name "a.ts" typedTree =
      .ok (.build typedRoot (SourceText.ofString typedSource)) := rfl

theorem typedTree_replaces_params :
    ∃ fs s', (lintSource (.constant typedTree) typedSource Language.typescript.name "a.ts").exec {} =
        (.ok fs, s') ∧ typedTree.IsLaidOut typedSource ∧
      (∃ f ∈ fs, ∃ e ∈ f.edit, e.span = ⟨1, 19⟩) ∧
      ∃ es out, (∀ e ∈ es, e ∈ editsOf fs) ∧
        applyEdits typedSource (editsOf fs) = (String.ofList out, es.length) ∧
        Patched 0 typedSource.toList es out := by
  obtain ⟨vs, hvs, hlints⟩ := lints_report (g := .constant typedTree) treeOver_typedTree
    (Concrete.allKinds_genuine (by decide))
  obtain ⟨parsers, notes, hexec, _⟩ := hlints {}
  have hstatement : (Visit.root typedRoot).Reaches _ :=
    .step .refl (List.mem_of_getElem? (i := 0) rfl)
  have harrow := hstatement.step (List.mem_of_getElem? (i := 0) rfl)
  have hmem := (hvs.mem_iff _).2 ⟨harrow, ⟨⟨_, rfl, by decide⟩, nofun⟩⟩
  exact ⟨_, _, hexec, isLaidOut_typedTree, ⟨_, List.mem_map_of_mem hmem, _, rfl, rfl⟩,
    (lintSource_replaces_params hexec isLaidOut_typedTree).2⟩

end Instances

end ArityLint
