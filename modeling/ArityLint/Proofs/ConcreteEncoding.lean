import ArityLint.Proofs.Parameters
import ArityLint.Proofs.Written

namespace ArityLint

section Concrete

def Concrete.TakesUp (source : String) (e : Extent) (c : Concrete) : Prop :=
  Utf8.Offset source c.start e.start ∧ Utf8.Offset source c.stop e.stop

/-- Below a node of kind `parent`, and `levels` deep, the node can be lowered. -/
def Concrete.Converts (source : String) (levels : Nat) (parent : String) (c : Concrete) : Prop :=
  ∃ n, Lower.ofConcrete (Utf8.Encoded.ofString source) levels (some parent) c = .ok n

/-- A node of such a kind is lowered to one with its own range. -/
def Form.KeepsRange (f : Form) : Prop := f ≠ .parenthesized ∧ ∀ optional, f ≠ .parameter optional

def Bound.kind : Bound → String
  | name => "identifier"
  | object => "object_pattern"
  | array => "array_pattern"
  | rest => "rest_pattern"

/-- The kinds of node that a default is parsed as; a number is told from a big one by its text. -/
def Default.HasKind (source : String) (d : Default) (kind : String) : Prop :=
  match d.kind with
  | none => (Form.ofKind kind).KeepsRange ∧ ∀ k, Form.ofKind kind ≠ .literal k
  | some .string => kind = "string"
  | some .number => kind = "number" ∧ (d.extent.text source).toList.getLast? ≠ some 'n'
  | some .bigint => kind = "number" ∧ (d.extent.text source).toList.getLast? = some 'n'
  | some .boolean => kind = "true" ∨ kind = "false"
  | some .null => kind = "null"
  | some .regex => kind = "regex"

variable (source : String) (levels : Nat)

structure IsToken (kind : String) (named : Bool) (e : Extent) (c : Concrete) : Prop where
  kind : c.kind = kind
  named : c.token.named = named
  field : c.token.field = none
  extent : c.TakesUp source e

/-- The node that a parameter binds, without its type. -/
structure IsBound (p : Written) (c : Concrete) : Prop where
  kind : c.kind = p.bound.kind
  extent : c.TakesUp source p.binding
  parts : ∀ d ∈ c.parts, d.Converts source levels c.kind

/-- A declared type: the first part of its node is the type. -/
structure IsDeclared (d : Declared) (c : Concrete) : Prop where
  kind : c.kind = "type_annotation"
  field : c.token.field = some "type"
  extent : c.TakesUp source d.whole
  type : ∃ t others, c.parts = t :: others ∧ t.TakesUp source d.type ∧
    (Form.ofKind t.kind).KeepsRange ∧ t.Converts source levels c.kind

/-- The node of a default, below a node of kind `parent`. -/
structure IsDefault (parent : String) (d : Default) (c : Concrete) : Prop where
  kind : d.HasKind source c.kind
  extent : c.TakesUp source d.extent
  converts : c.Converts source levels parent

end Concrete

/-- The children of a typed parameter, in the order of the grammar. -/
structure TypedParts where
  accessibility : Option Concrete := none
  override : Option Concrete := none
  readonly : Option Concrete := none
  bound : Concrete
  question : Option Concrete := none
  declared : Option Concrete := none
  /-- The `=` and what follows it. -/
  value : Option (Concrete × Concrete) := none

namespace TypedParts

variable (k : TypedParts)

def afterBound : List Concrete :=
  k.question.toList ++ (k.declared.toList ++ k.value.toList.flatMap fun (mark, v) => [mark, v])

def children : List Concrete :=
  k.accessibility.toList ++ (k.override.toList ++ (k.readonly.toList ++ k.bound :: k.afterBound))

def first : Concrete := (k.accessibility.or (k.override.or k.readonly)).getD k.bound

def last : Concrete := (k.declared.or k.question).getD k.bound

end TypedParts

/-- The children of a typed parameter that are what is written. -/
structure TypedParts.Match (source : String) (levels : Nat) (p : Written) (parent : String)
    (k : TypedParts) : Prop where
  accessibility : Option.Rel (IsToken source "accessibility_modifier" true) p.accessibility
    k.accessibility
  override : Option.Rel (IsToken source "override_modifier" true) p.override k.override
  readonly : Option.Rel (IsToken source "readonly" false) p.readonly k.readonly
  bound : IsBound source levels p k.bound
  boundField : k.bound.token.field = some "pattern"
  question : Option.Rel (IsToken source "?" false) p.question k.question
  declared : Option.Rel (IsDeclared source levels) p.declared k.declared
  value : Option.Rel (fun d (mark, v) => mark.isMark "=" ∧ mark.token.field = none ∧
    v.token.field = some "value" ∧ IsDefault source levels parent d v) p.value k.value

/-- A typed parameter, optional exactly if it has a question mark. -/
structure IsTypedParameter (source : String) (levels : Nat) (p : Written) (c : Concrete) :
    Prop where
  kind : c.kind = if p.question.isSome then "optional_parameter" else "required_parameter"
  extent : c.TakesUp source p.extent
  parts : ∃ k : TypedParts, c.children = k.children ∧ k.Match source levels p c.kind

structure Written.IsBare (p : Written) : Prop where
  promoted : p.promoted = false
  question : p.question = none
  declared : p.declared = none

/-- A parameter without a type: what it binds, or that and its default. -/
inductive IsPlainParameter (source : String) (levels : Nat) (p : Written) (c : Concrete) : Prop
  | bound : p.IsBare → p.value = none → IsBound source (levels + 1) p c →
      IsPlainParameter source levels p c
  | value {d : Default} {left right : Concrete} : p.IsBare → p.value = some d →
      c.kind = "assignment_pattern" → c.TakesUp source p.extent →
      c.child? "left" = some left → IsBound source levels p left →
      c.child? "right" = some right → IsDefault source (levels + 1) c.kind d right →
      IsPlainParameter source levels p c

theorem exists_of_rel {α β : Type} {R : α → β → Prop} {x : Option α} {y : Option β}
    (h : Option.Rel R x y) {b : β} (hb : b ∈ y) : ∃ a ∈ x, R a b := by
  cases h with
  | none => cases hb
  | some h =>
    cases hb
    exact ⟨_, rfl, h⟩

section Rel

variable {α β : Type} {R S : α → β → Prop} {x x' : Option α} {y y' : Option β} {a : α} {b : β}

theorem rel_imp (h : Option.Rel R x y) (himp : ∀ a b, R a b → S a b) : Option.Rel S x y := by
  cases h with
  | none => exact .none
  | some h => exact .some (himp _ _ h)

theorem rel_or (h : Option.Rel R x y) (h' : Option.Rel R x' y') :
    Option.Rel R (x.or x') (y.or y') := by
  cases h with
  | none => exact h'
  | some h => exact .some h

theorem rel_getD (h : Option.Rel R x y) (hab : R a b) : R (x.getD a) (y.getD b) := by
  cases h with
  | none => exact hab
  | some h => exact h

end Rel

namespace Lower

open Node

variable {source : String} {code : Utf8.Encoded} {lower : String → Concrete → Lowering Node}
  {levels : Nat} {p : Written} {c : Concrete} {n : Node}

theorem spanOf_of_takesUp {e : Extent} (h : c.TakesUp source e) :
    spanOf (Utf8.Encoded.ofString source) c = .ok e.span :=
  span_of_offset h.1 h.2

theorem text_of_takesUp {e : Extent} (h : c.TakesUp source e) :
    text (Utf8.Encoded.ofString source) c = .ok (e.text source) := by
  unfold text
  rw [h.1.text_eq h.2]
  rfl

theorem literalKind?_of_node {parent : Option String} (hform : (Form.ofKind c.kind).KeepsRange)
    (hliteral : ∀ k, Form.ofKind c.kind ≠ .literal k) (h : node code lower parent c = .ok n) :
    n.literalKind? = none := by
  have hother : other code lower c = .ok n → n.literalKind? = none := by
    intro h
    obtain ⟨s, _, h⟩ := Except.bind_eq_ok h
    obtain ⟨ps, _, h⟩ := Except.bind_eq_ok h
    cases h
    rfl
  unfold node at h
  cases hkind : Form.ofKind c.kind <;> rw [hkind] at h
  case parenthesized => exact absurd hkind hform.1
  case parameter optional => exact absurd hkind (hform.2 optional)
  case literal k => exact absurd hkind (hliteral k)
  case function | name | rest | objectPattern | arrayPattern =>
    obtain ⟨s, _, h⟩ := Except.bind_eq_ok h
    obtain ⟨x, _, h⟩ := Except.bind_eq_ok h
    cases h
    rfl
  case arrow | assignmentPattern | member | subscript | pair =>
    obtain ⟨x, _, h⟩ := Except.bind_eq_ok h
    obtain ⟨y, _, h⟩ := Except.bind_eq_ok h
    obtain ⟨z, _, h⟩ := Except.bind_eq_ok h
    cases h
    rfl
  case method =>
    obtain ⟨f, _, h⟩ := Except.bind_eq_ok h
    obtain ⟨s, _, h⟩ := Except.bind_eq_ok h
    obtain ⟨name, _, h⟩ := Except.bind_eq_ok h
    obtain ⟨key, _, h⟩ := Except.bind_eq_ok h
    dsimp only at h
    split at h
    · obtain ⟨s, _, h⟩ := Except.bind_eq_ok h
      cases h
      rfl
    · obtain ⟨kind, _, h⟩ := Except.bind_eq_ok h
      obtain ⟨s, _, h⟩ := Except.bind_eq_ok h
      cases h
      rfl
  case call =>
    dsimp only at h
    split at h
    · split at h
      · obtain ⟨s, _, h⟩ := Except.bind_eq_ok h
        obtain ⟨f, _, h⟩ := Except.bind_eq_ok h
        obtain ⟨as, _, h⟩ := Except.bind_eq_ok h
        cases h
        rfl
      · exact hother h
    · exact hother h
  case shorthand =>
    dsimp only [shorthand] at h
    split at h
    · cases h
    · obtain ⟨s, _, h⟩ := Except.bind_eq_ok h
      obtain ⟨name, _, h⟩ := Except.bind_eq_ok h
      obtain ⟨s, _, h⟩ := Except.bind_eq_ok h
      cases h
      rfl
  case assignment | declarator =>
    obtain ⟨w, _, h⟩ := Except.bind_eq_ok h
    obtain ⟨x, _, h⟩ := Except.bind_eq_ok h
    obtain ⟨y, _, h⟩ := Except.bind_eq_ok h
    obtain ⟨z, _, h⟩ := Except.bind_eq_ok h
    cases h
    rfl
  case other => exact hother h

theorem span_of_converts {parent : Option String} {e : Extent} (hc : c.TakesUp source e)
    (hform : (Form.ofKind c.kind).KeepsRange)
    (h : ofConcrete (Utf8.Encoded.ofString source) levels parent c = .ok n) : n.span = e.span := by
  cases levels with
  | zero => cases h
  | succ levels =>
    have hspan := spanOf_of_node hform.1 hform.2 h
    exact Except.ok.inj (hspan.symm.trans (spanOf_of_takesUp hc))

theorem keepsRange_literal (kind : LiteralKind) : (Form.literal kind).KeepsRange := ⟨nofun, nofun⟩

theorem form_of_hasKind {d : Default} {kind : LiteralKind} {name : String}
    (h : d.HasKind source name) (hkind : d.kind = some kind) : ∃ k, Form.ofKind name = .literal k ∧
      kind = if k = .number ∧ (d.extent.text source).toList.getLast? = some 'n' then .bigint
        else k := by
  unfold Default.HasKind at h
  rw [hkind] at h
  cases kind with
  | string =>
    obtain rfl := h
    exact ⟨_, rfl, rfl⟩
  | number =>
    obtain ⟨rfl, hlast⟩ := h
    exact ⟨_, rfl, by rw [if_neg fun h => hlast h.2]⟩
  | bigint =>
    obtain ⟨rfl, hlast⟩ := h
    exact ⟨_, rfl, by rw [if_pos ⟨rfl, hlast⟩]⟩
  | boolean => rcases h with rfl | rfl <;> exact ⟨_, rfl, rfl⟩
  | null =>
    obtain rfl := h
    exact ⟨_, rfl, rfl⟩
  | regex =>
    obtain rfl := h
    exact ⟨_, rfl, rfl⟩

theorem keepsRange_of_hasKind {d : Default} {name : String} (h : d.HasKind source name) :
    (Form.ofKind name).KeepsRange := by
  cases hkind : d.kind with
  | none =>
    unfold Default.HasKind at h
    rw [hkind] at h
    exact h.1
  | some kind =>
    obtain ⟨k, hform, _⟩ := form_of_hasKind h hkind
    rw [hform]
    exact keepsRange_literal k

/-- A default is lowered to a node where it is written, and to a literal exactly if it is one. -/
theorem default_of_converts {parent : String} {d : Default}
    (hc : IsDefault source levels parent d c)
    (h : ofConcrete (Utf8.Encoded.ofString source) levels (some parent) c = .ok n) :
    n.span = d.extent.span ∧ n.literalKind? = d.kind.map (·.name) := by
  refine ⟨span_of_converts hc.extent (keepsRange_of_hasKind hc.kind) h, ?_⟩
  cases levels with
  | zero => cases h
  | succ levels =>
    cases hkind : d.kind with
    | none =>
      have hnone := hc.kind
      unfold Default.HasKind at hnone
      rw [hkind] at hnone
      exact literalKind?_of_node hnone.1 hnone.2 h
    | some kind =>
      obtain ⟨k, hform, rfl⟩ := form_of_hasKind hc.kind hkind
      unfold ofConcrete node at h
      rw [hform] at h
      unfold literal at h
      dsimp only at h
      rw [text_of_takesUp hc.extent, spanOf_of_takesUp hc.extent] at h
      cases h
      cases k <;> simp [literalKind?]

section Bound

variable (hc : IsBound source levels p c)
include hc

theorem exists_parts :
    ∃ ns, parts (fun q => ofConcrete (Utf8.Encoded.ofString source) levels (some q)) c = .ok ns :=
  Except.exists_mapM_eq_ok hc.parts

theorem exists_restArgument :
    ∃ a, restArgument (Utf8.Encoded.ofString source)
      (fun q => ofConcrete (Utf8.Encoded.ofString source) levels (some q)) c = .ok a := by
  unfold restArgument
  cases hparts : c.parts with
  | nil =>
    rw [spanOf_of_takesUp hc.extent]
    exact ⟨_, rfl⟩
  | cons d ds => exact hc.parts d (hparts ▸ List.mem_cons_self)

theorem exists_pattern {t : Option Node} (kind : String) (ht : p.TypeAt t) :
    ∃ n, pattern (Utf8.Encoded.ofString source)
      (fun q => ofConcrete (Utf8.Encoded.ofString source) levels (some q)) c kind
      p.plainExtent.span t p.question.isSome = .ok n ∧ p.Binds source n := by
  have hkind := hc.kind
  obtain ⟨ns, hns⟩ := exists_parts hc
  obtain ⟨a, ha⟩ := exists_restArgument hc
  unfold pattern
  cases hbound : p.bound with
  | name =>
    rw [hkind, hbound]
    dsimp only [Bound.kind]
    rw [text_of_takesUp hc.extent]
    exact ⟨_, rfl, .name hbound ht⟩
  | object =>
    rw [hkind, hbound]
    dsimp only [Bound.kind]
    rw [hns]
    exact ⟨_, rfl, .object hbound⟩
  | array =>
    rw [hkind, hbound]
    dsimp only [Bound.kind]
    rw [hns]
    exact ⟨_, rfl, .array hbound⟩
  | rest =>
    rw [hkind, hbound]
    dsimp only [Bound.kind]
    rw [ha]
    exact ⟨_, rfl, .rest hbound⟩

theorem exists_bare (parent : Option String) (hp : p.IsBare) :
    ∃ n, ofConcrete (Utf8.Encoded.ofString source) (levels + 1) parent c = .ok n ∧
      p.Binds source n := by
  have hkind := hc.kind
  have hspan := spanOf_of_takesUp hc.extent
  obtain ⟨ns, hns⟩ := exists_parts hc
  obtain ⟨a, ha⟩ := exists_restArgument hc
  have hextent : p.plainExtent = p.binding := by
    unfold Written.plainExtent Written.last
    rw [hp.declared, hp.question]
    rfl
  rw [← hextent] at hspan
  unfold ofConcrete node
  cases hbound : p.bound with
  | name =>
    rw [hkind, hbound]
    have htype : p.TypeAt none := by
      rw [Written.TypeAt, hp.declared]
      exact .none
    have hbinds : p.Binds source _ := .name hbound htype
    rw [hp.question] at hbinds
    refine ⟨_, ?_, hbinds⟩
    change name _ c = _
    unfold name
    rw [hspan, text_of_takesUp hc.extent]
    rfl
  | object =>
    rw [hkind, hbound]
    dsimp only [Bound.kind, Form.ofKind]
    rw [hspan, hns]
    exact ⟨_, rfl, .object hbound⟩
  | array =>
    rw [hkind, hbound]
    dsimp only [Bound.kind, Form.ofKind]
    rw [hspan, hns]
    exact ⟨_, rfl, .array hbound⟩
  | rest =>
    rw [hkind, hbound]
    dsimp only [Bound.kind, Form.ofKind]
    rw [hspan, ha]
    exact ⟨_, rfl, .rest hbound⟩

end Bound

section Typed

variable {kind : String} {cs : List Concrete} {b : Binding} {e : Option Extent} {o : Option Concrete}

theorem scan_accessibility (h : Option.Rel (IsToken source "accessibility_modifier" true) e o) :
    scan (Utf8.Encoded.ofString source) lower kind (o.toList ++ cs) b =
      scan (Utf8.Encoded.ofString source) lower kind cs
        { b with
          start := b.start.or (o.map (·.start))
          accessibility := (e.map (·.text source)).or b.accessibility } := by
  cases h with
  | none => simp
  | some h => simp [scan, h.kind, text_of_takesUp h.extent]; rfl

theorem scan_override (h : Option.Rel (IsToken source "override_modifier" true) e o) :
    scan code lower kind (o.toList ++ cs) b =
      scan code lower kind cs
        { b with start := b.start.or (o.map (·.start)), override := e.isSome || b.override } := by
  cases h with
  | none => simp
  | some h => simp [scan, h.kind]

theorem scan_readonly (h : Option.Rel (IsToken source "readonly" false) e o) :
    scan code lower kind (o.toList ++ cs) b =
      scan code lower kind cs
        { b with start := b.start.or (o.map (·.start)), readonly := e.isSome || b.readonly } := by
  cases h with
  | none => simp
  | some h => simp [scan, Concrete.isMark, h.kind, h.named]

theorem scan_toList (h : ∀ c ∈ o, c.kind ∉ markKinds) :
    scan code lower kind (o.toList ++ cs) b =
      scan code lower kind cs
        { b with start := b.start.or (o.map (·.start)), stop := (o.map (·.stop)).getD b.stop } := by
  cases o with
  | none => simp
  | some c => exact scan_cons (h c rfl)

variable {k : TypedParts}

/-- The scan of a typed parameter reads its modifiers, and where its binding ends. -/
theorem scan_children {stop : Nat} (h : k.Match source levels p kind) :
    scan (Utf8.Encoded.ofString source) lower kind k.children { stop := stop } =
      .ok { start := some k.first.start, stop := k.last.stop,
            accessibility := p.accessibilityText source, readonly := p.readonly.isSome,
            override := p.override.isSome } := by
  have hbound : k.bound.kind ∉ markKinds := by
    rw [h.bound.kind]
    cases p.bound <;> decide
  have hquestion : ∀ c ∈ k.question, c.kind ∉ markKinds := by
    intro c hc
    obtain ⟨e, _, he⟩ := exists_of_rel h.question hc
    rw [he.kind]
    decide
  have hdeclared : ∀ c ∈ k.declared, c.kind ∉ markKinds := by
    intro c hc
    obtain ⟨d, _, hd⟩ := exists_of_rel h.declared hc
    rw [hd.kind]
    decide
  -- a value follows its mark, at which the scan stops
  have hvalue : ∀ b : Binding, b.start = some k.first.start →
      scan (Utf8.Encoded.ofString source) lower kind
        (k.value.toList.flatMap fun (mark, v) => [mark, v]) b = .ok b := by
    intro b hb
    cases hv : k.value with
    | none => rfl
    | some marked =>
      obtain ⟨d, _, hmark, _⟩ := exists_of_rel h.value hv
      exact scan_mark hmark hb
  unfold TypedParts.children TypedParts.afterBound
  rw [scan_accessibility h.accessibility, scan_override h.override, scan_readonly h.readonly]
  dsimp only
  rw [scan_cons hbound, scan_toList hquestion, scan_toList hdeclared]
  dsimp only
  have hfirst : (((((((none.or (k.accessibility.map (·.start))).or (k.override.map (·.start))).or
      (k.readonly.map (·.start))).or (some k.bound.start)).or (k.question.map (·.start))).or
      (k.declared.map (·.start)))) = some k.first.start := by
    unfold TypedParts.first
    cases k.accessibility <;> cases k.override <;> cases k.readonly <;> rfl
  have hlast : (k.declared.map (·.stop)).getD ((k.question.map (·.stop)).getD k.bound.stop) =
      k.last.stop := by
    unfold TypedParts.last
    cases k.declared <;> cases k.question <;> rfl
  rw [hfirst, hlast, hvalue _ rfl]
  simp [Written.accessibilityText]

theorem under?_toList (field : String) (h : ∀ d ∈ o, d.token.field ≠ some field) :
    Concrete.under? (o.toList ++ cs) field = Concrete.under? cs field := by
  cases o with
  | none => rfl
  | some d => exact Concrete.under?_cons_of_ne (h d rfl) cs

theorem child?_typed (h : k.Match source levels p kind) (hc : c.children = k.children) :
    c.child? "pattern" = some k.bound ∧ c.child? "type" = k.declared ∧
      c.child? "value" = k.value.map (·.2) := by
  have hskip : ∀ {kind : String} {named : Bool} {e : Option Extent} {o : Option Concrete},
      Option.Rel (IsToken source kind named) e o → ∀ field cs,
        Concrete.under? (o.toList ++ cs) field = Concrete.under? cs field := by
    intro kind named e o hrel field cs
    refine under?_toList field fun d hd => ?_
    obtain ⟨x, _, hx⟩ := exists_of_rel hrel hd
    rw [hx.field]
    nofun
  have hchild : ∀ field, c.child? field = Concrete.under? (k.bound :: k.afterBound) field := by
    intro field
    change Concrete.under? c.children field = _
    rw [hc, TypedParts.children, hskip h.accessibility, hskip h.override, hskip h.readonly]
  -- behind the binding only the type and the value stand under a field
  have hafter : ∀ field, some "pattern" ≠ some field → c.child? field =
      Concrete.under? (k.declared.toList ++ k.value.toList.flatMap fun (mark, v) => [mark, v])
        field := by
    intro field hfield
    rw [hchild, Concrete.under?_cons_of_ne (by rwa [h.boundField]), TypedParts.afterBound,
      hskip h.question]
  have hvalue : ∀ marked ∈ k.value, marked.1.token.field = none ∧
      marked.2.token.field = some "value" := by
    intro marked hmarked
    obtain ⟨d, _, _, hmark, hfield, _⟩ := exists_of_rel h.value hmarked
    exact ⟨hmark, hfield⟩
  refine ⟨?_, ?_, ?_⟩
  · rw [hchild]
    exact List.find?_cons_of_pos (by simp [h.boundField])
  · rw [hafter "type" (by decide)]
    cases hd : k.declared with
    | some t =>
      obtain ⟨d, _, ht⟩ := exists_of_rel h.declared hd
      exact List.find?_cons_of_pos (by simp [ht.field])
    | none =>
      cases hv : k.value with
      | none => rfl
      | some marked =>
        obtain ⟨hmark, hfield⟩ := hvalue marked hv
        simp [Concrete.under?, hmark, hfield]
  · rw [hafter "value" (by decide), under?_toList]
    · cases hv : k.value with
      | none => rfl
      | some marked =>
        obtain ⟨hmark, hfield⟩ := hvalue marked hv
        simp [Concrete.under?, hmark, hfield]
    · intro t ht
      obtain ⟨d, _, ht⟩ := exists_of_rel h.declared ht
      rw [ht.field]
      decide

theorem takesUp_first (h : k.Match source levels p kind) : k.first.TakesUp source p.first :=
  rel_getD (rel_or (rel_imp h.accessibility fun _ _ h => h.extent)
    (rel_or (rel_imp h.override fun _ _ h => h.extent)
      (rel_imp h.readonly fun _ _ h => h.extent))) h.bound.extent

theorem takesUp_last (h : k.Match source levels p kind) : k.last.TakesUp source p.last := by
  refine rel_getD (rel_or ?_ (rel_imp h.question fun _ _ h => h.extent)) h.bound.extent
  have hdeclared := h.declared
  generalize p.declared = x, k.declared = y at hdeclared
  cases hdeclared with
  | none => exact .none
  | some h => exact .some h.extent

theorem exists_typeAt (h : k.Match source levels p kind) :
    ∃ t, annotated? (fun q => ofConcrete (Utf8.Encoded.ofString source) levels (some q))
      k.declared = .ok t ∧ p.TypeAt t := by
  have hdeclared := h.declared
  unfold Written.TypeAt
  generalize p.declared = x, k.declared = y at hdeclared
  cases hdeclared with
  | none => exact ⟨none, rfl, .none⟩
  | some h =>
    obtain ⟨t, others, hparts, hextent, hform, n, hn⟩ := h.type
    refine ⟨some n, ?_, .some (span_of_converts hextent hform hn)⟩
    unfold annotated?
    dsimp only
    rw [hparts]
    dsimp only
    rw [hn]
    rfl

theorem exists_withValue {plain : Node} (h : k.Match source levels p c.kind)
    (hvalue : c.child? "value" = k.value.map (·.2)) (hplain : p.Binds source plain) :
    ∃ n, withValue (Utf8.Encoded.ofString source)
      (fun q => ofConcrete (Utf8.Encoded.ofString source) levels (some q)) c p.plainExtent.span
      plain = .ok n ∧ p.BindsValue source n := by
  unfold withValue
  rw [hvalue]
  cases hv : k.value with
  | none =>
    have hnone : p.value = none := by
      have hrel := h.value
      rw [hv] at hrel
      generalize p.value = x at hrel
      cases hrel
      rfl
    exact ⟨plain, rfl, .plain hnone hplain⟩
  | some marked =>
    obtain ⟨d, hd, _, _, _, hdefault⟩ := exists_of_rel h.value hv
    obtain ⟨right, hright⟩ := hdefault.converts
    obtain ⟨hspan, hkind⟩ := default_of_converts hdefault hright
    have hextent : p.valueExtent.span = ⟨p.plainExtent.span.start, d.extent.stop⟩ := by
      unfold Written.valueExtent
      rw [show p.value = some d from hd]
      rfl
    refine ⟨_, ?_, .value hd hplain hspan hkind⟩
    rw [Option.map_some]
    dsimp only
    rw [char_of_offset hdefault.extent.2, hright, hextent]
    rfl

theorem exists_typed (parent : Option String) (hc : IsTypedParameter source levels p c) :
    ∃ n, ofConcrete (Utf8.Encoded.ofString source) (levels + 1) parent c = .ok n ∧
      p.Represents source n := by
  obtain ⟨k, hchildren, hk⟩ := hc.parts
  obtain ⟨hpattern, htype, hvalue⟩ := child?_typed hk hchildren
  obtain ⟨t, ht, htypeAt⟩ := exists_typeAt hk
  obtain ⟨plain, hplain, hbinds⟩ := exists_pattern hk.bound c.kind htypeAt
  obtain ⟨n, hn, hbindsValue⟩ := exists_withValue hk hvalue hbinds
  have hfirst := takesUp_first hk
  have hlast := takesUp_last hk
  have hform : Form.ofKind c.kind = .parameter p.question.isSome := by
    rw [hc.kind]
    cases p.question.isSome <;> rfl
  have hspan : span (Utf8.Encoded.ofString source)
      (if p.promoted then k.bound.start else k.first.start) k.last.stop =
        .ok p.plainExtent.span := by
    split
    · exact span_of_offset hk.bound.extent.1 hlast.2
    · next hpromoted =>
      -- without modifiers the binding is what is written first
      have hstart : p.first.start = p.binding.start := by
        have hextent := p.valueExtent_of_not_promoted (Bool.eq_false_iff.2 hpromoted)
        exact (congrArg Extent.start hextent).symm
      exact span_of_offset (hstart ▸ hfirst.1) hlast.2
  have hpromoted : Binding.promoted
      { start := some k.first.start, stop := k.last.stop,
        accessibility := p.accessibilityText source, readonly := p.readonly.isSome,
        override := p.override.isSome } = p.promoted := by
    unfold Binding.promoted Written.promoted Written.accessibilityText
    rw [Option.isSome_map]
  have hok : ∀ {α β : Type} (a : α) (f : α → Lowering β), (Except.ok a >>= f) = f a :=
    fun _ _ => rfl
  unfold ofConcrete node
  rw [hform]
  dsimp only
  unfold parameter
  simp only [htype, ht, hpattern, need, hchildren, scan_children hk, hok, Option.getD_some,
    hpromoted, hspan, hplain, hn, List.isEmpty_nil, if_true, char_of_offset hfirst.1]
  cases hcase : p.promoted with
  | true =>
    rw [if_pos rfl, char_of_offset hc.extent.2]
    exact ⟨_, rfl, .promoted hcase hbindsValue⟩
  | false => exact ⟨n, rfl, .plain hcase hbindsValue⟩

end Typed

theorem exists_plain (parent : Option String) (hc : IsPlainParameter source levels p c) :
    ∃ n, ofConcrete (Utf8.Encoded.ofString source) (levels + 2) parent c = .ok n ∧
      p.Represents source n := by
  cases hc with
  | bound hp hvalue hbound =>
    obtain ⟨n, hn, hbinds⟩ := exists_bare hbound parent hp
    exact ⟨n, hn, .plain hp.promoted (.plain hvalue hbinds)⟩
  | @value d left right hp hvalue hkind hextent hleft hbound hright hdefault =>
    obtain ⟨l, hl, hbinds⟩ := exists_bare hbound (some c.kind) hp
    obtain ⟨r, hr⟩ := hdefault.converts
    obtain ⟨hspan, hliteral⟩ := default_of_converts hdefault hr
    refine ⟨_, ?_, .plain hp.promoted (.value hvalue hbinds hspan hliteral)⟩
    have hform : Form.ofKind c.kind = .assignmentPattern := by
      rw [hkind]
      rfl
    have hchildren : ∀ {field : String} {d : Concrete} {m : Node}, c.child? field = some d →
        ofConcrete (Utf8.Encoded.ofString source) (levels + 1) (some c.kind) d = .ok m →
        child (fun q => ofConcrete (Utf8.Encoded.ofString source) (levels + 1) (some q)) c field =
          .ok m := by
      intro field d m hd hm
      unfold child
      rw [hd]
      exact hm
    rw [ofConcrete]
    unfold node
    rw [hform]
    dsimp only
    rw [spanOf_of_takesUp hextent, hchildren hleft hl, hchildren hright hr,
      Written.valueExtent_of_not_promoted hp.promoted]
    rfl

end Lower

end ArityLint
