import ArityLint.Proofs.Signature

namespace ArityLint

structure Extent where
  start : Nat
  stop : Nat
  deriving DecidableEq

namespace Extent

def span (e : Extent) : Span := ⟨e.start, e.stop⟩

def text (e : Extent) (source : String) : String := Text.slice source e.start e.stop

end Extent

inductive Bound where
  | name
  | object
  | array
  | rest
  deriving DecidableEq

/-- A type with the colon before it, and the type alone. -/
structure Declared where
  whole : Extent
  type : Extent

/-- A default, and what kind of literal it is, if it is one. -/
structure Default where
  extent : Extent
  kind : Option LiteralKind

structure Written where
  accessibility : Option Extent := none
  override : Option Extent := none
  readonly : Option Extent := none
  bound : Bound
  /-- What is bound, with neither question mark nor type. -/
  binding : Extent
  question : Option Extent := none
  declared : Option Declared := none
  value : Option Default := none

namespace Written

variable (p : Written) (source : String)

def promoted : Bool := p.accessibility.isSome || p.readonly.isSome || p.override.isSome

def first : Extent := (p.accessibility.or (p.override.or p.readonly)).getD p.binding

def last : Extent := ((p.declared.map (·.whole)).or p.question).getD p.binding

def plainExtent : Extent := ⟨p.binding.start, p.last.stop⟩

def valueExtent : Extent := ⟨p.binding.start, ((p.value.map (·.extent)).getD p.last).stop⟩

def extent : Extent := ⟨p.first.start, p.valueExtent.stop⟩

def name : Value := .str (p.binding.text source)

def typeText : Option String := p.declared.map (·.type.text source)

def accessibilityText : Option String := p.accessibility.map (·.text source)

def modifierText : String :=
  " ".intercalate ((p.accessibilityText source).toList.filter (· ≠ "") ++
    (if p.override.isSome then ["override"] else []) ++
    (if p.readonly.isSome then ["readonly"] else []))

/-- The shape of a parameter. A pattern that is promoted has none of its own, and neither has a rest
with a default. -/
def shape : Parameter :=
  match p.bound, p.value, p.promoted with
  | .name, some d, _ =>
    .defaulted p.extent.span (p.name source) (d.extent.text source) (p.typeText source)
      (d.kind.map (·.name))
  | .name, none, true =>
    .promoted p.extent.span (p.name source) (p.typeText source) p.question.isSome
      (p.modifierText source)
  | .name, none, false =>
    .simple p.extent.span (p.name source) (p.typeText source) p.question.isSome
  | .rest, none, false => .rest p.extent.span (p.extent.text source)
  | .object, _, false | .array, _, false => .destructured p.extent.span (p.extent.text source)
  | _, _, _ => .unrecognized p.extent.span (p.extent.text source)

def TypeAt (t : Option Node) : Prop := Option.Rel (fun d n => n.span = d.type.span) p.declared t

inductive Binds : Node → Prop
  | name {t : Option Node} : p.bound = .name → p.TypeAt t →
      Binds (.identifier p.plainExtent.span (p.name source) t p.question.isSome [])
  | object {properties : List Node} {t : Option Node} : p.bound = .object →
      Binds (.objectPattern p.plainExtent.span properties t [])
  | array {elements : List Node} {t : Option Node} : p.bound = .array →
      Binds (.arrayPattern p.plainExtent.span elements t [])
  | rest {argument : Node} {t : Option Node} : p.bound = .rest →
      Binds (.restElement p.plainExtent.span argument t [])

inductive BindsValue : Node → Prop
  | plain {n : Node} : p.value = none → p.Binds source n → BindsValue n
  | value {d : Default} {left right : Node} : p.value = some d → p.Binds source left →
      right.span = d.extent.span → right.literalKind? = d.kind.map (·.name) →
      BindsValue (.assignmentPattern p.valueExtent.span left right [])

inductive Represents : Node → Prop
  | plain {n : Node} : p.promoted = false → p.BindsValue source n → Represents n
  | promoted {n : Node} : p.promoted = true → p.BindsValue source n →
      Represents (.parameterProperty p.extent.span n ((p.accessibilityText source).elim .null .str)
        p.readonly.isSome p.override.isSome [])

end Written

section Classify

variable {p : Written} {source : String} {n : Node}

theorem text_of_span {e : Extent} (h : n.span = e.span) :
    n.text (SourceText.ofString source) = e.text source := by
  rw [Node.text, Node.start, Node.stop, h]
  rfl

theorem joinTexts_texts (separator : String) (texts : List String) :
    joinTexts separator (texts.map .str) = .ok (separator.intercalate texts) := by
  have hmap : ∀ f : Value × Nat → Except Fault String, (∀ s i, f (.str s, i) = .ok s) →
      ∀ k, ((texts.map .str).zipIdx k).mapM f = .ok texts := by
    intro f hf
    induction texts with
    | nil => exact fun k => rfl
    | cons s texts ih =>
      intro k
      rw [List.map_cons, List.zipIdx_cons, List.mapM_cons, hf, ih (k + 1)]
      rfl
  unfold joinTexts
  rw [hmap _ fun _ _ => rfl]
  rfl

namespace Written

theorem modifierText_eq (p : Written) (source : String) :
    ArityLint.modifierText ((p.accessibilityText source).elim .null .str) p.override.isSome
      p.readonly.isSome = .ok (p.modifierText source) := by
  have haccessibility : ∀ t : Option String,
      (if (t.elim .null .str : Value).truthy then [(t.elim .null .str : Value)] else []) =
        (t.toList.filter (· ≠ "")).map .str := by
    rintro (_ | s)
    · rfl
    · by_cases hs : s = "" <;> simp [Value.truthy, hs]
  unfold ArityLint.modifierText Written.modifierText
  rw [haccessibility, ← joinTexts_texts, List.map_append, List.map_append, apply_ite (List.map _),
    apply_ite (List.map _)]
  rfl

theorem TypeAt.text {t : Option Node} (h : p.TypeAt t) :
    t.map (·.text (SourceText.ofString source)) = p.typeText source := by
  unfold TypeAt at h
  unfold typeText
  generalize p.declared = d at h ⊢
  cases h with
  | none => rfl
  | some hspan => exact congrArg some (text_of_span hspan)

theorem valueExtent_of_not_promoted (h : p.promoted = false) : p.valueExtent = p.extent := by
  simp only [promoted, Bool.or_eq_false_iff, Option.isSome_eq_false_iff, Option.isNone_iff_eq_none]
    at h
  unfold extent first
  rw [h.1.1, h.1.2, h.2]
  rfl

theorem plainExtent_of_value (h : p.value = none) : p.plainExtent = p.valueExtent := by
  unfold plainExtent valueExtent
  rw [h]
  rfl

theorem Represents.classify (h : p.Represents source n) :
    n.classify (SourceText.ofString source) = .ok (p.shape source) := by
  cases h with
  | plain hpromoted hn =>
    have hextent := valueExtent_of_not_promoted hpromoted
    cases hn with
    | plain hvalue hn =>
      rw [← plainExtent_of_value hvalue] at hextent
      cases hn with
      | name hbound ht =>
        simp only [Node.classify, Node.decorators, shape, hbound, hvalue, hpromoted, hextent,
          ht.text]
        rfl
      | object hbound | array hbound | rest hbound =>
        simp only [Node.classify, Node.decorators, shape, hbound, hvalue, hpromoted, hextent]
        rfl
    | @value d left right hvalue hn hright hkind =>
      have htext : right.text (SourceText.ofString source) = d.extent.text source :=
        text_of_span hright
      cases hn with
      | name hbound ht =>
        simp only [Node.classify, Node.decorators, shape, hbound, hvalue, hextent,
          Node.withDefault, htext, hkind, ht.text]
        rfl
      | object hbound | array hbound | rest hbound =>
        simp only [Node.classify, Node.decorators, shape, hbound, hvalue, hpromoted, hextent]
        rfl
  | promoted hpromoted hn =>
    cases hn with
    | plain hvalue hn =>
      cases hn with
      | name hbound ht =>
        simp only [Node.classify, Node.decorators, shape, hbound, hvalue, hpromoted, ht.text,
          modifierText_eq]
        rfl
      | object hbound | array hbound | rest hbound =>
        simp only [Node.classify, Node.decorators, shape, hbound, hvalue, hpromoted]
        rfl
    | @value d left right hvalue hn hright hkind =>
      have htext : right.text (SourceText.ofString source) = d.extent.text source :=
        text_of_span hright
      cases hn with
      | name hbound ht =>
        simp only [Node.classify, Node.decorators, shape, hbound, hvalue, hpromoted,
          Node.withDefault, htext, hkind, ht.text]
        rfl
      | object hbound | array hbound | rest hbound =>
        simp only [Node.classify, Node.decorators, shape, hbound, hvalue, hpromoted]
        rfl

end Written

end Classify

end ArityLint
