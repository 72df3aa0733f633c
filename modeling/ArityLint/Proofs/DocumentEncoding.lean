import ArityLint.Proofs.Acceptance
import ArityLint.Proofs.Written

namespace ArityLint

def Bound.type : Bound → String
  | name => "Identifier"
  | object => "ObjectPattern"
  | array => "ArrayPattern"
  | rest => "RestElement"

namespace Estree

/-- An object of a type, with an extent for its range. -/
structure IsObject (type : String) (e : Extent) (fields : List (String × Value)) : Prop where
  type : get fields "type" = .str type
  range : get fields "range" = .arr [.int e.start, .int e.stop]

def IsUndecorated (fields : List (String × Value)) : Prop :=
  get fields "decorators" = .null ∨ get fields "decorators" = .arr []

/-- The value holds a declared type, inside a node of its own, or nothing. -/
inductive HoldsType : Option Declared → Value → Prop
  | none : HoldsType none .null
  | some {d : Declared} {wrapper inner : List (String × Value)} :
      get wrapper "type" = .str "TSTypeAnnotation" → get wrapper "typeAnnotation" = .obj inner →
      isNode (.obj inner) → get inner "range" = .arr [.int d.type.start, .int d.type.stop] →
      HoldsType (some d) (.obj wrapper)

/-- How a literal shows its kind: by a field of its own, or else by its value. -/
def ShowsKind (fields : List (String × Value)) : LiteralKind → Prop
  | .regex => (Value.field? fields "regex").isSome
  | .bigint => Value.field? fields "regex" = none ∧ (Value.field? fields "bigint").isSome
  | kind => Value.field? fields "regex" = none ∧ Value.field? fields "bigint" = none ∧
    match kind with
    | .string => ∃ s, get fields "value" = .str s
    | .number => ∃ v, get fields "value" = v ∧ ((∃ n, v = .int n) ∨ ∃ x, v = .float x)
    | .boolean => ∃ b, get fields "value" = .bool b
    | _ => get fields "value" = .null

structure IsDefault (d : Default) (fields : List (String × Value)) : Prop where
  range : get fields "range" = .arr [.int d.extent.start, .int d.extent.stop]
  kind : match d.kind with
    | none => get fields "type" ≠ .str "Literal"
    | some kind => get fields "type" = .str "Literal" ∧ ShowsKind fields kind

variable (source : String) (p : Written)

/-- The object of what a parameter binds, with its type. -/
structure IsBound (fields : List (String × Value)) : Prop where
  object : IsObject p.bound.type p.plainExtent fields
  undecorated : IsUndecorated fields
  declared : HoldsType p.declared (get fields "typeAnnotation")
  name : p.bound = .name → get fields "name" = p.name source ∧
    (get fields "optional").truthy = p.question.isSome

/-- The object of what a parameter binds, with its default. -/
inductive IsBoundValue : Value → Prop
  | plain {fields : List (String × Value)} : p.value = none → IsBound source p fields →
      IsBoundValue (.obj fields)
  | value {d : Default} {fields left right : List (String × Value)} : p.value = some d →
      IsObject "AssignmentPattern" p.valueExtent fields → IsUndecorated fields →
      get fields "left" = .obj left → IsBound source p left →
      get fields "right" = .obj right → IsDefault d right → IsBoundValue (.obj fields)

inductive IsParameter : Value → Prop
  | plain {v : Value} : p.promoted = false → IsBoundValue source p v → IsParameter v
  | promoted {fields : List (String × Value)} : p.promoted = true →
      IsObject "TSParameterProperty" p.extent fields → IsUndecorated fields →
      IsBoundValue source p (get fields "parameter") →
      get fields "accessibility" = (p.accessibilityText source).elim .null .str →
      (get fields "readonly").truthy = p.readonly.isSome →
      (get fields "override").truthy = p.override.isSome → IsParameter (.obj fields)

section Convert

variable {source : String} {p : Written} {path : Path} {fields : List (String × Value)}
  {convert : Value → Except Error Node} {levels : Nat} {n : Node}

theorem field?_of_get {key : String} {v : Value} (h : get fields key = v) (hv : v ≠ .null) :
    Value.field? fields key = some v := by
  unfold get at h
  cases hfield : Value.field? fields key with
  | none =>
    rw [hfield] at h
    exact absurd h.symm hv
  | some w =>
    rw [hfield] at h
    exact congrArg some h

theorem span_of_range {i j : Nat} (h : get fields "range" = .arr [.int i, .int j]) :
    span path fields = .ok ⟨i, j⟩ := by
  unfold span
  rw [h]
  rfl

theorem isNode_of_type {type : String} (h : get fields "type" = .str type) :
    isNode (.obj fields) := by
  change (Value.field? fields "type").isSome
  rw [field?_of_get h nofun]
  rfl

theorem named_eq_ok {s : Span} {type : String} (h : named path fields convert s type = .ok n) :
    n.span = s ∧ (type ≠ "Literal" → n.literalKind? = none) := by
  have hfunction : ∀ kind, function fields convert s kind = .ok n →
      n.span = s ∧ (type ≠ "Literal" → n.literalKind? = none) := by
    intro kind h
    obtain ⟨ps, _, h⟩ := Except.bind_eq_ok h
    obtain ⟨i, _, h⟩ := Except.bind_eq_ok h
    obtain ⟨b, _, h⟩ := Except.bind_eq_ok h
    obtain ⟨r, _, h⟩ := Except.bind_eq_ok h
    cases h
    exact ⟨rfl, fun _ => rfl⟩
  unfold named at h
  split at h
  case h_2 =>
    cases h
    exact ⟨rfl, fun h => absurd rfl h⟩
  case h_8 | h_9 | h_10 => exact hfunction _ h
  case h_3 | h_4 | h_5 | h_6 =>
    obtain ⟨x, _, h⟩ := Except.bind_eq_ok h
    obtain ⟨y, _, h⟩ := Except.bind_eq_ok h
    obtain ⟨z, _, h⟩ := Except.bind_eq_ok h
    cases h
    exact ⟨rfl, fun _ => rfl⟩
  case h_17 =>
    obtain ⟨ns, _, h⟩ := Except.bind_eq_ok h
    cases h
    exact ⟨rfl, fun _ => rfl⟩
  all_goals
    obtain ⟨x, _, h⟩ := Except.bind_eq_ok h
    obtain ⟨y, _, h⟩ := Except.bind_eq_ok h
    cases h
    exact ⟨rfl, fun _ => rfl⟩

theorem convert_obj_eq_ok (h : Estree.convert path levels (.obj fields) = .ok n) :
    ∃ levels', object path fields (Estree.convert path levels') = .ok n := by
  cases levels with
  | zero => cases h
  | succ levels => exact ⟨levels, h⟩

theorem span_of_convert {i j : Nat} (hrange : get fields "range" = .arr [.int i, .int j])
    (h : Estree.convert path levels (.obj fields) = .ok n) :
    n.span = ⟨i, j⟩ ∧ (get fields "type" ≠ .str "Literal" → n.literalKind? = none) := by
  obtain ⟨levels, h⟩ := convert_obj_eq_ok h
  unfold object at h
  rw [span_of_range hrange] at h
  obtain ⟨s, ⟨⟩, h⟩ := Except.bind_eq_ok h
  split at h
  · next type htype =>
    obtain ⟨hspan, hliteral⟩ := named_eq_ok h
    refine ⟨hspan, fun hne => hliteral ?_⟩
    rintro rfl
    exact hne htype
  · cases h
  · cases h
  · obtain ⟨ns, _, h⟩ := Except.bind_eq_ok h
    cases h
    exact ⟨rfl, fun _ => rfl⟩

theorem named_of_convert {type : String} {e : Extent} (hobject : IsObject type e fields)
    (h : Estree.convert path levels (.obj fields) = .ok n) :
    ∃ levels', named path fields (Estree.convert path levels') e.span type = .ok n := by
  obtain ⟨levels, h⟩ := convert_obj_eq_ok h
  unfold object at h
  rw [span_of_range hobject.range, hobject.type] at h
  exact ⟨levels, h⟩

theorem children_of_undecorated {ds : List Node} (hfields : IsUndecorated fields)
    (h : children fields convert "decorators" = .ok ds) : ds = [] := by
  unfold children at h
  rcases hfields with heq | heq
  · rw [heq] at h
    exact (Except.ok.inj h).symm
  · rw [heq] at h
    exact (Except.ok.inj h).symm

theorem typeAt_of_typeExpr? {t : Option Node}
    (hfields : HoldsType p.declared (get fields "typeAnnotation"))
    (h : typeExpr? fields (Estree.convert path levels) "typeAnnotation" = .ok t) : p.TypeAt t := by
  unfold typeExpr? at h
  unfold Written.TypeAt
  generalize p.declared = d, get fields "typeAnnotation" = v at hfields h
  cases hfields with
  | none =>
    cases h
    exact .none
  | @some d wrapper inner htype hinner hnode hrange =>
    dsimp only at h
    rw [if_pos (isNode_of_type htype), hinner, if_pos hnode] at h
    obtain ⟨m, hm, rfl⟩ := Except.map_eq_ok h
    exact .some (span_of_convert hrange hm).1

theorem child_eq_ok {key : String} (h : child path fields convert key = .ok n) :
    convert (get fields key) = .ok n := by
  unfold child at h
  dsimp only at h
  split at h
  · exact h
  · cases h

theorem binds_of_convert (hfields : IsBound source p fields)
    (h : Estree.convert path levels (.obj fields) = .ok n) : p.Binds source n := by
  obtain ⟨levels, h⟩ := named_of_convert hfields.object h
  cases hbound : p.bound with
  | name =>
    rw [hbound] at h
    obtain ⟨hname, hoptional⟩ := hfields.name hbound
    obtain ⟨t, ht, h⟩ := Except.bind_eq_ok h
    obtain ⟨ds, hds, h⟩ := Except.bind_eq_ok h
    cases h
    rw [children_of_undecorated hfields.undecorated hds, field?_of_get hname nofun, hoptional]
    exact .name hbound (typeAt_of_typeExpr? hfields.declared ht)
  | object =>
    rw [hbound] at h
    obtain ⟨ns, _, h⟩ := Except.bind_eq_ok h
    obtain ⟨t, _, h⟩ := Except.bind_eq_ok h
    obtain ⟨ds, hds, h⟩ := Except.bind_eq_ok h
    cases h
    rw [children_of_undecorated hfields.undecorated hds]
    exact .object hbound
  | array =>
    rw [hbound] at h
    obtain ⟨ns, _, h⟩ := Except.bind_eq_ok h
    obtain ⟨t, _, h⟩ := Except.bind_eq_ok h
    obtain ⟨ds, hds, h⟩ := Except.bind_eq_ok h
    cases h
    rw [children_of_undecorated hfields.undecorated hds]
    exact .array hbound
  | rest =>
    rw [hbound] at h
    obtain ⟨a, _, h⟩ := Except.bind_eq_ok h
    obtain ⟨t, _, h⟩ := Except.bind_eq_ok h
    obtain ⟨ds, hds, h⟩ := Except.bind_eq_ok h
    cases h
    rw [children_of_undecorated hfields.undecorated hds]
    exact .rest hbound

theorem literalKind?_literal {kind : LiteralKind} (h : ShowsKind fields kind) (s : Span) :
    (literal fields s).literalKind? = some kind.name := by
  unfold literal Node.literalKind?
  cases kind with
  | regex => simp only [show (Value.field? fields "regex").isSome from h, if_true]
  | bigint => simp [h.1, h.2]
  | string =>
    obtain ⟨hregex, hbigint, s, hs⟩ := h
    simp [hregex, hbigint, hs]
  | number =>
    obtain ⟨hregex, hbigint, v, hv, ⟨n, rfl⟩ | ⟨x, rfl⟩⟩ := h <;> simp [hregex, hbigint, hv]
  | boolean =>
    obtain ⟨hregex, hbigint, b, hb⟩ := h
    simp [hregex, hbigint, hb]
  | null =>
    obtain ⟨hregex, hbigint, hnull⟩ := h
    simp [hregex, hbigint, hnull]

/-- A default is converted to a node where it is written, and to a literal exactly if it is one. -/
theorem default_of_convert {d : Default} (hfields : IsDefault d fields)
    (h : Estree.convert path levels (.obj fields) = .ok n) :
    n.span = d.extent.span ∧ n.literalKind? = d.kind.map (·.name) := by
  obtain ⟨hspan, hliteral⟩ := span_of_convert hfields.range h
  refine ⟨hspan, ?_⟩
  have hkind := hfields.kind
  cases hd : d.kind with
  | none =>
    rw [hd] at hkind
    exact hliteral hkind
  | some kind =>
    rw [hd] at hkind
    obtain ⟨levels, h⟩ := named_of_convert ⟨hkind.1, hfields.range⟩ h
    cases h
    exact literalKind?_literal hkind.2 _

theorem bindsValue_of_convert {v : Value} (hv : IsBoundValue source p v)
    (h : Estree.convert path levels v = .ok n) : p.BindsValue source n := by
  cases hv with
  | plain hvalue hfields => exact .plain hvalue (binds_of_convert hfields h)
  | value hvalue hobject hdecorators hleft hbound hright hdefault =>
    obtain ⟨levels, h⟩ := named_of_convert hobject h
    obtain ⟨l, hl, h⟩ := Except.bind_eq_ok h
    obtain ⟨r, hr, h⟩ := Except.bind_eq_ok h
    obtain ⟨ds, hds, h⟩ := Except.bind_eq_ok h
    cases h
    have hl := child_eq_ok hl
    have hr := child_eq_ok hr
    rw [hleft] at hl
    rw [hright] at hr
    obtain ⟨hspan, hkind⟩ := default_of_convert hdefault hr
    rw [children_of_undecorated hdecorators hds]
    exact .value hvalue (binds_of_convert hbound hl) hspan hkind

theorem represents_of_convert {v : Value} (hv : IsParameter source p v)
    (h : Estree.convert path levels v = .ok n) : p.Represents source n := by
  cases hv with
  | plain hpromoted hv => exact .plain hpromoted (bindsValue_of_convert hv h)
  | promoted hpromoted hobject hdecorators hv haccessibility hreadonly hoverride =>
    obtain ⟨levels, h⟩ := named_of_convert hobject h
    obtain ⟨m, hm, h⟩ := Except.bind_eq_ok h
    obtain ⟨ds, hds, h⟩ := Except.bind_eq_ok h
    cases h
    rw [children_of_undecorated hdecorators hds, haccessibility, hreadonly, hoverride]
    exact .promoted hpromoted (bindsValue_of_convert hv (child_eq_ok hm))

theorem IsParameter.isNode {v : Value} (h : IsParameter source p v) : isNode v := by
  cases h with
  | plain _ hv =>
    cases hv with
    | plain _ hfields => exact isNode_of_type hfields.object.type
    | value _ hobject => exact isNode_of_type hobject.type
  | promoted _ hobject => exact isNode_of_type hobject.type

/-- The acceptable object of a parameter is converted to a node that says what is written. -/
theorem exists_document {v : Value} (hv : IsParameter source p v) (hacceptable : Acceptable v)
    (hdepth : v.depth ≤ levels) :
    ∃ n, Estree.convert path levels v = .ok n ∧ p.Represents source n := by
  obtain ⟨n, hn⟩ := (answers_convert path hv.isNode hdepth).ok_iff.2 hacceptable
  exact ⟨n, hn, represents_of_convert hv hn⟩

end Convert

end Estree

end ArityLint
