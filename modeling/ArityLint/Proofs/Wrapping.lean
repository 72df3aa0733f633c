import ArityLint.Proofs.Defaults
import ArityLint.Proofs.Likeness
import Mathlib.Logic.Relation

namespace ArityLint

/-- The offsets are both in their texts, or both beyond them. -/
def Utf8.Encoded.SameReach (code code' : Utf8.Encoded) (byte byte' : Nat) : Prop :=
  (code.char? byte).isSome = (code'.char? byte').isSome

def nameKinds : List String :=
  ["identifier", "property_identifier", "shorthand_property_identifier", "this"]

/-- A token of one text reads as a token of another one: apart from the range they are the same, the
one can be read if the other can, and as the same name. -/
structure Token.ReadsAlike (code code' : Utf8.Encoded) (t t' : Token) : Prop where
  kind : t'.kind = t.kind
  named : t'.named = t.named
  hasError : t'.hasError = t.hasError
  start : code.SameReach code' t.start t'.start
  stop : code.SameReach code' t.stop t'.stop
  readable : (code.text t.start t.stop).toOption.isSome =
    (code'.text t'.start t'.stop).toOption.isSome
  name : t.kind ∈ nameKinds →
    (code.text t.start t.stop).toOption = (code'.text t'.start t'.stop).toOption

/-- The fields that hold an expression on its own, by kind of node. -/
def expressionFields : List (String × String) :=
  [("variable_declarator", "value"), ("call_expression", "function"), ("pair", "value"),
    ("assignment_expression", "left"), ("assignment_expression", "right"),
    ("augmented_assignment_expression", "left"), ("augmented_assignment_expression", "right"),
    ("member_expression", "object"), ("subscript_expression", "object")]

/-- A child under this field of a node of this kind is an expression on its own. -/
def HoldsExpression (kind : String) (field : Option String) : Prop :=
  kind = "arguments" ∨ ∃ f, field = some f ∧ (kind, f) ∈ expressionFields

namespace Concrete

/-- Parentheses with the node as their first named child besides comments. -/
structure Opens (c d : Concrete) : Prop where
  kind : c.kind = "parenthesized_expression"
  named : c.token.named
  head : c.parts.head? = some d

/-- One or more pairs of parentheses with the node inside. -/
def Parenthesizes : Concrete → Concrete → Prop := Relation.TransGen Opens

/-- The second node is the first one, or parentheses around it where an expression may stand. -/
def Encloses (kind : String) (e c : Concrete) : Prop :=
  c = e ∨ HoldsExpression kind c.token.field ∧ c.Parenthesizes e

/-- The second tree is the first one with parentheses around expressions, over texts in which all
other tokens read alike. -/
inductive Wraps (code code' : Utf8.Encoded) : Concrete → Concrete → Prop
  | node {t t' : Token} {cs es cs' : List Concrete} : t.ReadsAlike code code' t' →
      List.Forall₂ (Wraps code code') cs es → List.Forall₂ (Encloses t.kind) es cs' →
      cs.map (·.token.field) = cs'.map (·.token.field) →
      Wraps code code' (node t cs) (node t' cs')

mutual

def height : Concrete → Nat
  | node _ cs => heights cs + 1

def heights : List Concrete → Nat
  | [] => 0
  | c :: cs => max (height c) (heights cs)

end

theorem height_le_heights {c : Concrete} {cs : List Concrete} (h : c ∈ cs) :
    c.height ≤ heights cs := by
  induction cs with
  | nil => cases h
  | cons d cs ih =>
    rw [heights]
    rcases List.mem_cons.1 h with rfl | h
    · omega
    · have hle := ih h
      omega

theorem height_lt {c d : Concrete} (h : d ∈ c.children) : d.height < c.height := by
  cases c with
  | node t cs =>
    have hle : d.height ≤ heights cs := height_le_heights h
    rw [height]
    omega

theorem height_pos (c : Concrete) : 0 < c.height := by
  cases c
  rw [height]
  omega

end Concrete

section Holders

variable {kind f : String} {o : Option String}

theorem HoldsExpression.form (h : HoldsExpression kind o) : Form.ofKind kind ∈
    [.other, .declarator, .call, .pair, .assignment, .member, .subscript] := by
  have hfields : ∀ p ∈ expressionFields, Form.ofKind p.1 ∈
      [.declarator, .call, .pair, .assignment, .member, .subscript] := by decide
  rcases h with rfl | ⟨f, _, hm⟩
  · decide
  · exact List.mem_cons_of_mem _ (hfields _ hm)

theorem HoldsExpression.field (h : HoldsExpression kind (some f))
    (hkind : Form.ofKind kind ≠ .other) : f ∈ ["value", "function", "left", "right", "object"] := by
  have hfields : ∀ p ∈ expressionFields,
      p.2 ∈ ["value", "function", "left", "right", "object"] := by decide
  rcases h with rfl | ⟨_, ⟨⟩, hm⟩
  · exact absurd rfl hkind
  · exact hfields _ hm

theorem HoldsExpression.ne_object (h : HoldsExpression kind o) : kind ≠ "object" := by
  have hfields : ∀ p ∈ expressionFields, p.1 ≠ "object" := by decide
  rcases h with rfl | ⟨_, _, hm⟩
  · decide
  · exact hfields _ hm

theorem not_holdsExpression {form : Form} (h : Form.ofKind kind = form)
    (hform : form ∉ [.other, .declarator, .call, .pair, .assignment, .member, .subscript]) :
    ¬HoldsExpression kind o :=
  fun hk => hform (h ▸ hk.form)

theorem mem_nameKinds (h : Form.ofKind kind = .name) : kind ∈ nameKinds := by
  unfold Form.ofKind at h
  split at h <;> first | decide | cases h

end Holders

section Children

variable {α β : Type} {R : α → β → Prop} {xs : List α} {ys : List β}

theorem rel_find? {p : α → Bool} {q : β → Bool} (hpq : ∀ a b, R a b → p a = q b)
    (h : List.Forall₂ R xs ys) : Option.Rel R (xs.find? p) (ys.find? q) := by
  induction h with
  | nil => exact .none
  | @cons a b _ _ hab _ ih =>
    rw [List.find?_cons, List.find?_cons, hpq a b hab]
    cases q b with
    | true => exact .some hab
    | false => exact ih

end Children

namespace Concrete

variable {code code' : Utf8.Encoded} {c c' d d' e : Concrete} {k : String}

theorem Wraps.reads (h : Wraps code code' c c') : c.token.ReadsAlike code code' c'.token := by
  cases h with
  | node ht => exact ht

theorem Wraps.kind (h : Wraps code code' c c') : c'.kind = c.kind := h.reads.kind

theorem Wraps.isMark (h : Wraps code code' c c') (text : String) :
    c'.isMark text = c.isMark text := by
  rw [Concrete.isMark, Concrete.isMark, h.kind, h.reads.named]

/-- A child and what stands in its place, under the same field. -/
structure Replaces (code code' : Utf8.Encoded) (kind : String) (d d' : Concrete) : Prop where
  field : d'.token.field = d.token.field
  encloses : ∃ e, Wraps code code' d e ∧ Encloses kind e d'

theorem Wraps.children (h : Wraps code code' c c') :
    List.Forall₂ (Replaces code code' c.kind) c.children c'.children := by
  obtain @⟨t, t', cs, es, cs', ht, hes, hcs, hfields⟩ := h
  change List.Forall₂ (Replaces code code' t.kind) cs cs'
  induction hes generalizing cs' with
  | nil =>
    cases hcs
    exact .nil
  | cons hd _ ih =>
    cases hcs with
    | cons hd' hcs =>
      obtain ⟨hfield, hfields⟩ := List.cons.inj hfields
      exact .cons ⟨hfield.symm, _, hd, hd'⟩ (ih hcs hfields)

theorem Replaces.wraps (h : Replaces code code' k d d')
    (hkind : ¬HoldsExpression k d.token.field) : Wraps code code' d d' := by
  obtain ⟨hfield, e, he, rfl | ⟨hholds, _⟩⟩ := h
  · exact he
  · exact absurd (hfield ▸ hholds) hkind

theorem Parenthesizes.outer (h : c.Parenthesizes e) :
    c.token.named ∧ isExtra c.kind = false := by
  obtain ⟨d, hd, _⟩ := Relation.TransGen.head'_iff.1 h
  exact ⟨hd.named, by rw [hd.kind]; decide⟩

theorem Parenthesizes.inner (h : c.Parenthesizes e) : e.token.named ∧ isExtra e.kind = false := by
  obtain ⟨d, _, hd⟩ := Relation.TransGen.tail'_iff.1 h
  have hpart := (List.mem_filter.1 (List.mem_of_head? hd.head)).2
  simpa using hpart

/-- What stands in the place of a child is a part of its node if the child is one. -/
theorem Replaces.isPart (h : Replaces code code' k d d') :
    (d.token.named && !isExtra d.kind) = (d'.token.named && !isExtra d'.kind) := by
  obtain ⟨_, e, he, heq | ⟨_, hp⟩⟩ := h
  · rw [heq, he.reads.named, he.kind]
  · have hinner := hp.inner
    rw [he.reads.named, he.kind] at hinner
    rw [hp.outer.1, hp.outer.2, hinner.1, hinner.2]

/-- What is lowered in the place of a node: the same but for parentheses within it, and perhaps in
parentheses itself, though not as an entry of an object. -/
inductive StandsFor (code code' : Utf8.Encoded) : Option String → Concrete → Concrete → Prop
  | bare {parent : Option String} {c c' : Concrete} : Wraps code code' c c' →
      StandsFor code code' parent c c'
  | opens {parent : Option String} {c c' d : Concrete} : parent ≠ some "object" → c'.Opens d →
      StandsFor code code' (some "parenthesized_expression") c d → StandsFor code code' parent c c'

theorem StandsFor.of_parenthesizes (h : Wraps code code' c e) (hp : c'.Parenthesizes e)
    {parent : Option String} (hparent : parent ≠ some "object") :
    StandsFor code code' parent c c' := by
  induction hp using Relation.TransGen.head_induction_on generalizing parent with
  | single hopens => exact .opens hparent hopens (.bare h)
  | head hopens _ ih => exact .opens hparent hopens (ih (by decide))

theorem Replaces.standsFor (h : Replaces code code' k d d') : StandsFor code code' (some k) d d' := by
  obtain ⟨_, e, he, rfl | ⟨hholds, hp⟩⟩ := h
  · exact .bare he
  · exact .of_parenthesizes he hp fun hk => hholds.ne_object (Option.some.inj hk)

variable (h : Wraps code code' c c')
include h

theorem Wraps.replaces_parts : List.Forall₂
    (fun d d' => Replaces code code' c.kind d d' ∧ d' ∈ c'.children) c.parts c'.parts := by
  have hchildren := (forall₂_mem h.children).imp fun _ _ hd => And.intro hd.2.2 hd.2.1
  exact List.rel_filter (fun _ _ hd => iff_of_eq (congrArg (· = true) hd.1.isPart)) hchildren

theorem Wraps.parts : List.Forall₂
    (fun d d' => StandsFor code code' (some c.kind) d d' ∧ d' ∈ c'.children) c.parts c'.parts :=
  h.replaces_parts.imp fun _ _ hd => ⟨hd.1.standsFor, hd.2⟩

theorem Wraps.replaces_child? (field : String) : Option.Rel
    (fun d d' => Replaces code code' c.kind d d' ∧ d' ∈ c'.children) (c.child? field)
    (c'.child? field) := by
  have hchildren := (forall₂_mem h.children).imp fun _ _ hd => And.intro hd.2.2 hd.2.1
  exact rel_find? (fun _ _ hd => by rw [hd.1.field]) hchildren

theorem Wraps.child? (field : String) : Option.Rel
    (fun d d' => StandsFor code code' (some c.kind) d d' ∧ d' ∈ c'.children) (c.child? field)
    (c'.child? field) := by
  have hrel := h.replaces_child? field
  generalize c.child? field = o, c'.child? field = o' at hrel
  cases hrel with
  | none => exact .none
  | some hd => exact .some ⟨hd.1.standsFor, hd.2⟩

theorem Wraps.plainChild? {field : String} (hplain : ¬HoldsExpression c.kind (some field)) :
    Option.Rel (fun d d' => Wraps code code' d d' ∧ d' ∈ c'.children) (c.child? field)
      (c'.child? field) := by
  have hfield : ∀ d, c.child? field = some d → d.token.field = some field := fun d hd => by
    simpa using List.find?_some hd
  have hrel := h.replaces_child? field
  generalize c.child? field = o, c'.child? field = o' at hrel hfield
  cases hrel with
  | none => exact .none
  | some hd => exact .some ⟨hd.1.wraps (hfield _ rfl ▸ hplain), hd.2⟩

theorem Wraps.plainChildren (hplain : ∀ field, ¬HoldsExpression c.kind field) :
    List.Forall₂ (fun d d' => Wraps code code' d d' ∧ d' ∈ c'.children) c.children c'.children :=
  (forall₂_mem h.children).imp fun _ _ hd => ⟨hd.2.2.wraps (hplain _), hd.2.1⟩

end Concrete

section Moving

variable {xs xs' ys zs zs' : List Char}

/-- In a text around another one, the characters of that come after those before it. -/
theorem Utf8.Offset.within {byte i : Nat} (h : Utf8.Offset (String.ofList ys) byte i) :
    Utf8.Offset (String.ofList (xs ++ (ys ++ zs))) (byte + xs.utf8Encode.size) (i + xs.length) := by
  obtain ⟨hi, rfl⟩ := h
  rw [String.length_ofList] at hi
  refine ⟨?_, ?_⟩
  · rw [String.length_ofList, List.length_append, List.length_append]
    omega
  · rw [String.toList_ofList, String.toList_ofList, Nat.add_comm i, List.take_length_add_append,
      List.take_append_of_le_length hi, List.utf8Encode_append, ByteArray.size_append, Nat.add_comm]

theorem Utf8.Offset.text_within {start stop i j : Nat}
    (hstart : Utf8.Offset (String.ofList ys) start i) (hstop : Utf8.Offset (String.ofList ys) stop j)
    (xs zs : List Char) :
    (Utf8.Encoded.ofString (String.ofList (xs ++ (ys ++ zs)))).text (start + xs.utf8Encode.size)
      (stop + xs.utf8Encode.size) = .ok (String.ofList ((ys.take j).drop i)) := by
  have hj := hstop.1
  rw [String.length_ofList] at hj
  unfold Utf8.Encoded.text
  rw [← Utf8.decode_utf8Encode]
  change Utf8.decode ((String.ofList _).toUTF8.extract _ _) = _
  rw [hstart.within.extract hstop.within, String.toList_ofList, Nat.add_comm j, Nat.add_comm i,
    List.take_length_add_append, List.drop_length_add_append, List.take_append_of_le_length hj]

def Token.moved (k : Nat) (t : Token) : Token := { t with start := t.start + k, stop := t.stop + k }

/-- Tokens over characters of their texts are only told apart by what these are, if they are names.
-/
theorem Token.readsAlike_of_offsets {source source' : String} {t t' : Token} {i j i' j' : Nat}
    (hkind : t'.kind = t.kind) (hnamed : t'.named = t.named) (herror : t'.hasError = t.hasError)
    (hstart : Utf8.Offset source t.start i) (hstop : Utf8.Offset source t.stop j)
    (hstart' : Utf8.Offset source' t'.start i') (hstop' : Utf8.Offset source' t'.stop j')
    (hname : t.kind ∈ nameKinds → (Utf8.Encoded.ofString source).text t.start t.stop =
      (Utf8.Encoded.ofString source').text t'.start t'.stop) :
    t.ReadsAlike (.ofString source) (.ofString source') t' := by
  refine ⟨hkind, hnamed, herror, ?_, ?_, ?_, fun hk => congrArg (·.toOption) (hname hk)⟩
  · rw [Utf8.Encoded.SameReach, hstart.char?, hstart'.char?]
    rfl
  · rw [Utf8.Encoded.SameReach, hstop.char?, hstop'.char?]
    rfl
  · rw [hstart.text_eq hstop, hstart'.text_eq hstop']
    rfl

theorem Token.readsAlike_moved {t : Token} {i j : Nat}
    (hstart : Utf8.Offset (String.ofList ys) t.start i)
    (hstop : Utf8.Offset (String.ofList ys) t.stop j) :
    (t.moved xs.utf8Encode.size).ReadsAlike (.ofString (String.ofList (xs ++ (ys ++ zs))))
      (.ofString (String.ofList (xs' ++ (ys ++ zs')))) (t.moved xs'.utf8Encode.size) :=
  readsAlike_of_offsets rfl rfl rfl hstart.within hstop.within hstart.within hstop.within
    fun _ => (hstart.text_within hstop xs zs).trans (hstart.text_within hstop xs' zs').symm

namespace Concrete

mutual

/-- The tree of a text that stands `k` bytes further on. -/
def moved (k : Nat) : Concrete → Concrete
  | node t cs => node (t.moved k) (movedAll k cs)

def movedAll (k : Nat) : List Concrete → List Concrete
  | [] => []
  | c :: cs => moved k c :: movedAll k cs

end

theorem movedAll_eq_map (k : Nat) (cs : List Concrete) : movedAll k cs = cs.map (moved k) := by
  induction cs with
  | nil => rfl
  | cons c cs ih => rw [movedAll, ih, List.map_cons]

theorem Encloses.refl_list (k : String) (cs : List Concrete) : List.Forall₂ (Encloses k) cs cs :=
  List.forall₂_same.2 fun _ _ => .inl rfl

theorem wraps_moved {c : Concrete} (h : ∀ d ∈ c.nodes, d.LiesInText (String.ofList ys))
    (xs xs' zs zs' : List Char) : Wraps (.ofString (String.ofList (xs ++ (ys ++ zs))))
      (.ofString (String.ofList (xs' ++ (ys ++ zs')))) (c.moved xs.utf8Encode.size)
      (c.moved xs'.utf8Encode.size) := by
  induction c using induction with
  | h c ih =>
    obtain ⟨t, cs⟩ := c
    rw [nodes_eq, List.forall_mem_cons] at h
    obtain ⟨⟨⟨i, hi⟩, j, hj⟩, hbelow⟩ := h
    rw [moved, moved, movedAll_eq_map, movedAll_eq_map]
    refine .node (Token.readsAlike_moved hi hj) ?_ (Encloses.refl_list _ _) ?_
    · rw [List.forall₂_map_left_iff, List.forall₂_map_right_iff, List.forall₂_same]
      exact fun d hd => ih d hd fun e he => hbelow e (List.mem_flatMap.2 ⟨d, hd, he⟩)
    · rw [List.map_map, List.map_map]
      apply List.map_congr_left
      rintro ⟨t, cs⟩ _
      rfl

end Concrete

end Moving

end ArityLint
