import ArityLint.Proofs.Offsets
import ArityLint.Proofs.Origins

namespace ArityLint

namespace Concrete

/-- The fields of a node that are taken for granted. -/
def requiredFields (c : Concrete) : List String :=
  match Form.ofKind c.kind with
  | .method | .declarator => ["name"]
  | .parameter _ => ["pattern"]
  | .assignmentPattern | .assignment => ["left", "right"]
  | .call => if (c.child? "arguments").any (·.kind = "arguments") then ["function"] else []
  | .member => ["object", "property"]
  | .subscript => ["object", "index"]
  | .pair => ["key", "value"]
  | _ => []

/-- The node can be lowered: its range is in the text and nothing that is taken for granted is
missing. -/
structure IsSound (source : String) (c : Concrete) : Prop where
  start : ∃ i, Utf8.Offset source c.start i
  stop : ∃ i, Utf8.Offset source c.stop i
  fields : ∀ field ∈ c.requiredFields, (c.child? field).isSome
  parts : Form.ofKind c.kind = .shorthand → c.parts ≠ []

def AllSound (source : String) (c : Concrete) : Prop := ∀ d, c.Contains d → d.IsSound source

instance (source : String) (c : Concrete) : Decidable (c.IsSound source) :=
  decidable_of_iff ((∃ i, Utf8.Offset source c.start i) ∧ (∃ i, Utf8.Offset source c.stop i) ∧
      (∀ field ∈ c.requiredFields, (c.child? field).isSome) ∧
      (Form.ofKind c.kind = .shorthand → c.parts ≠ []))
    ⟨fun ⟨h₁, h₂, h₃, h₄⟩ => ⟨h₁, h₂, h₃, h₄⟩, fun ⟨h₁, h₂, h₃, h₄⟩ => ⟨h₁, h₂, h₃, h₄⟩⟩

theorem allSound_iff {source : String} {c : Concrete} :
    c.AllSound source ↔ ∀ d ∈ c.nodes, d.IsSound source := by
  simp only [AllSound, mem_nodes]

variable {source : String} {c d : Concrete}

theorem AllSound.self (h : c.AllSound source) : c.IsSound source := h c (.self c)

theorem AllSound.child (h : c.AllSound source) (hd : d ∈ c.children) : d.AllSound source :=
  fun e he => h e (.under hd he)

theorem AllSound.child? (h : c.AllSound source) {field : String} (hd : c.child? field = some d) :
    d.AllSound source :=
  h.child (mem_children_of_child? hd)

theorem AllSound.parts (h : c.AllSound source) (hd : d ∈ c.parts) : d.AllSound source :=
  h.child (mem_children_of_mem_parts hd)

end Concrete

namespace Lower

open Node

def Safe {α : Type} (x : Lowering α) : Prop := ∀ f, x ≠ .error (.fault f)

section Combinators

variable {α β : Type} {x : Lowering α}

theorem safe_ok (a : α) : Safe (.ok a : Lowering α) := nofun

theorem Safe.bind {f : α → Lowering β} (hx : Safe x) (hf : ∀ a, x = .ok a → Safe (f a)) :
    Safe (x >>= f) := by
  cases x with
  | error o =>
    cases o with
    | tooDeep => nofun
    | fault f => exact absurd rfl (hx f)
  | ok a => exact hf a rfl

theorem Safe.map {f : α → β} (hx : Safe x) : Safe (f <$> x) := by
  cases x with
  | error o =>
    cases o with
    | tooDeep => nofun
    | fault f => exact absurd rfl (hx f)
  | ok a => nofun

theorem safe_mapM {f : α → Lowering β} {xs : List α} (h : ∀ a ∈ xs, Safe (f a)) :
    Safe (xs.mapM f) := by
  induction xs with
  | nil => exact safe_ok []
  | cons a xs ih =>
    obtain ⟨ha, hxs⟩ := List.forall_mem_cons.1 h
    rw [List.mapM_cons]
    exact ha.bind fun b _ => (ih hxs).bind fun bs _ => safe_ok _

end Combinators

variable {source : String} {code : Utf8.Encoded} {lower : String → Concrete → Lowering Node}
  {c d : Concrete} {n : Node} (hcode : code = Utf8.Encoded.ofString source)

section Offsets

include hcode

theorem safe_char {byte : Nat} (h : ∃ i, Utf8.Offset source byte i) : Safe (char code byte) := by
  obtain ⟨i, hi⟩ := h
  rw [hcode, char_of_offset hi]
  exact safe_ok _

theorem safe_span {start stop : Nat} (hstart : ∃ i, Utf8.Offset source start i)
    (hstop : ∃ i, Utf8.Offset source stop i) : Safe (span code start stop) :=
  (safe_char hcode hstart).bind fun _ _ => (safe_char hcode hstop).bind fun _ _ => safe_ok _

theorem safe_spanOf (hc : c.IsSound source) : Safe (spanOf code c) :=
  safe_span hcode hc.start hc.stop

theorem safe_text (hc : c.IsSound source) : Safe (text code c) := by
  obtain ⟨i, hi⟩ := hc.start
  obtain ⟨j, hj⟩ := hc.stop
  obtain ⟨t, ht⟩ := hi.text hj
  rw [hcode, text, ht]
  exact safe_ok _

theorem safe_name (hc : c.IsSound source) : Safe (name code c) :=
  (safe_spanOf hcode hc).bind fun _ _ => (safe_text hcode hc).bind fun _ _ => safe_ok _

theorem safe_literal (hc : c.IsSound source) (kind : LiteralKind) : Safe (literal code c kind) :=
  (safe_text hcode hc).bind fun _ _ => (safe_spanOf hcode hc).bind fun _ _ => safe_ok _

theorem safe_shorthand (hc : c.AllSound source) (hform : Form.ofKind c.kind = .shorthand) :
    Safe (shorthand code c) := by
  unfold shorthand
  split
  · next hnone => exact absurd hnone (hc.self.parts hform)
  · next d ds hparts =>
    have hd : d.IsSound source := (hc.parts (by simp [hparts])).self
    exact (safe_spanOf hcode hd).bind fun _ _ => (safe_text hcode hd).bind fun _ _ =>
      (safe_spanOf hcode hc.self).bind fun _ _ => safe_ok _

end Offsets

theorem safe_need {o : Option Concrete} (property : String) (h : o.isSome) :
    Safe (need o property) := by
  obtain ⟨d, rfl⟩ := Option.isSome_iff_exists.1 h
  exact safe_ok d

/-- What is asked of the lowering of the nodes below. -/
def SafeBelow (source : String) (lower : String → Concrete → Lowering Node) : Prop :=
  ∀ parent d, d.AllSound source → Safe (lower parent d)

variable (hl : SafeBelow source lower) (hc : c.AllSound source)

section Children

include hl hc

theorem safe_child {field : String} (hfield : field ∈ c.requiredFields) :
    Safe (child lower c field) :=
  (safe_need _ (hc.self.fields field hfield)).bind fun d hd =>
    hl _ d (hc.child? (need_eq_ok hd))

theorem safe_child? (field : String) : Safe (child? lower c field) := by
  unfold child?
  split
  · next d hd => exact (hl _ d (hc.child? hd)).map
  · exact safe_ok none

theorem safe_parts : Safe (parts lower c) :=
  safe_mapM fun d hd => hl _ d (hc.parts hd)

theorem safe_annotated? (field : String) : Safe (annotated? lower (c.child? field)) := by
  unfold annotated?
  split
  · exact safe_ok none
  · next a ha =>
    split
    · exact safe_ok none
    · next d ds hparts => exact (hl _ d ((hc.child? ha).parts (by simp [hparts]))).map

theorem safe_params : Safe (params lower c) := by
  unfold params
  split
  · next list hlist => exact safe_parts hl (hc.child? hlist)
  · exact safe_ok []

theorem safe_functionParts : Safe (functionParts lower c) :=
  (safe_params hl hc).bind fun _ _ => (safe_child? hl hc "name").bind fun _ _ =>
    (safe_child? hl hc "body").bind fun _ _ => (safe_annotated? hl hc "return_type").bind fun _ _ =>
      safe_ok _

end Children

include hcode hl hc

theorem safe_restArgument : Safe (restArgument code lower c) := by
  unfold restArgument
  split
  · exact (safe_spanOf hcode hc.self).bind fun _ _ => safe_ok _
  · next d ds hparts => exact hl _ d (hc.parts (by simp [hparts]))

theorem safe_arrow : Safe (arrow code lower c) := by
  have hparams : ∀ listed, Safe (arrowParams lower c listed) := by
    intro listed
    unfold arrowParams
    split
    · next d hd => exact (hl _ d (hc.child? hd)).bind fun _ _ => safe_ok _
    · exact safe_ok listed
  exact (safe_functionParts hl hc).bind fun p _ => (hparams p.params).bind fun _ _ =>
    (safe_spanOf hcode hc.self).bind fun _ _ => safe_ok _

theorem safe_method (parent : Option String) (hform : Form.ofKind c.kind = .method) :
    Safe (method code lower parent c) := by
  have hstart : ∃ i, Utf8.Offset source ((c.child? "parameters").elim c.start (·.start)) i := by
    cases hlist : c.child? "parameters" with
    | none => exact hc.self.start
    | some list => exact (hc.child? hlist).self.start
  have hname : (c.child? "name").isSome :=
    hc.self.fields "name" (by rw [Concrete.requiredFields, hform]; simp)
  refine (safe_functionParts hl hc).bind fun p _ => (safe_span hcode hstart hc.self.stop).bind
    fun s _ => (safe_need _ hname).bind fun d hd => ?_
  have hd := hc.child? (need_eq_ok hd)
  refine (hl _ d hd).bind fun key _ => ?_
  dsimp only
  split
  · exact (safe_spanOf hcode hc.self).bind fun _ _ => safe_ok _
  · have hkind : ∀ accessor, Safe (memberKind code accessor d) := by
      intro accessor
      cases accessor with
      | some kind => exact safe_ok kind
      | none => exact (safe_text hcode hd.self).bind fun _ _ => safe_ok _
    exact (hkind _).bind fun _ _ => (safe_spanOf hcode hc.self).bind fun _ _ => safe_ok _

theorem safe_scan {kind : String} {cs : List Concrete} (b : Binding)
    (hcs : ∀ d ∈ cs, d ∈ c.children) : Safe (scan code lower kind cs b) := by
  induction cs generalizing b with
  | nil => exact safe_ok b
  | cons d cs ih =>
    obtain ⟨hd, hcs⟩ := List.forall_mem_cons.1 hcs
    have hd := hc.child hd
    unfold scan
    split
    · exact (hl _ d hd).bind fun _ _ => ih _ hcs
    · dsimp only
      split
      · exact (safe_text hcode hd.self).bind fun _ _ => ih _ hcs
      · split
        · exact ih _ hcs
        · split
          · exact ih _ hcs
          · split
            · exact safe_ok _
            · exact ih _ hcs

theorem safe_pattern {kind : String} {s : Span} {declared : Option Node} {optional : Bool} :
    Safe (pattern code lower c kind s declared optional) := by
  unfold pattern
  split
  · exact (safe_text hcode hc.self).bind fun _ _ => safe_ok _
  · exact (safe_text hcode hc.self).bind fun _ _ => safe_ok _
  · exact (safe_restArgument hcode hl hc).bind fun _ _ => safe_ok _
  · exact (safe_parts hl hc).bind fun _ _ => safe_ok _
  · exact (safe_parts hl hc).bind fun _ _ => safe_ok _
  · exact hl _ c hc

theorem safe_withValue (s : Span) (plain : Node) : Safe (withValue code lower c s plain) := by
  unfold withValue
  split
  · exact safe_ok plain
  · next v hv =>
    have hv := hc.child? hv
    exact (safe_char hcode hv.self.stop).bind fun _ _ => (hl _ v hv).bind fun _ _ => safe_ok _

theorem safe_parameter {optional : Bool} (hform : Form.ofKind c.kind = .parameter optional) :
    Safe (parameter code lower c optional) := by
  have hpattern : (c.child? "pattern").isSome :=
    hc.self.fields "pattern" (by rw [Concrete.requiredFields, hform]; simp)
  refine (safe_annotated? hl hc "type").bind fun declared _ => (safe_need _ hpattern).bind
    fun bound hbound => ?_
  have hbound := hc.child? (need_eq_ok hbound)
  refine (safe_scan hcode hl hc _ fun d hd => hd).bind fun b hb => ?_
  obtain ⟨hbstart, hbstop⟩ := scan_ends hb
  have hstart : ∃ i, Utf8.Offset source (b.start.getD c.start) i := by
    rcases hbstart with heq | ⟨d, hd, heq⟩ <;> rw [heq]
    · exact hc.self.start
    · exact (hc.child hd).self.start
  have hto : ∃ i, Utf8.Offset source b.stop i := by
    rcases hbstop with heq | ⟨d, hd, heq⟩ <;> rw [heq]
    · exact hbound.self.stop
    · exact (hc.child hd).self.stop
  have hbegin : ∃ i,
      Utf8.Offset source (if b.promoted then bound.start else b.start.getD c.start) i := by
    split
    · exact hbound.self.start
    · exact hstart
  have houter : ∃ i, Utf8.Offset source
      (if b.decorators.isEmpty then b.start.getD c.start else c.start) i := by
    split
    · exact hstart
    · exact hc.self.start
  refine (safe_span hcode hbegin hto).bind fun s _ => (safe_pattern hcode hl hbound).bind
    fun plain _ => (safe_withValue hcode hl hc s plain).bind fun binding _ =>
      (safe_char hcode houter).bind fun outer _ => ?_
  split
  · exact (safe_char hcode hc.self.stop).bind fun _ _ => safe_ok _
  · exact safe_ok _

theorem safe_assignment (hform : Form.ofKind c.kind = .assignment) :
    Safe (assignment code lower c) := by
  have hfields : c.requiredFields = ["left", "right"] := by rw [Concrete.requiredFields, hform]
  have hoperator : Safe (operatorOf code c) := by
    unfold operatorOf
    split
    · next o ho => exact safe_text hcode (hc.child? ho).self
    · exact safe_ok _
  exact (safe_spanOf hcode hc.self).bind fun _ _ =>
    (safe_child hl hc (by simp [hfields])).bind fun _ _ =>
      (safe_child hl hc (by simp [hfields])).bind fun _ _ => hoperator.bind fun _ _ => safe_ok _

theorem safe_declarator (hform : Form.ofKind c.kind = .declarator) :
    Safe (declarator code lower c) := by
  have hname : (c.child? "name").isSome :=
    hc.self.fields "name" (by rw [Concrete.requiredFields, hform]; simp)
  have htarget : ∀ bound : Concrete, bound.AllSound source → Safe (target code lower c bound) := by
    intro bound hbound
    have hstop : ∃ i, Utf8.Offset source ((c.child? "type").elim bound.stop (·.stop)) i := by
      cases htype : c.child? "type" with
      | none => exact hbound.self.stop
      | some t => exact (hc.child? htype).self.stop
    unfold target
    split
    · exact (safe_span hcode hbound.self.start hstop).bind fun _ _ =>
        (safe_text hcode hbound.self).bind fun _ _ =>
          (safe_annotated? hl hc "type").bind fun _ _ => safe_ok _
    · exact hl _ bound hbound
  exact (safe_need _ hname).bind fun bound hbound =>
    (htarget bound (hc.child? (need_eq_ok hbound))).bind fun _ _ =>
      (safe_spanOf hcode hc.self).bind fun _ _ =>
        (safe_child? hl hc "value").bind fun _ _ => safe_ok _

theorem safe_other : Safe (other code lower c) :=
  (safe_spanOf hcode hc.self).bind fun _ _ => (safe_parts hl hc).bind fun _ _ => safe_ok _

theorem safe_pair {first second : String} {make : Span → Node → Node → Node}
    (hfields : c.requiredFields = [first, second]) : Safe (do
      let s ← spanOf code c
      let a ← child lower c first
      let b ← child lower c second
      .ok (make s a b)) :=
  (safe_spanOf hcode hc.self).bind fun _ _ =>
    (safe_child hl hc (by simp [hfields])).bind fun _ _ =>
      (safe_child hl hc (by simp [hfields])).bind fun _ _ => safe_ok _

theorem safe_node (parent : Option String) : Safe (node code lower parent c) := by
  unfold node
  split
  · split
    · exact safe_other hcode hl hc
    · next d ds hparts => exact hl _ d (hc.parts (by simp [hparts]))
  · exact (safe_spanOf hcode hc.self).bind fun _ _ =>
      (safe_functionParts hl hc).bind fun _ _ => safe_ok _
  · exact safe_arrow hcode hl hc
  · next hform => exact safe_method hcode hl hc parent hform
  · next hform => exact safe_parameter hcode hl hc hform
  · exact safe_name hcode hc.self
  · next hform => exact safe_pair hcode hl hc (by rw [Concrete.requiredFields, hform])
  · exact (safe_spanOf hcode hc.self).bind fun _ _ =>
      (safe_restArgument hcode hl hc).bind fun _ _ => safe_ok _
  · exact (safe_spanOf hcode hc.self).bind fun _ _ => (safe_parts hl hc).bind fun _ _ => safe_ok _
  · exact (safe_spanOf hcode hc.self).bind fun _ _ => (safe_parts hl hc).bind fun _ _ => safe_ok _
  · next hform =>
    split
    · next args hargs =>
      split
      · next hkind =>
        have hfunction : "function" ∈ c.requiredFields := by
          simp [Concrete.requiredFields, hform, hargs, hkind]
        exact (safe_spanOf hcode hc.self).bind fun _ _ => (safe_child hl hc hfunction).bind
          fun _ _ => (safe_parts hl (hc.child? hargs)).bind fun _ _ => safe_ok _
      · exact safe_other hcode hl hc
    · exact safe_other hcode hl hc
  · next hform => exact safe_pair hcode hl hc (by rw [Concrete.requiredFields, hform])
  · next hform => exact safe_pair hcode hl hc (by rw [Concrete.requiredFields, hform])
  · next hform => exact safe_pair hcode hl hc (by rw [Concrete.requiredFields, hform])
  · next hform => exact safe_shorthand hcode hc hform
  · next hform => exact safe_assignment hcode hl hc hform
  · next hform => exact safe_declarator hcode hl hc hform
  · exact safe_literal hcode hc.self _
  · exact safe_other hcode hl hc

omit hl in
theorem safe_ofConcrete (levels : Nat) (parent : Option String) :
    Safe (ofConcrete code levels parent c) := by
  induction levels generalizing parent c with
  | zero => nofun
  | succ levels ih => exact safe_node hcode (fun p d hd => ih hd (some p)) hc parent

end Lower

end ArityLint
