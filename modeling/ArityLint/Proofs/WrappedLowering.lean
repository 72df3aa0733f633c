import ArityLint.Proofs.Outline
import ArityLint.Proofs.Wrapping

namespace ArityLint

/-- The nodes have one outline, and one name if they are names. -/
structure Node.Resembles (n n' : Node) : Prop where
  outline : n.SameOutline n'
  name : n.name? = n'.name?

theorem Node.resembles_identifier {s s' : Span} {name name' : String} {t t' : Option Node}
    {optional optional' : Bool} (ht : Option.Rel SameOutline t t') (hname : name = name') :
    (identifier s (.str name) t optional []).Resembles
      (identifier s' (.str name') t' optional' []) :=
  ⟨.identifier ht .nil, congrArg (some ∘ Value.str) hname⟩

namespace Lower

open Node Concrete

/-- The second lowering ends as the first one does, or gives up where it may. -/
inductive Follows {α β : Type} (deep : Prop) (R : α → β → Prop) : Lowering α → Lowering β → Prop
  | agree {x : Lowering α} {y : Lowering β} : Except.Agree R x y → Follows deep R x y
  | tooDeep {x : Lowering α} : deep → Follows deep R x (.error .tooDeep)

namespace Follows

variable {α β γ δ : Type} {deep : Prop} {R : α → β → Prop} {S : γ → δ → Prop} {x : Lowering α}
  {y : Lowering β}

theorem ok {a : α} {b : β} (h : R a b) : Follows deep R (.ok a) (.ok b) := .agree (.ok h)

theorem bind {f : α → Lowering γ} {g : β → Lowering δ} (h : Follows deep R x y)
    (hfg : ∀ a b, R a b → Follows deep S (f a) (g b)) : Follows deep S (x >>= f) (y >>= g) := by
  cases h with
  | tooDeep hdeep => exact .tooDeep hdeep
  | agree h =>
    cases h with
    | ok h => exact hfg _ _ h
    | error => exact .agree .error

theorem map {f : α → γ} {g : β → δ} (h : Follows deep R x y) (hfg : ∀ a b, R a b → S (f a) (g b)) :
    Follows deep S (f <$> x) (g <$> y) := by
  cases h with
  | tooDeep hdeep => exact .tooDeep hdeep
  | agree h => exact .agree (h.map hfg)

theorem imp {deep' : Prop} {R' : α → β → Prop} (h : Follows deep R x y) (hdeep : deep → deep')
    (hR : ∀ a b, R a b → R' a b) : Follows deep' R' x y := by
  cases h with
  | tooDeep h => exact .tooDeep (hdeep h)
  | agree h => exact .agree (h.imp hR)

theorem mapM {T : γ → δ → Prop} {f : γ → Lowering α} {g : δ → Lowering β} {xs : List γ}
    {ys : List δ} (h : List.Forall₂ T xs ys) (hfg : ∀ a b, T a b → Follows deep R (f a) (g b)) :
    Follows deep (List.Forall₂ R) (xs.mapM f) (ys.mapM g) := by
  induction h with
  | nil => exact .ok .nil
  | cons hab _ ih =>
    rw [List.mapM_cons, List.mapM_cons]
    exact (hfg _ _ hab).bind fun a b h => ih.bind fun as bs hs => .ok (.cons h hs)

end Follows

variable {code code' : Utf8.Encoded} {deep : Prop} {limit : Nat}
  {lower lower' : String → Concrete → Lowering Node} {c c' : Concrete}

section Reading

theorem follows_char {byte byte' : Nat} (h : code.SameReach code' byte byte') :
    Follows deep (fun _ _ => True) (char code byte) (char code' byte') := by
  unfold Utf8.Encoded.SameReach at h
  unfold char
  generalize code.char? byte = o, code'.char? byte' = o' at h ⊢
  cases o with
  | none =>
    cases o' with
    | none => exact .agree .error
    | some i' => cases h
  | some i =>
    cases o' with
    | none => cases h
    | some i' => exact .ok trivial

theorem follows_span {start stop start' stop' : Nat} (hstart : code.SameReach code' start start')
    (hstop : code.SameReach code' stop stop') :
    Follows deep (fun _ _ => True) (span code start stop) (span code' start' stop') :=
  (follows_char hstart).bind fun _ _ _ => (follows_char hstop).bind fun _ _ _ => .ok trivial

variable (h : Wraps code code' c c')
include h

theorem follows_spanOf : Follows deep (fun _ _ => True) (spanOf code c) (spanOf code' c') :=
  follows_span h.reads.start h.reads.stop

theorem follows_text : Follows deep (fun s s' => c.kind ∈ nameKinds → s = s') (text code c)
    (text code' c') := by
  have hreadable := h.reads.readable
  have hname := h.reads.name
  unfold text
  generalize code.text c.start c.stop = x, code'.text c'.start c'.stop = y at hreadable hname ⊢
  cases x with
  | error e =>
    cases y with
    | error e' => exact .agree .error
    | ok s' => cases hreadable
  | ok s =>
    cases y with
    | error e' => cases hreadable
    | ok s' => exact .ok fun hk => Option.some.inj (hname hk)

theorem follows_name (hform : Form.ofKind c.kind = .name) :
    Follows deep Resembles (name code c) (name code' c') :=
  (follows_spanOf h).bind fun _ _ _ => (follows_text h).bind fun _ _ hs =>
    .ok (resembles_identifier .none (hs (mem_nameKinds hform)))

theorem follows_literal (kind : LiteralKind) :
    Follows deep Resembles (literal code c kind) (literal code' c' kind) :=
  (follows_text h).bind fun _ _ _ => (follows_spanOf h).bind fun _ _ _ => .ok ⟨.literal, rfl⟩

end Reading

/-- What is asked of the lowerings of the nodes below. -/
def FollowsBelow (code code' : Utf8.Encoded) (deep : Prop) (limit : Nat)
    (lower lower' : String → Concrete → Lowering Node) : Prop :=
  ∀ parent d d', d'.height < limit → StandsFor code code' (some parent) d d' →
    Follows deep Resembles (lower parent d) (lower' parent d')

section Children

variable (hl : FollowsBelow code code' deep limit lower lower') (hlimit : c'.height ≤ limit)
  (h : Wraps code code' c c')
include hl hlimit h

theorem follows_lower {d d' : Concrete} (hd : StandsFor code code' (some c.kind) d d')
    (hd' : d' ∈ c'.children) : Follows deep Resembles (lower c.kind d) (lower' c'.kind d') := by
  rw [h.kind]
  exact hl _ d d' (Nat.lt_of_lt_of_le (height_lt hd') hlimit) hd

theorem follows_child (field : String) :
    Follows deep Resembles (child lower c field) (child lower' c' field) := by
  have hfield := h.child? field
  unfold child
  generalize c.child? field = o, c'.child? field = o' at hfield ⊢
  cases hfield with
  | none => exact .agree .error
  | some hd => exact follows_lower hl hlimit h hd.1 hd.2

theorem follows_child? (field : String) :
    Follows deep (Option.Rel SameOutline) (child? lower c field) (child? lower' c' field) := by
  have hfield := h.child? field
  unfold child?
  generalize c.child? field = o, c'.child? field = o' at hfield ⊢
  cases hfield with
  | none => exact .ok .none
  | some hd => exact (follows_lower hl hlimit h hd.1 hd.2).map fun _ _ hn => .some hn.outline

theorem follows_parts :
    Follows deep (List.Forall₂ SameOutline) (parts lower c) (parts lower' c') :=
  .mapM h.parts fun _ _ hd => (follows_lower hl hlimit h hd.1 hd.2).imp id fun _ _ hn => hn.outline

theorem follows_first {fallback fallback' : Lowering Node}
    (hnone : Follows deep Resembles fallback fallback') :
    Follows deep Resembles
      (match c.parts with
        | [] => fallback
        | d :: _ => lower c.kind d)
      (match c'.parts with
        | [] => fallback'
        | d :: _ => lower' c'.kind d) := by
  have hparts := h.parts
  generalize c.parts = ds, c'.parts = ds' at hparts ⊢
  cases hparts with
  | nil => exact hnone
  | cons hd _ => exact follows_lower hl hlimit h hd.1 hd.2

end Children

theorem resembles_decorate {n n' : Node} {ds ds' : List Node} (start start' : Int)
    (hn : n.Resembles n') (hds : List.Forall₂ SameOutline ds ds') :
    (decorate start ds n).Resembles (decorate start' ds' n') := by
  obtain ⟨hn, hname⟩ := hn
  have hsame := hn
  cases hn with
  | identifier ht _ => exact ⟨.identifier ht hds, hname⟩
  | assignmentPattern hl hr _ => exact ⟨.assignmentPattern hl hr hds, rfl⟩
  | restElement ha ht _ => exact ⟨.restElement ha ht hds, rfl⟩
  | objectPattern hps ht _ => exact ⟨.objectPattern hps ht hds, rfl⟩
  | arrayPattern hes ht _ => exact ⟨.arrayPattern hes ht hds, rfl⟩
  | _ => exact ⟨hsame, hname⟩

section Constructs

variable (hl : FollowsBelow code code' deep limit lower lower') (hlimit : c'.height ≤ limit)
  (h : Wraps code code' c c')
include hl hlimit h

theorem follows_annotated? {field : String} (hplain : ¬HoldsExpression c.kind (some field)) :
    Follows deep (Option.Rel SameOutline) (annotated? lower (c.child? field))
      (annotated? lower' (c'.child? field)) := by
  have hfield := h.plainChild? hplain
  generalize c.child? field = o, c'.child? field = o' at hfield ⊢
  cases hfield with
  | none => exact .ok .none
  | @some a a' ha =>
    have hparts := ha.1.parts
    have hlimit : a'.height ≤ limit := (Nat.le_of_lt (height_lt ha.2)).trans hlimit
    unfold annotated?
    dsimp only
    generalize a.parts = ds, a'.parts = ds' at hparts
    cases hparts with
    | nil => exact .ok .none
    | cons hd _ =>
      exact (follows_lower hl hlimit ha.1 hd.1 hd.2).map fun _ _ hn => .some hn.outline

theorem follows_restArgument :
    Follows deep Resembles (restArgument code lower c) (restArgument code' lower' c') :=
  follows_first hl hlimit h <| (follows_spanOf h).bind fun _ _ _ => .ok ⟨.other .nil, rfl⟩

theorem follows_params (hplain : ¬HoldsExpression c.kind (some "parameters")) :
    Follows deep (List.Forall₂ SameOutline) (params lower c) (params lower' c') := by
  have hfield := h.plainChild? hplain
  unfold params
  generalize c.child? "parameters" = o, c'.child? "parameters" = o' at hfield ⊢
  cases hfield with
  | none => exact .ok .nil
  | some hd => exact follows_parts hl ((Nat.le_of_lt (height_lt hd.2)).trans hlimit) hd.1

structure FunctionParts.SameOutline (p p' : FunctionParts) : Prop where
  params : List.Forall₂ Node.SameOutline p.params p'.params
  id : Option.Rel Node.SameOutline p.id p'.id
  body : Option.Rel Node.SameOutline p.body p'.body
  returnType : Option.Rel Node.SameOutline p.returnType p'.returnType

theorem follows_functionParts (hplain : ∀ field, ¬HoldsExpression c.kind field) :
    Follows deep FunctionParts.SameOutline (functionParts lower c) (functionParts lower' c') :=
  (follows_params hl hlimit h (hplain _)).bind fun _ _ hparams =>
    (follows_child? hl hlimit h "name").bind fun _ _ hid =>
      (follows_child? hl hlimit h "body").bind fun _ _ hbody =>
        (follows_annotated? hl hlimit h (hplain _)).bind fun _ _ htype =>
          .ok ⟨hparams, hid, hbody, htype⟩

theorem follows_function (kind : FunctionKind) (hplain : ∀ field, ¬HoldsExpression c.kind field) :
    Follows deep Resembles
      (do
        let span ← spanOf code c
        .ok ((← functionParts lower c).node kind span))
      (do
        let span ← spanOf code' c'
        .ok ((← functionParts lower' c').node kind span)) :=
  (follows_spanOf h).bind fun _ _ _ => (follows_functionParts hl hlimit h hplain).bind fun _ _ hp =>
    .ok ⟨.function hp.params hp.id hp.body hp.returnType, rfl⟩

theorem follows_arrow (hplain : ∀ field, ¬HoldsExpression c.kind field) :
    Follows deep Resembles (arrow code lower c) (arrow code' lower' c') := by
  have hparams : ∀ listed listed', List.Forall₂ SameOutline listed listed' →
      Follows deep (List.Forall₂ SameOutline) (arrowParams lower c listed)
        (arrowParams lower' c' listed') := by
    intro listed listed' hlisted
    have hfield := h.child? "parameter"
    unfold arrowParams
    generalize c.child? "parameter" = o, c'.child? "parameter" = o' at hfield ⊢
    cases hfield with
    | none => exact .ok hlisted
    | some hd =>
      exact (follows_lower hl hlimit h hd.1 hd.2).bind fun _ _ hn => .ok (.cons hn.outline .nil)
  exact (follows_functionParts hl hlimit h hplain).bind fun p p' hp =>
    (hparams _ _ hp.params).bind fun _ _ hps => (follows_spanOf h).bind fun _ _ _ =>
      .ok ⟨.function hps hp.id hp.body hp.returnType, rfl⟩

theorem follows_method {parent parent' : Option String}
    (hparent : parent = some "object" ↔ parent' = some "object")
    (hplain : ∀ field, ¬HoldsExpression c.kind field) :
    Follows deep Resembles (method code lower parent c) (method code' lower' parent' c') := by
  have hstart : code.SameReach code' ((c.child? "parameters").elim c.start (·.start))
      ((c'.child? "parameters").elim c'.start (·.start)) := by
    have hfield := h.plainChild? (hplain (some "parameters"))
    generalize c.child? "parameters" = o, c'.child? "parameters" = o' at hfield
    cases hfield with
    | none => exact h.reads.start
    | some hd => exact hd.1.reads.start
  have haccessor : (c.children.find? fun d => d.isMark "get" || d.isMark "set").map (·.kind) =
      (c'.children.find? fun d => d.isMark "get" || d.isMark "set").map (·.kind) := by
    have hmark := rel_find? (p := fun d => d.isMark "get" || d.isMark "set")
      (q := fun d => d.isMark "get" || d.isMark "set")
      (fun _ _ hd => by rw [hd.1.isMark, hd.1.isMark]) (h.plainChildren hplain)
    generalize c.children.find? _ = o, c'.children.find? _ = o' at hmark
    cases hmark with
    | none => rfl
    | some hd => exact congrArg some hd.1.kind.symm
  have hname := h.plainChild? (hplain (some "name"))
  refine (follows_functionParts hl hlimit h hplain).bind fun p p' hp =>
    (follows_span hstart h.reads.stop).bind fun s s' _ => ?_
  dsimp only
  generalize c.child? "name" = o, c'.child? "name" = o' at hname ⊢
  cases hname with
  | none => exact .agree .error
  | @some name name' hname =>
    refine (follows_lower hl hlimit h (.bare hname.1) hname.2).bind fun key key' hkey => ?_
    have hvalue : (p.node .expression s).SameOutline (p'.node .expression s') :=
      .function hp.params hp.id hp.body hp.returnType
    rw [haccessor]
    generalize (c'.children.find? _).map (·.kind) = accessor
    -- only the question whether an object is the parent reaches the child
    by_cases hobject : parent = some "object"
    · rw [if_pos hobject, if_pos (hparent.1 hobject)]
      exact (follows_spanOf h).bind fun _ _ _ => .ok ⟨.property hkey.outline hvalue, rfl⟩
    · rw [if_neg hobject, if_neg (mt hparent.2 hobject)]
      have hkind : Follows deep (fun _ _ => True) (memberKind code accessor name)
          (memberKind code' accessor name') := by
        cases accessor with
        | some kind => exact .ok trivial
        | none => exact (follows_text hname.1).bind fun _ _ _ => .ok trivial
      exact hkind.bind fun _ _ _ => (follows_spanOf h).bind fun _ _ _ =>
        .ok ⟨.methodDefinition hkey.outline hvalue, rfl⟩

structure Binding.Resembles (code code' : Utf8.Encoded) (b b' : Binding) : Prop where
  start : Option.Rel (code.SameReach code') b.start b'.start
  stop : code.SameReach code' b.stop b'.stop
  accessibility : b.accessibility.isSome = b'.accessibility.isSome
  readonly : b.readonly = b'.readonly
  override : b.override = b'.override
  decorators : List.Forall₂ SameOutline b.decorators b'.decorators

theorem follows_scan {cs cs' : List Concrete}
    (hcs : List.Forall₂ (fun d d' => Wraps code code' d d' ∧ d' ∈ c'.children) cs cs')
    {b b' : Binding} (hb : b.Resembles code code' b') :
    Follows deep (Binding.Resembles code code') (scan code lower c.kind cs b)
      (scan code' lower' c'.kind cs' b') := by
  induction hcs generalizing b b' with
  | nil => exact .ok hb
  | @cons d d' _ _ hd _ ih =>
    unfold scan
    rw [hd.1.kind, hd.1.isMark, hd.1.isMark]
    have hstart : Option.Rel (code.SameReach code') (b.start.or (some d.start))
        (b'.start.or (some d'.start)) := by
      have hb := hb.start
      generalize b.start = o, b'.start = o' at hb
      cases hb with
      | none => exact .some hd.1.reads.start
      | some hi => exact .some hi
    -- one case for each kind of child, in the order in which the scan tries them
    by_cases hdecorator : d.kind = "decorator"
    · rw [if_pos hdecorator, if_pos hdecorator]
      exact (follows_lower hl hlimit h (.bare hd.1) hd.2).bind fun _ _ hn =>
        ih { hb with decorators := List.rel_append hb.decorators (.cons hn.outline .nil) }
    rw [if_neg hdecorator, if_neg hdecorator]
    dsimp only
    by_cases haccess : d.kind = "accessibility_modifier"
    · rw [if_pos haccess, if_pos haccess]
      exact (follows_text hd.1).bind fun _ _ _ =>
        ih { hb with start := hstart, accessibility := rfl }
    rw [if_neg haccess, if_neg haccess]
    by_cases hoverride : d.kind = "override_modifier"
    · rw [if_pos hoverride, if_pos hoverride]
      exact ih { hb with start := hstart, override := rfl }
    rw [if_neg hoverride, if_neg hoverride]
    by_cases hreadonly : d.isMark "readonly" = true
    · rw [if_pos hreadonly, if_pos hreadonly]
      exact ih { hb with start := hstart, readonly := rfl }
    rw [if_neg hreadonly, if_neg hreadonly]
    by_cases hvalue : d.isMark "=" = true
    · rw [if_pos hvalue, if_pos hvalue]
      exact .ok { hb with start := hstart }
    · rw [if_neg hvalue, if_neg hvalue]
      exact ih { hb with start := hstart, stop := hd.1.reads.stop }

theorem follows_pattern {bound bound' : Concrete} (hbound : Wraps code code' bound bound')
    (hmem : bound' ∈ c'.children) {s s' : Span} {declared declared' : Option Node}
    (hdeclared : Option.Rel SameOutline declared declared') (optional : Bool) :
    Follows deep Resembles (pattern code lower bound c.kind s declared optional)
      (pattern code' lower' bound' c'.kind s' declared' optional) := by
  have hlimit' : bound'.height ≤ limit := (Nat.le_of_lt (height_lt hmem)).trans hlimit
  unfold pattern
  rw [hbound.kind]
  split
  · next hkind =>
    exact (follows_text hbound).bind fun _ _ htext =>
      .ok (resembles_identifier hdeclared (htext (by simp [hkind, nameKinds])))
  · next hkind =>
    exact (follows_text hbound).bind fun _ _ htext =>
      .ok (resembles_identifier hdeclared (htext (by simp [hkind, nameKinds])))
  · exact (follows_restArgument hl hlimit' hbound).bind fun _ _ hn =>
      .ok ⟨.restElement hn.outline hdeclared .nil, rfl⟩
  · exact (follows_parts hl hlimit' hbound).bind fun _ _ hns =>
      .ok ⟨.objectPattern hns hdeclared .nil, rfl⟩
  · exact (follows_parts hl hlimit' hbound).bind fun _ _ hns =>
      .ok ⟨.arrayPattern hns hdeclared .nil, rfl⟩
  · exact follows_lower hl hlimit h (.bare hbound) hmem

theorem follows_withValue (hplain : ∀ field, ¬HoldsExpression c.kind field) {s s' : Span}
    {plain plain' : Node} (hn : plain.Resembles plain') :
    Follows deep Resembles (withValue code lower c s plain)
      (withValue code' lower' c' s' plain') := by
  have hfield := h.plainChild? (hplain (some "value"))
  unfold withValue
  generalize c.child? "value" = o, c'.child? "value" = o' at hfield ⊢
  cases hfield with
  | none => exact .ok hn
  | some hv =>
    exact (follows_char hv.1.reads.stop).bind fun _ _ _ =>
      (follows_lower hl hlimit h (.bare hv.1) hv.2).bind fun _ _ hright =>
        .ok ⟨.assignmentPattern hn.outline hright.outline .nil, rfl⟩

theorem follows_parameter (optional : Bool) (hplain : ∀ field, ¬HoldsExpression c.kind field) :
    Follows deep Resembles (parameter code lower c optional)
      (parameter code' lower' c' optional) := by
  have hpattern := h.plainChild? (hplain (some "pattern"))
  refine (follows_annotated? hl hlimit h (hplain _)).bind fun declared declared' hdeclared => ?_
  generalize c.child? "pattern" = o, c'.child? "pattern" = o' at hpattern ⊢
  cases hpattern with
  | none => exact .agree .error
  | @some bound bound' hbound =>
    have hfirst : Binding.Resembles code code' { stop := bound.stop } { stop := bound'.stop } :=
      ⟨.none, hbound.1.reads.stop, rfl, rfl, rfl, .nil⟩
    refine (follows_scan hl hlimit h (h.plainChildren hplain) hfirst).bind fun b b' hb => ?_
    have hpromoted : b.promoted = b'.promoted := by
      rw [Binding.promoted, Binding.promoted, hb.accessibility, hb.readonly, hb.override]
    have hempty := isEmpty_of_forall₂ hb.decorators
    have hstart : code.SameReach code' (b.start.getD c.start) (b'.start.getD c'.start) := by
      have hb := hb.start
      generalize b.start = o, b'.start = o' at hb
      cases hb with
      | none => exact h.reads.start
      | some hi => exact hi
    -- modifiers move the start of the binding, decorators that of the parameter
    have hbegin : code.SameReach code' (if b'.promoted then bound.start else b.start.getD c.start)
        (if b'.promoted then bound'.start else b'.start.getD c'.start) := by
      split
      · exact hbound.1.reads.start
      · exact hstart
    have houter : code.SameReach code'
        (if b'.decorators.isEmpty then b.start.getD c.start else c.start)
        (if b'.decorators.isEmpty then b'.start.getD c'.start else c'.start) := by
      split
      · exact hstart
      · exact h.reads.start
    dsimp only
    rw [hpromoted, hempty]
    refine (follows_span hbegin hb.stop).bind fun s s' _ =>
      (follows_pattern hl hlimit h hbound.1 hbound.2 hdeclared optional).bind fun plain plain' hn =>
        (follows_withValue hl hlimit h hplain hn).bind fun binding binding' hbinding =>
          (follows_char houter).bind fun outer outer' _ => ?_
    split
    · exact (follows_char h.reads.stop).bind fun _ _ _ =>
        .ok ⟨.parameterProperty hbinding.outline hb.decorators, rfl⟩
    · refine .ok ?_
      split
      · exact hbinding
      · exact resembles_decorate _ _ hbinding hb.decorators

omit hl hlimit in
theorem follows_shorthand (hplain : ∀ field, ¬HoldsExpression c.kind field) :
    Follows deep Resembles (shorthand code c) (shorthand code' c') := by
  have hparts := h.replaces_parts
  unfold shorthand
  generalize c.parts = ds, c'.parts = ds' at hparts ⊢
  cases hparts with
  | nil => exact .agree .error
  | cons hd _ =>
    have hd := hd.1.wraps (hplain _)
    exact (follows_spanOf hd).bind fun _ _ _ => (follows_text hd).bind fun _ _ _ =>
      (follows_spanOf h).bind fun _ _ _ => .ok ⟨.shorthand, rfl⟩

theorem follows_assignment (hform : Form.ofKind c.kind = .assignment) :
    Follows deep Resembles (assignment code lower c) (assignment code' lower' c') := by
  have hoperator : Follows deep (fun _ _ => True) (operatorOf code c) (operatorOf code' c') := by
    have hplain : ¬HoldsExpression c.kind (some "operator") := fun hk =>
      absurd (hk.field (by rw [hform]; decide)) (by decide)
    have hfield := h.plainChild? hplain
    unfold operatorOf
    generalize c.child? "operator" = o, c'.child? "operator" = o' at hfield ⊢
    cases hfield with
    | none => exact .ok trivial
    | some hd => exact (follows_text hd.1).imp id fun _ _ _ => trivial
  exact (follows_spanOf h).bind fun _ _ _ => (follows_child hl hlimit h "left").bind fun _ _ hleft =>
    (follows_child hl hlimit h "right").bind fun _ _ hright => hoperator.bind fun _ _ _ =>
      .ok ⟨.assignment hleft.outline hright.outline, rfl⟩

theorem follows_declarator (hform : Form.ofKind c.kind = .declarator) :
    Follows deep Resembles (declarator code lower c) (declarator code' lower' c') := by
  have hplain : ∀ field ∉ ["value", "function", "left", "right", "object"],
      ¬HoldsExpression c.kind (some field) := fun field hfield hk =>
    hfield (hk.field (by rw [hform]; decide))
  have htype := h.plainChild? (hplain "type" (by decide))
  have hname := h.plainChild? (hplain "name" (by decide))
  have htarget : ∀ bound bound', Wraps code code' bound bound' → bound' ∈ c'.children →
      Follows deep Resembles (target code lower c bound) (target code' lower' c' bound') := by
    intro bound bound' hbound hmem
    have hstop : code.SameReach code' ((c.child? "type").elim bound.stop (·.stop))
        ((c'.child? "type").elim bound'.stop (·.stop)) := by
      generalize c.child? "type" = o, c'.child? "type" = o' at htype
      cases htype with
      | none => exact hbound.reads.stop
      | some hd => exact hd.1.reads.stop
    unfold target
    rw [hbound.kind]
    split
    · next hkind =>
      exact (follows_span hbound.reads.start hstop).bind fun _ _ _ =>
        (follows_text hbound).bind fun _ _ htext =>
          (follows_annotated? hl hlimit h (hplain _ (by decide))).bind fun _ _ hdeclared =>
            .ok (resembles_identifier hdeclared (htext (by simp [hkind, nameKinds])))
    · exact follows_lower hl hlimit h (.bare hbound) hmem
  unfold declarator
  generalize c.child? "name" = o, c'.child? "name" = o' at hname ⊢
  cases hname with
  | none => exact .agree .error
  | some hbound =>
    exact (htarget _ _ hbound.1 hbound.2).bind fun _ _ hid => (follows_spanOf h).bind fun _ _ _ =>
      (follows_child? hl hlimit h "value").bind fun _ _ hvalue =>
        .ok ⟨.declarator hid.outline hvalue, rfl⟩

theorem follows_other : Follows deep Resembles (other code lower c) (other code' lower' c') := by
  unfold other
  rw [h.kind]
  exact (follows_spanOf h).bind fun _ _ _ => (follows_parts hl hlimit h).bind fun _ _ hbody =>
    .ok ⟨.other hbody, rfl⟩

theorem follows_pair {first second : String} {make : Span → Node → Node → Node}
    (hmake : ∀ s s' a a' b b', a.Resembles a' → b.Resembles b' →
      (make s a b).Resembles (make s' a' b')) :
    Follows deep Resembles
      (do
        let s ← spanOf code c
        let a ← child lower c first
        let b ← child lower c second
        .ok (make s a b))
      (do
        let s ← spanOf code' c'
        let a ← child lower' c' first
        let b ← child lower' c' second
        .ok (make s a b)) :=
  (follows_spanOf h).bind fun _ _ _ => (follows_child hl hlimit h first).bind fun _ _ ha =>
    (follows_child hl hlimit h second).bind fun _ _ hb => .ok (hmake _ _ _ _ _ _ ha hb)

theorem follows_call (hform : Form.ofKind c.kind = .call) : Follows deep Resembles
    (match c.child? "arguments" with
      | some args =>
        if args.kind = "arguments" then do
          let span ← spanOf code c
          .ok (.call span (← child lower c "function") (← parts lower args))
        else other code lower c
      | none => other code lower c)
    (match c'.child? "arguments" with
      | some args =>
        if args.kind = "arguments" then do
          let span ← spanOf code' c'
          .ok (.call span (← child lower' c' "function") (← parts lower' args))
        else other code' lower' c'
      | none => other code' lower' c') := by
  have hplain : ¬HoldsExpression c.kind (some "arguments") := fun hk =>
    absurd (hk.field (by rw [hform]; decide)) (by decide)
  have hfield := h.plainChild? hplain
  generalize c.child? "arguments" = o, c'.child? "arguments" = o' at hfield ⊢
  cases hfield with
  | none => exact follows_other hl hlimit h
  | @some args args' hargs =>
    dsimp only
    rw [hargs.1.kind]
    split
    · exact (follows_spanOf h).bind fun _ _ _ =>
        (follows_child hl hlimit h "function").bind fun _ _ hcallee =>
          (follows_parts hl ((Nat.le_of_lt (height_lt hargs.2)).trans hlimit) hargs.1).bind
            fun _ _ hnodes => .ok ⟨.call hcallee.outline hnodes, rfl⟩
    · exact follows_other hl hlimit h

theorem follows_node {parent parent' : Option String}
    (hparent : parent = some "object" ↔ parent' = some "object") :
    Follows deep Resembles (node code lower parent c) (node code' lower' parent' c') := by
  have hplain : ∀ {form}, Form.ofKind c.kind = form →
      form ∉ [.other, .declarator, .call, .pair, .assignment, .member, .subscript] →
      ∀ field, ¬HoldsExpression c.kind field := fun hform hmem _ => not_holdsExpression hform hmem
  have hkind : Form.ofKind c'.kind = Form.ofKind c.kind := congrArg _ h.kind
  unfold node
  rw [hkind]
  split
  · exact follows_first hl hlimit h (follows_other hl hlimit h)
  · next hform => exact follows_function hl hlimit h _ (hplain hform (by simp))
  · next hform => exact follows_arrow hl hlimit h (hplain hform (by simp))
  · next hform => exact follows_method hl hlimit h hparent (hplain hform (by simp))
  · next hform => exact follows_parameter hl hlimit h _ (hplain hform (by simp))
  · next hform => exact follows_name h hform
  · exact follows_pair hl hlimit h fun _ _ _ _ _ _ ha hb =>
      ⟨.assignmentPattern ha.outline hb.outline .nil, rfl⟩
  · exact (follows_spanOf h).bind fun _ _ _ => (follows_restArgument hl hlimit h).bind
      fun _ _ hn => .ok ⟨.restElement hn.outline .none .nil, rfl⟩
  · exact (follows_spanOf h).bind fun _ _ _ => (follows_parts hl hlimit h).bind fun _ _ hns =>
      .ok ⟨.objectPattern hns .none .nil, rfl⟩
  · exact (follows_spanOf h).bind fun _ _ _ => (follows_parts hl hlimit h).bind fun _ _ hns =>
      .ok ⟨.arrayPattern hns .none .nil, rfl⟩
  · next hform => exact follows_call hl hlimit h hform
  · exact follows_pair hl hlimit h fun _ _ _ _ _ _ ha hb =>
      ⟨.member ha.outline hb.outline hb.name, rfl⟩
  · exact follows_pair hl hlimit h fun _ _ _ _ _ _ ha hb =>
      ⟨.member ha.outline hb.outline hb.name, rfl⟩
  · exact follows_pair hl hlimit h fun _ _ _ _ _ _ ha hb =>
      ⟨.property ha.outline hb.outline, rfl⟩
  · next hform => exact follows_shorthand h (hplain hform (by simp))
  · next hform => exact follows_assignment hl hlimit h hform
  · next hform => exact follows_declarator hl hlimit h hform
  · exact follows_literal h _
  · exact follows_other hl hlimit h

end Constructs

theorem ofConcrete_opens {d : Concrete} (h : c.Opens d) (levels : Nat) (parent : Option String) :
    ofConcrete code (levels + 1) parent c =
      ofConcrete code levels (some "parenthesized_expression") d := by
  obtain ⟨ds, hparts⟩ := List.head?_eq_some_iff.1 h.head
  rw [ofConcrete, node, h.kind, hparts]
  rfl

/-- Parentheses around expressions keep the outline of what a tree is lowered to, or they nest it
too deeply. Each pair of parentheses takes a level, so there may be fewer left. -/
theorem follows_ofConcrete {levels levels' : Nat} (hlevels : levels' ≤ levels)
    {parent parent' : Option String} (hparent : parent = some "object" ↔ parent' = some "object")
    (h : StandsFor code code' parent' c c') :
    Follows (levels' < c'.height) Resembles (ofConcrete code levels parent c)
      (ofConcrete code' levels' parent' c') := by
  induction levels' generalizing levels parent parent' c c' with
  | zero => exact .tooDeep (height_pos c')
  | succ n ih =>
    cases h with
    | bare h =>
      obtain ⟨m, rfl⟩ : ∃ m, levels = m + 1 := ⟨levels - 1, by omega⟩
      refine follows_node (fun p d d' hd' hd => ?_) (Nat.le_refl _) h hparent
      exact (ih (by omega) Iff.rfl hd).imp (by omega) fun _ _ hn => hn
    | @opens _ _ _ d hobject hopens hd =>
      have hlt := height_lt (mem_children_of_mem_parts (List.mem_of_head? hopens.head))
      have hparent : parent = some "object" ↔ some "parenthesized_expression" = some "object" :=
        ⟨fun hp => absurd (hparent.1 hp) hobject, fun hp => absurd hp (by decide)⟩
      rw [ofConcrete_opens hopens]
      exact (ih (by omega) hparent hd).imp (by omega) fun _ _ hn => hn

end Lower

end ArityLint
