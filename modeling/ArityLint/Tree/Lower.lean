import ArityLint.Error
import ArityLint.Tree.Concrete
import ArityLint.Tree.Node

namespace ArityLint

inductive Form where
  | parenthesized
  | function (kind : FunctionKind)
  | arrow
  | method
  | parameter (optional : Bool)
  | name
  | assignmentPattern
  | rest
  | objectPattern
  | arrayPattern
  | call
  | member
  | subscript
  | pair
  | shorthand
  | assignment
  | declarator
  | literal (kind : LiteralKind)
  | other
  deriving DecidableEq, Repr

def Form.ofKind : String → Form
  | "parenthesized_expression" => .parenthesized
  | "function_declaration" | "generator_function_declaration" => .function .declaration
  | "function_expression" | "function" | "generator_function" => .function .expression
  | "arrow_function" => .arrow
  | "method_definition" => .method
  | "required_parameter" => .parameter false
  | "optional_parameter" => .parameter true
  | "identifier" | "property_identifier" | "shorthand_property_identifier" => .name
  | "assignment_pattern" => .assignmentPattern
  | "rest_pattern" => .rest
  | "object_pattern" => .objectPattern
  | "array_pattern" => .arrayPattern
  | "call_expression" => .call
  | "member_expression" => .member
  | "subscript_expression" => .subscript
  | "pair" => .pair
  | "shorthand_property" => .shorthand
  | "assignment_expression" | "augmented_assignment_expression" => .assignment
  | "variable_declarator" => .declarator
  | "string" => .literal .string
  | "number" => .literal .number
  | "true" | "false" => .literal .boolean
  | "null" => .literal .null
  | "regex" => .literal .regex
  | _ => .other

inductive Obstacle where
  | tooDeep
  | fault (f : Fault)

abbrev Lowering := Except Obstacle

namespace Lower

def raise (f : Fault) : Lowering α := .error (.fault f)

/-- A child that is taken for granted; without it the named property cannot be read. -/
def need (c : Option Concrete) (property : String) : Lowering Concrete :=
  match c with
  | some c => .ok c
  | none => raise (.missingNode property)

section

variable (code : Utf8.Encoded)

def char (byte : Nat) : Lowering Int :=
  match code.char? byte with
  | some i => .ok i
  | none => raise .indexRange

def span (start stop : Nat) : Lowering Span := do
  .ok ⟨← char code start, ← char code stop⟩

def spanOf (c : Concrete) : Lowering Span := span code c.start c.stop

def text (c : Concrete) : Lowering String :=
  (code.text c.start c.stop).mapError fun flaw => .fault (.undecodable flaw)

def name (c : Concrete) : Lowering Node := do
  .ok (.identifier (← spanOf code c) (.str (← text code c)) none false [])

def literal (c : Concrete) (kind : LiteralKind) : Lowering Node := do
  let raw ← text code c
  let (kind, value) : LiteralKind × Value :=
    match kind with
    | .string => (.string, .str (Text.slice raw 1 (-1)))
    | .number => (if raw.toList.getLast? = some 'n' then .bigint else .number, .str raw)
    | .boolean => (.boolean, .bool (raw = "true"))
    | kind => (kind, .null)
  .ok (.literal (← spanOf code c) kind (.str raw) value)

-- `lower p c` is the lowering of `c` below a node of kind `p`.
variable (lower : String → Concrete → Lowering Node)

def child (c : Concrete) (field : String) : Lowering Node := do
  lower c.kind (← need (c.child? field) "type")

def child? (c : Concrete) (field : String) : Lowering (Option Node) :=
  match c.child? field with
  | some d => some <$> lower c.kind d
  | none => .ok none

def parts (c : Concrete) : Lowering (List Node) := c.parts.mapM (lower c.kind)

/-- The type that a `: T` declares. -/
def annotated? (declared : Option Concrete) : Lowering (Option Node) :=
  match declared with
  | none => .ok none
  | some a =>
    match a.parts with
    | [] => .ok none
    | t :: _ => some <$> lower a.kind t

def restArgument (c : Concrete) : Lowering Node :=
  match c.parts with
  | [] => do .ok (.other (← spanOf code c) (.str "rest_argument") [])
  | d :: _ => lower c.kind d

structure FunctionParts where
  params : List Node
  id : Option Node
  body : Option Node
  returnType : Option Node

def params (c : Concrete) : Lowering (List Node) :=
  match c.child? "parameters" with
  | some ps => parts lower ps
  | none => .ok []

def functionParts (c : Concrete) : Lowering FunctionParts := do
  let params ← params lower c
  let id ← child? lower c "name"
  let body ← child? lower c "body"
  let returnType ← annotated? lower (c.child? "return_type")
  .ok ⟨params, id, body, returnType⟩

def FunctionParts.node (p : FunctionParts) (kind : FunctionKind) (span : Span) : Node :=
  .function span kind p.params p.id p.body p.returnType

/-- The parameters of an arrow function: a bare name, if it has one, in place of those listed. -/
def arrowParams (c : Concrete) (listed : List Node) : Lowering (List Node) :=
  match c.child? "parameter" with
  | some bare => do .ok [← lower c.kind bare]
  | none => .ok listed

def arrow (c : Concrete) : Lowering Node := do
  let p ← functionParts lower c
  let params ← arrowParams lower c p.params
  .ok ({ p with params }.node .arrow (← spanOf code c))

/-- What a member of a class is: an accessor, the constructor or a method. -/
def memberKind (accessor : Option String) (name : Concrete) : Lowering String :=
  match accessor with
  | some kind => .ok kind
  | none => do .ok (if (← text code name) = "constructor" then "constructor" else "method")

/-- A method, as an entry of an object literal or as a member of a class. Its function starts at the
parameters. -/
def method (parent : Option String) (c : Concrete) : Lowering Node := do
  let p ← functionParts lower c
  let start := (c.child? "parameters").elim c.start (·.start)
  let value := p.node .expression (← span code start c.stop)
  let name ← need (c.child? "name") "type"
  let key ← lower c.kind name
  let accessor := (c.children.find? fun d => d.isMark "get" || d.isMark "set").map (·.kind)
  if parent = some "object" then
    .ok (.property (← spanOf code c) key value accessor.isNone false
      (.str (accessor.getD "init")))
  else
    let kind ← memberKind code accessor name
    .ok (.methodDefinition (← spanOf code c) key value (.str kind)
      (c.children.any (·.isMark "static")))

/-- What the children of a typed parameter tell, up to its `=`. -/
structure Binding where
  start : Option Nat := none
  stop : Nat
  accessibility : Option String := none
  readonly : Bool := false
  override : Bool := false
  decorators : List Node := []

def Binding.promoted (b : Binding) : Bool :=
  b.accessibility.isSome || b.readonly || b.override

def scan (kind : String) : List Concrete → Binding → Lowering Binding
  | [], b => .ok b
  | c :: cs, b =>
    if c.kind = "decorator" then do
      scan kind cs { b with decorators := b.decorators ++ [← lower kind c] }
    else
      let b := { b with start := b.start.or (some c.start) }
      if c.kind = "accessibility_modifier" then do
        scan kind cs { b with accessibility := some (← text code c) }
      else if c.kind = "override_modifier" then scan kind cs { b with override := true }
      else if c.isMark "readonly" then scan kind cs { b with readonly := true }
      else if c.isMark "=" then .ok b
      else scan kind cs { b with stop := c.stop }

/-- The pattern of a typed parameter, with the type that the parameter has. -/
def pattern (c : Concrete) (kind : String) (span : Span) (declared : Option Node)
    (optional : Bool) : Lowering Node :=
  match c.kind with
  | "identifier" | "this" => do .ok (.identifier span (.str (← text code c)) declared optional [])
  | "rest_pattern" => do .ok (.restElement span (← restArgument code lower c) declared [])
  | "object_pattern" => do .ok (.objectPattern span (← parts lower c) declared [])
  | "array_pattern" => do .ok (.arrayPattern span (← parts lower c) declared [])
  | _ => lower kind c

/-- Puts decorators on a binding that can bear them; its range then starts at `start`. -/
def decorate (start : Int) (ds : List Node) : Node → Node
  | .identifier s name t optional _ => .identifier ⟨start, s.stop⟩ name t optional ds
  | .assignmentPattern s l r _ => .assignmentPattern ⟨start, s.stop⟩ l r ds
  | .restElement s a t _ => .restElement ⟨start, s.stop⟩ a t ds
  | .objectPattern s ps t _ => .objectPattern ⟨start, s.stop⟩ ps t ds
  | .arrayPattern s es t _ => .arrayPattern ⟨start, s.stop⟩ es t ds
  | n => n

/-- The binding of a typed parameter with its default, if it has one. -/
def withValue (c : Concrete) (span : Span) (plain : Node) : Lowering Node :=
  match c.child? "value" with
  | none => .ok plain
  | some v => do
    let stop ← char code v.stop
    .ok (.assignmentPattern ⟨span.start, stop⟩ plain (← lower c.kind v) [])

/-- A typed parameter. The outermost node owns the decorators and its range covers them. -/
def parameter (c : Concrete) (optional : Bool) : Lowering Node := do
  let declared ← annotated? lower (c.child? "type")
  let bound ← need (c.child? "pattern") "end_byte"
  let b ← scan code lower c.kind c.children { stop := bound.stop }
  let start := b.start.getD c.start
  let bindingSpan ← span code (if b.promoted then bound.start else start) b.stop
  let plain ← pattern code lower bound c.kind bindingSpan declared optional
  let binding ← withValue code lower c bindingSpan plain
  let outer ← char code (if b.decorators.isEmpty then start else c.start)
  if b.promoted then
    .ok (.parameterProperty ⟨outer, ← char code c.stop⟩ binding
      (b.accessibility.elim .null .str) b.readonly b.override b.decorators)
  else .ok (if b.decorators.isEmpty then binding else decorate outer b.decorators binding)

def shorthand (c : Concrete) : Lowering Node :=
  match c.parts with
  | [] => raise .indexRange
  | d :: _ => do
    let nameSpan ← spanOf code d
    let name ← text code d
    .ok (.shorthand (← spanOf code c) nameSpan (.str name))

def operatorOf (c : Concrete) : Lowering String :=
  match c.child? "operator" with
  | some o => text code o
  | none => .ok "="

def assignment (c : Concrete) : Lowering Node := do
  let span ← spanOf code c
  let left ← child lower c "left"
  let right ← child lower c "right"
  let operator ← operatorOf code c
  .ok (.assignment span left right (.str operator))

/-- What a declaration binds; the range of a plain name reaches over its type. -/
def target (c bound : Concrete) : Lowering Node :=
  if bound.kind = "identifier" then do
    let stop := (c.child? "type").elim bound.stop (·.stop)
    let span ← span code bound.start stop
    let name ← text code bound
    .ok (.identifier span (.str name) (← annotated? lower (c.child? "type")) false [])
  else lower c.kind bound

def declarator (c : Concrete) : Lowering Node := do
  let bound ← need (c.child? "name") "type"
  let target ← target code lower c bound
  let span ← spanOf code c
  .ok (.declarator span target (← child? lower c "value"))

def other (c : Concrete) : Lowering Node := do
  .ok (.other (← spanOf code c) (.str c.kind) (← parts lower c))

/-- The lowering of one node, with `lower` for the nodes below it. -/
def node (parent : Option String) (c : Concrete) : Lowering Node :=
  match Form.ofKind c.kind with
  | .parenthesized =>
    match c.parts with
    | [] => other code lower c
    | d :: _ => lower c.kind d
  | .function kind => do
    let span ← spanOf code c
    .ok ((← functionParts lower c).node kind span)
  | .arrow => arrow code lower c
  | .method => method code lower parent c
  | .parameter optional => parameter code lower c optional
  | .name => name code c
  | .assignmentPattern => do
    let span ← spanOf code c
    .ok (.assignmentPattern span (← child lower c "left") (← child lower c "right") [])
  | .rest => do
    let span ← spanOf code c
    .ok (.restElement span (← restArgument code lower c) none [])
  | .objectPattern => do
    let span ← spanOf code c
    .ok (.objectPattern span (← parts lower c) none [])
  | .arrayPattern => do
    let span ← spanOf code c
    .ok (.arrayPattern span (← parts lower c) none [])
  | .call =>
    match c.child? "arguments" with
    | some args =>
      if args.kind = "arguments" then do
        let span ← spanOf code c
        .ok (.call span (← child lower c "function") (← parts lower args))
      else other code lower c
    | none => other code lower c
  | .member => do
    let span ← spanOf code c
    .ok (.member span (← child lower c "object") (← child lower c "property") false)
  | .subscript => do
    let span ← spanOf code c
    .ok (.member span (← child lower c "object") (← child lower c "index") true)
  | .pair => do
    let span ← spanOf code c
    .ok (.property span (← child lower c "key") (← child lower c "value") false false (.str "init"))
  | .shorthand => shorthand code c
  | .assignment => assignment code lower c
  | .declarator => declarator code lower c
  | .literal kind => literal code c kind
  | .other => other code lower c

end

/-- The lowering of a node that may be nested `levels` deep. -/
def ofConcrete (code : Utf8.Encoded) : (levels : Nat) → (parent : Option String) → Concrete →
    Lowering Node
  | 0, _, _ => .error .tooDeep
  | levels + 1, parent, c => node code (fun p => ofConcrete code levels (some p)) parent c

end Lower

end ArityLint
