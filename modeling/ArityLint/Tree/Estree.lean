import ArityLint.Error
import ArityLint.Tree.Walk
import ArityLint.Value.Json

namespace ArityLint.Estree

def isNode : Value → Bool
  | .obj fields => (Value.field? fields "type").isSome
  | _ => false

def fail (path : Path) (reason : String) : Error := .failure (.parsing path "estree" reason)

def skippedKeys : List String := ["type", "parent", "loc", "range", "tokens", "comments"]

section

variable (path : Path) (fields : List (String × Value))

def get (key : String) : Value := (Value.field? fields key).getD .null

def span : Except Error Span :=
  match get fields "range" with
  | .arr [a, b] => do
    let start ← a.toOffset.mapError .fault
    let stop ← b.toOffset.mapError .fault
    .ok ⟨start, stop⟩
  | _ =>
    .error (fail path ((get fields "type").text ++ " node has no range (parse with range: true)"))

def literal (span : Span) : Node :=
  let value := get fields "value"
  let kind : LiteralKind :=
    if (Value.field? fields "regex").isSome then .regex
    else if (Value.field? fields "bigint").isSome then .bigint
    else
      match value with
      | .bool _ => .boolean
      | .int _ | .float _ => .number
      | .str _ => .string
      | _ => .null
  .literal span kind ((Value.field? fields "raw").getD (.str "")) value

variable (convert : Value → Except Error Node)

def child (key : String) : Except Error Node :=
  let v := get fields key
  if isNode v then convert v
  else .error (fail path ((get fields "type").text ++ "." ++ key ++ " is missing"))

def child? (key : String) : Except Error (Option Node) :=
  let v := get fields key
  if isNode v then some <$> convert v else .ok none

def nodesOf (items : List Value) : Except Error (List Node) :=
  (items.filter isNode).mapM convert

/-- The nodes of a list; a text or an object in its place has none, and neither has anything
false. -/
def children (key : String) : Except Error (List Node) :=
  match get fields key with
  | .arr items => nodesOf convert items
  | .str _ | .obj _ | .null => .ok []
  | v => if v.truthy then .error (.fault (.notIterable v.typeName)) else .ok []

/-- The type inside an annotation, or the annotation itself when there is none inside. -/
def typeExpr? (key : String) : Except Error (Option Node) :=
  match get fields key with
  | .obj wrapper =>
    if isNode (.obj wrapper) then
      let inner := get wrapper "typeAnnotation"
      some <$> convert (if isNode inner then inner else .obj wrapper)
    else .ok none
  | _ => .ok none

/-- The nodes under one key of an object about which nothing is known. -/
def under (key : String) (v : Value) : Except Error (List Node) :=
  if skippedKeys.contains key then .ok []
  else
    match v with
    | .arr items => nodesOf convert items
    | v => if isNode v then do .ok [← convert v] else .ok []

/-- All nodes of an object about which nothing is known, by where they start. -/
def allChildren : Except Error (List Node) := do
  let found ← fields.mapM fun (key, v) => under convert key v
  .ok (found.flatten.mergeSort fun a b => a.start ≤ b.start)

def function (span : Span) (kind : FunctionKind) : Except Error Node := do
  let params ← children fields convert "params"
  let id ← child? fields convert "id"
  let body ← child? fields convert "body"
  let returnType ← typeExpr? fields convert "returnType"
  .ok (.function span kind params id body returnType)

def named (span : Span) : (type : String) → Except Error Node
  | "Identifier" => do
    let t ← typeExpr? fields convert "typeAnnotation"
    let ds ← children fields convert "decorators"
    .ok (.identifier span ((Value.field? fields "name").getD (.str "")) t
      (get fields "optional").truthy ds)
  | "Literal" => .ok (literal fields span)
  | "AssignmentPattern" => do
    let left ← child path fields convert "left"
    let right ← child path fields convert "right"
    let ds ← children fields convert "decorators"
    .ok (.assignmentPattern span left right ds)
  | "RestElement" => do
    let argument ← child path fields convert "argument"
    let t ← typeExpr? fields convert "typeAnnotation"
    let ds ← children fields convert "decorators"
    .ok (.restElement span argument t ds)
  | "ObjectPattern" => do
    let properties ← children fields convert "properties"
    let t ← typeExpr? fields convert "typeAnnotation"
    let ds ← children fields convert "decorators"
    .ok (.objectPattern span properties t ds)
  | "ArrayPattern" => do
    let elements ← children fields convert "elements"
    let t ← typeExpr? fields convert "typeAnnotation"
    let ds ← children fields convert "decorators"
    .ok (.arrayPattern span elements t ds)
  | "TSParameterProperty" => do
    let parameter ← child path fields convert "parameter"
    let ds ← children fields convert "decorators"
    .ok (.parameterProperty span parameter (get fields "accessibility")
      (get fields "readonly").truthy (get fields "override").truthy ds)
  | "FunctionDeclaration" => function fields convert span .declaration
  | "FunctionExpression" => function fields convert span .expression
  | "ArrowFunctionExpression" => function fields convert span .arrow
  | "CallExpression" => do
    let callee ← child path fields convert "callee"
    let arguments ← children fields convert "arguments"
    .ok (.call span callee arguments)
  | "MemberExpression" => do
    let object ← child path fields convert "object"
    let property ← child path fields convert "property"
    .ok (.member span object property (get fields "computed").truthy)
  | "Property" => do
    let key ← child path fields convert "key"
    let value ← child path fields convert "value"
    .ok (.property span key value (get fields "method").truthy (get fields "shorthand").truthy
      ((Value.field? fields "kind").getD (.str "init")))
  | "MethodDefinition" => do
    let key ← child path fields convert "key"
    let value ← child path fields convert "value"
    .ok (.methodDefinition span key value ((Value.field? fields "kind").getD (.str "method"))
      (get fields "static").truthy)
  | "AssignmentExpression" => do
    let left ← child path fields convert "left"
    let right ← child path fields convert "right"
    .ok (.assignment span left right ((Value.field? fields "operator").getD (.str "=")))
  | "VariableDeclarator" => do
    let id ← child path fields convert "id"
    let init ← child? fields convert "init"
    .ok (.declarator span id init)
  | type => do .ok (.other span (.str type) (← allChildren fields convert))

/-- One object, with `convert` for the objects below it. -/
def object : Except Error Node := do
  let span ← span path fields
  match get fields "type" with
  | .str type => named path fields convert span type
  | .arr _ => .error (.fault (.unhashable "list"))
  | .obj _ => .error (.fault (.unhashable "dict"))
  | type => do .ok (.other span type (← allChildren fields convert))

end

def rootMessage : String := "document root is not an ESTree node"

/-- The node of a value nested at most `levels` deep. -/
def convert (path : Path) : (levels : Nat) → Value → Except Error Node
  | levels + 1, .obj fields => object path fields (convert path levels)
  | _, _ => .error (fail path rootMessage)

/-- The node of a value that has a type, with as many levels as the value is deep. -/
def ofValue (path : Path) (v : Value) : Except Error Node :=
  if isNode v then convert path v.depth v else .error (fail path rootMessage)

section

-- What is said of a text that is not JSON.
variable (complaint : String → String)

/-- The value a document stands for: a text is read as JSON, anything else is itself. -/
def read (path : Path) : Value → Except Error Value
  | .str s =>
    match Json.parse s with
    | .ok v => .ok v
    | .error .malformed => .error (fail path ("invalid JSON: " ++ complaint s))
    | .error (.integerTooLong n) => .error (.fault (.integerTooLong n))
    | .error (.tooDeep container) => .error (.fault (.nestedText container))
  | v => .ok v

def tree (document : Value) (source path : String) : Except Error Tree := do
  let path := Path.ofString path
  let root ← ofValue path (← read complaint path document)
  .ok (.build root (SourceText.ofString source))

end

end ArityLint.Estree
