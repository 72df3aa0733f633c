import ArityLint.Value

namespace ArityLint

structure Span where
  start : Int
  stop : Int
  deriving DecidableEq, Repr, Inhabited

inductive LiteralKind where
  | string
  | number
  | boolean
  | null
  | regex
  | bigint
  deriving DecidableEq, Repr

def LiteralKind.name : LiteralKind → String
  | string => "string"
  | number => "number"
  | boolean => "boolean"
  | null => "null"
  | regex => "regex"
  | bigint => "bigint"

inductive FunctionKind where
  | declaration
  | expression
  | arrow
  deriving DecidableEq, Repr

def FunctionKind.name : FunctionKind → String
  | declaration => "FunctionDeclaration"
  | expression => "FunctionExpression"
  | arrow => "ArrowFunctionExpression"

def FunctionKind.all : List FunctionKind :=
  [.declaration, .expression, .arrow]

def FunctionKind.ofName? (s : String) : Option FunctionKind :=
  all.find? (·.name = s)

inductive Node where
  | other (span : Span) (kind : Value) (body : List Node)
  /-- A name; `typeExpr` is its annotated type, without the colon. -/
  | identifier (span : Span) (name : Value) (typeExpr : Option Node) (optional : Bool)
      (decorators : List Node)
  | literal (span : Span) (kind : LiteralKind) (raw value : Value)
  /-- `left = right` in a binding position. -/
  | assignmentPattern (span : Span) (left right : Node) (decorators : List Node)
  | restElement (span : Span) (argument : Node) (typeExpr : Option Node) (decorators : List Node)
  | objectPattern (span : Span) (properties : List Node) (typeExpr : Option Node)
      (decorators : List Node)
  | arrayPattern (span : Span) (elements : List Node) (typeExpr : Option Node)
      (decorators : List Node)
  /-- A constructor parameter promoted to a class field. -/
  | parameterProperty (span : Span) (parameter : Node) (accessibility : Value)
      (readonly override : Bool) (decorators : List Node)
  | function (span : Span) (kind : FunctionKind) (params : List Node)
    (id body returnType : Option Node)
  | call (span : Span) (callee : Node) (arguments : List Node)
  | member (span : Span) (object property : Node) (computed : Bool)
  /-- An entry of an object literal; `method` only for the short form of a method. -/
  | property (span : Span) (key value : Node) (method shorthand : Bool) (kind : Value)
  /-- An entry whose single name, at `nameSpan`, is both its key and its value. -/
  | shorthand (span nameSpan : Span) (name : Value)
  | methodDefinition (span : Span) (key value : Node) (kind : Value) (static : Bool)
  | assignment (span : Span) (left right : Node) (operator : Value)
  | declarator (span : Span) (id : Node) (init : Option Node)
  deriving Inhabited

inductive Role where
  | body
  | typeExpr
  | decorator
  | left
  | right
  | argument
  | property
  | element
  | parameter
  | param
  | id
  | returnType
  | callee
  | callArgument
  | object
  | memberProperty
  | key
  | value
  | init
  deriving DecidableEq, Repr

namespace Node

def span : Node → Span
  | other s .. | identifier s .. | literal s .. | assignmentPattern s .. | restElement s ..
  | objectPattern s .. | arrayPattern s .. | parameterProperty s .. | function s .. | call s ..
  | member s .. | property s .. | shorthand s .. | methodDefinition s .. | assignment s ..
  | declarator s .. => s

abbrev start (n : Node) : Int := n.span.start

abbrev stop (n : Node) : Int := n.span.stop

def type : Node → Value
  | other _ kind _ => kind
  | identifier .. => .str "Identifier"
  | literal .. => .str "Literal"
  | assignmentPattern .. => .str "AssignmentPattern"
  | restElement .. => .str "RestElement"
  | objectPattern .. => .str "ObjectPattern"
  | arrayPattern .. => .str "ArrayPattern"
  | parameterProperty .. => .str "TSParameterProperty"
  | function _ kind .. => .str kind.name
  | call .. => .str "CallExpression"
  | member .. => .str "MemberExpression"
  | property .. => .str "Property"
  | shorthand .. => .str "Property"
  | methodDefinition .. => .str "MethodDefinition"
  | assignment .. => .str "AssignmentExpression"
  | declarator .. => .str "VariableDeclarator"

/-- The parameters of a function; none for any other node. -/
def params? : Node → Option (List Node)
  | function _ _ params .. => some params
  | _ => none

def isFunction (n : Node) : Bool := n.params?.isSome

def decorators : Node → List Node
  | identifier _ _ _ _ ds | assignmentPattern _ _ _ ds | restElement _ _ _ ds
  | objectPattern _ _ _ ds | arrayPattern _ _ _ ds | parameterProperty _ _ _ _ _ ds => ds
  | _ => []

def placed (role : Role) (ns : List Node) : List (Role × Node) := ns.map (role, ·)

def placedOption (role : Role) (n : Option Node) : List (Role × Node) := n.toList.map (role, ·)

def bareName (span : Span) (name : Value) : Node := identifier span name none false []

/-- The children with their places, in the order of a node's fields. -/
def edges : Node → List (Role × Node)
  | other _ _ body => placed .body body
  | identifier _ _ t _ ds => placedOption .typeExpr t ++ placed .decorator ds
  | literal .. => []
  | assignmentPattern _ l r ds => (.left, l) :: (.right, r) :: placed .decorator ds
  | restElement _ a t ds => (.argument, a) :: (placedOption .typeExpr t ++ placed .decorator ds)
  | objectPattern _ ps t ds =>
    placed .property ps ++ (placedOption .typeExpr t ++ placed .decorator ds)
  | arrayPattern _ es t ds =>
    placed .element es ++ (placedOption .typeExpr t ++ placed .decorator ds)
  | parameterProperty _ p _ _ _ ds => (.parameter, p) :: placed .decorator ds
  | function _ _ ps i b r =>
    placed .param ps ++ (placedOption .id i ++ (placedOption .body b ++ placedOption .returnType r))
  | call _ c args => (.callee, c) :: placed .callArgument args
  | member _ o p _ => [(.object, o), (.memberProperty, p)]
  | property _ k v .. => [(.key, k), (.value, v)]
  | shorthand _ s name => [(.key, bareName s name), (.key, bareName s name)]
  | methodDefinition _ k v .. => [(.key, k), (.value, v)]
  | assignment _ l r _ => [(.left, l), (.right, r)]
  | declarator _ i v => (.id, i) :: placedOption .init v

/-- The edges with the index of the child each leads to. Both edges of a shorthand entry lead to the
same child, all others to different ones. -/
def links : Node → List ((Role × Node) × Nat)
  | shorthand _ s name => [((.key, bareName s name), 0), ((.key, bareName s name), 0)]
  | n => n.edges.zipIdx

theorem map_fst_links (n : Node) : n.links.map (·.1) = n.edges := by
  unfold links
  split
  · rfl
  · exact List.zipIdx_map_fst 0 _

mutual

/-- Number of places in the tree below and including a node. -/
def size : Node → Nat
  | other _ _ body => 1 + sizes body
  | identifier _ _ t _ ds => 1 + (sizeOption t + sizes ds)
  | literal .. => 1
  | assignmentPattern _ l r ds => 1 + (size l + (size r + sizes ds))
  | restElement _ a t ds => 1 + (size a + (sizeOption t + sizes ds))
  | objectPattern _ ps t ds => 1 + (sizes ps + (sizeOption t + sizes ds))
  | arrayPattern _ es t ds => 1 + (sizes es + (sizeOption t + sizes ds))
  | parameterProperty _ p _ _ _ ds => 1 + (size p + sizes ds)
  | function _ _ ps i b r => 1 + (sizes ps + (sizeOption i + (sizeOption b + sizeOption r)))
  | call _ c args => 1 + (size c + sizes args)
  | member _ o p _ => 1 + (size o + size p)
  | property _ k v .. => 1 + (size k + size v)
  | shorthand .. => 3
  | methodDefinition _ k v .. => 1 + (size k + size v)
  | assignment _ l r _ => 1 + (size l + size r)
  | declarator _ i v => 1 + (size i + sizeOption v)

def sizes : List Node → Nat
  | [] => 0
  | n :: ns => size n + sizes ns

def sizeOption : Option Node → Nat
  | none => 0
  | some n => size n

end

theorem sizes_append (ms ns : List Node) : sizes (ms ++ ns) = sizes ms + sizes ns := by
  induction ms with
  | nil => simp [sizes]
  | cons m ms ih =>
    rw [List.cons_append, sizes, sizes, ih]
    omega

theorem sizes_perm {ms ns : List Node} (h : ms.Perm ns) : sizes ms = sizes ns := by
  induction h with
  | nil => rfl
  | cons n _ ih => rw [sizes, sizes, ih]
  | swap m n ns =>
    rw [sizes, sizes, sizes, sizes]
    omega
  | trans _ _ ih ih' => rw [ih, ih']

theorem size_le_sizes {n : Node} {ns : List Node} (h : n ∈ ns) : n.size ≤ sizes ns := by
  obtain ⟨before, after, rfl⟩ := List.append_of_mem h
  rw [sizes_append, sizes]
  omega

theorem sizes_placed (role : Role) (ns : List Node) :
    sizes ((placed role ns).map (·.2)) = sizes ns := by
  rw [placed, List.map_map]
  exact congrArg sizes (List.map_id ns)

theorem sizes_placedOption (role : Role) (n : Option Node) :
    sizes ((placedOption role n).map (·.2)) = sizeOption n := by
  cases n <;> simp [placedOption, sizes, sizeOption]

theorem size_eq (n : Node) : n.size = 1 + sizes (n.edges.map (·.2)) := by
  cases n <;> simp [edges, bareName, size, sizes, sizeOption, sizes_append, sizes_placed,
    sizes_placedOption]

theorem size_lt_of_mem_edges {n c : Node} {role : Role} (h : (role, c) ∈ n.edges) :
    c.size < n.size := by
  have hc : c.size ≤ sizes (n.edges.map (·.2)) := size_le_sizes (List.mem_map.2 ⟨_, h, rfl⟩)
  rw [size_eq n]
  omega

end Node

end ArityLint
