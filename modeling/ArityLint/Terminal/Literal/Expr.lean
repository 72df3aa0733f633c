namespace ArityLint.Terminal.Literal

inductive Expr where
  | number (imaginary : Bool)
  /-- A text, bytes or one of the constant names. -/
  | constant (description : String)
  | name (text : String)
  | tuple (items : List Expr)
  | set (items : List Expr)
  | emptySet
  /-- A dictionary; a value that is spread has the key `spread`. -/
  | dict (keys values : List Expr)
  | spread
  /-- A sum or a difference. -/
  | sum (left right : Expr)
  /-- A plus or minus before an operand. -/
  | signed (operand : Expr)
  | other (description : String)

namespace Expr

def description : Expr → String
  | number _ => "literal"
  | constant d => d
  | name _ => "name"
  | tuple _ => "tuple"
  | set _ => "set display"
  | emptySet => "function call"
  | dict .. => "dict literal"
  | spread | sum .. | signed _ => "expression"
  | other d => d

/-- What is known of a value: the kind of number, and the name of a type in it that has no hash. -/
structure Outcome where
  imaginary : Option Bool := none
  unhashable : Option String := none
  deriving DecidableEq, Repr

def malformed : String := "malformed node or string"

def unhashable (typeName : String) : String := "unhashable type: '" ++ typeName ++ "'"

def members : List (Except String Outcome) → Except String Unit
  | [] => .ok ()
  | r :: rest => do
    match (← r).unhashable with
    | some t => .error (unhashable t)
    | none => members rest

def entries : List (Except String Outcome) → List (Except String Outcome) → Except String Unit
  | k :: keys, v :: values => do
    let key ← k
    let _ ← v
    match key.unhashable with
    | some t => .error (unhashable t)
    | none => entries keys values
  | _, _ => .ok ()

def plainNumber? : Expr → Option Bool
  | number imaginary => some imaginary
  | _ => none

def signedNumber? : Expr → Option Bool
  | signed e => e.plainNumber?
  | e => e.plainNumber?

mutual

def evaluate : Expr → Except String Outcome
  | number imaginary => .ok { imaginary := some imaginary }
  | constant _ => .ok {}
  | tuple items => do
    let outcomes ← (evaluateAll items).mapM id
    .ok { unhashable := outcomes.findSome? (·.unhashable) }
  | set items => do
    members (evaluateAll items)
    .ok { unhashable := some "set" }
  | emptySet => .ok { unhashable := some "set" }
  | dict keys values => do
    entries (evaluateAll keys) (evaluateAll values)
    .ok { unhashable := some "dict" }
  | sum left right =>
    match left.signedNumber?, right.plainNumber? with
    | some false, some true => .ok { imaginary := some true }
    | _, _ => .error malformed
  | signed e =>
    match e.plainNumber? with
    | some imaginary => .ok { imaginary := some imaginary }
    | none => .error malformed
  | spread => .error (malformed ++ ": None")
  | name _ | other _ => .error malformed

def evaluateAll : List Expr → List (Except String Outcome)
  | [] => []
  | e :: rest => evaluate e :: evaluateAll rest

end

end Expr

end ArityLint.Terminal.Literal
