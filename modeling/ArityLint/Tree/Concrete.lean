import ArityLint.Error

namespace ArityLint

structure Token where
  kind : String
  named : Bool
  missing : Bool
  hasError : Bool
  start : Nat
  stop : Nat
  /-- The line it starts on, counted from zero. -/
  row : Nat
  field : Option String
  deriving DecidableEq, Repr, Inhabited

inductive Concrete where
  | node (token : Token) (children : List Concrete)
  deriving Inhabited

namespace Concrete

def token : Concrete → Token
  | node t _ => t

def children : Concrete → List Concrete
  | node _ cs => cs

abbrev kind (c : Concrete) : String := c.token.kind

abbrev start (c : Concrete) : Nat := c.token.start

abbrev stop (c : Concrete) : Nat := c.token.stop

def isMark (c : Concrete) (text : String) : Bool := !c.token.named && c.kind = text

def child? (c : Concrete) (field : String) : Option Concrete :=
  c.children.find? fun d => d.token.field = some field

def isExtra (kind : String) : Bool := kind = "comment" || kind = "decorator"

/-- The named children apart from comments and decorators. -/
def parts (c : Concrete) : List Concrete :=
  c.children.filter fun d => d.token.named && !isExtra d.kind

/-- The tree of a list of nodes in pre-order, each with its number of children. -/
def ofRows? (rows : List (Token × Nat)) : Option Concrete :=
  (rows.foldr (fun (t, n) later => node t (later.take n) :: later.drop n) []).head?

def isError (c : Concrete) : Bool := c.kind = "ERROR" || c.token.missing

mutual

/-- The first error in pre-order, below nodes that are marked as holding one. The search goes down
`levels` nodes deep and no deeper. -/
def firstError? (levels : Nat) : Concrete → Except Fault (Option Concrete)
  | node t cs =>
    match levels with
    | 0 => .error .nestedTree
    | below + 1 => if (node t cs).isError then .ok (some (node t cs)) else firstErrorIn? below cs

def firstErrorIn? (levels : Nat) : List Concrete → Except Fault (Option Concrete)
  | [] => .ok none
  | c :: cs =>
    if c.token.hasError || c.token.missing then
      match firstError? levels c with
      | .ok none => firstErrorIn? levels cs
      | found => found
    else firstErrorIn? levels cs

end

end Concrete

end ArityLint
