import ArityLint.Terminal.Literal.Grammar

namespace ArityLint.Terminal.Literal

inductive Flaw where
  /-- The text is no expression. -/
  | unreadable (message : String)
  /-- The expression has no value as a literal. -/
  | valueless (message : String)
  deriving DecidableEq, Repr

def grave? (ts : List Token) : Option String :=
  ts.findSome? fun t =>
    match t.kind with
    | .flaw message true => some message
    | _ => none

def Raised.message (ts : List Token) : Raised → String
  | .scan message => message
  | .grammar message => (grave? ts).getD message

def read (cs : List Char) : Except String Expr :=
  let ts := tokens cs
  let depth := 20 * (ts.length + 1)
  match (whole false depth).run ts with
  | .error raised => .error (raised.message ts)
  | .ok (some (e, _)) => .ok e
  | .ok none =>
    match (whole true depth).run ts with
    | .error raised => .error (raised.message ts)
    | .ok _ => .error ((grave? ts).getD "invalid syntax")

def flaw? (cs : List Char) : Option Flaw :=
  if cs.contains (Char.ofNat 0) then
    some (.unreadable "source code string cannot contain null bytes")
  else
    match read (cs.map fun c => if c = '\r' then '\n' else c) with
    | .error message => some (.unreadable message)
    | .ok e =>
      match e.evaluate with
      | .error message => some (.valueless message)
      | .ok _ => none

end ArityLint.Terminal.Literal
