namespace ArityLint

inductive Anchor where
  | relative
  | root
  | doubleRoot
  deriving DecidableEq, Repr

def Anchor.text : Anchor → String
  | .relative => ""
  | .root => "/"
  | .doubleRoot => "//"

structure Path where
  anchor : Anchor
  parts : List String
  deriving DecidableEq, Repr

/-- The pieces of `cs` between slashes. -/
def splitSlashes (cs : List Char) : List (List Char) :=
  match cs with
  | [] => [[]]
  | c :: rest =>
    if c = '/' then [] :: splitSlashes rest
    else
      match splitSlashes rest with
      | [] => [[c]]
      | piece :: pieces => (c :: piece) :: pieces

namespace Path

def components (cs : List Char) : List String :=
  ((splitSlashes cs).map String.ofList).filter fun p => p ≠ "" && p ≠ "."

def ofString (s : String) : Path :=
  let cs := s.toList
  let slashes := (cs.takeWhile (· = '/')).length
  let anchor := if slashes = 0 then .relative else if slashes = 2 then .doubleRoot else .root
  ⟨anchor, components cs⟩

def text (p : Path) : String :=
  let s := p.anchor.text ++ "/".intercalate p.parts
  if s = "" then "." else s

def hasNull (p : Path) : Bool := p.parts.any fun part => part.toList.contains '\x00'

def name (p : Path) : String :=
  p.parts.getLastD ""

/-- The last component from its last dot on, unless that dot is its first or last character. -/
def suffix (p : Path) : String :=
  let cs := p.name.toList
  let tail := (cs.reverse.takeWhile (· ≠ '.')).reverse
  let stem := cs.take (cs.length - tail.length - 1)
  if tail.length < cs.length ∧ tail ≠ [] ∧ stem ≠ [] then String.ofList ('.' :: tail) else ""

/-- `p / q`: an absolute `q` wins. -/
def join (p q : Path) : Path :=
  match q.anchor with
  | .relative => ⟨p.anchor, p.parts ++ q.parts⟩
  | _ => q

end Path

end ArityLint
