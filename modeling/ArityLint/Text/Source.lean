import ArityLint.Text.Slice

namespace ArityLint

/-- Offset of the first character after each newline of `cs`, which starts at offset `i`. -/
def newlineEnds : List Char → Nat → List Nat
  | [], _ => []
  | c :: cs, i => if c = '\n' then (i + 1) :: newlineEnds cs (i + 1) else newlineEnds cs (i + 1)

def lineStarts (cs : List Char) : Array Nat :=
  (0 :: newlineEnds cs 0).toArray

/-- The least index in `lo ≤ · ≤ hi` from which on the entries of the sorted table exceed `x`. -/
def upperBoundIn (table : Array Nat) (x : Int) (lo hi : Nat) : Nat :=
  if lo < hi then
    let mid := (lo + hi) / 2
    if x < table.getD mid 0 then upperBoundIn table x lo mid
    else upperBoundIn table x (mid + 1) hi
  else lo
termination_by hi - lo

def upperBound (table : Array Nat) (x : Int) : Nat :=
  upperBoundIn table x 0 table.size

structure Position where
  line : Int
  column : Int
  deriving DecidableEq, Repr

structure SourceText where
  text : String
  starts : Array Nat
  starts_eq : starts = lineStarts text.toList

namespace SourceText

def ofString (text : String) : SourceText :=
  ⟨text, lineStarts text.toList, rfl⟩

def length (s : SourceText) : Nat :=
  s.text.length

def slice (s : SourceText) (start stop : Int) : String :=
  Text.slice s.text start stop

def position (s : SourceText) (offset : Int) : Position :=
  let line := upperBound s.starts offset
  let start := if line = 0 then s.starts.getD (s.starts.size - 1) 0 else s.starts.getD (line - 1) 0
  ⟨line, offset - start + 1⟩

end SourceText

end ArityLint
