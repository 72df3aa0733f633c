import ArityLint.Text.Slice
import ArityLint.Tree.Node

namespace ArityLint

structure Edit where
  span : Span
  text : String
  deriving DecidableEq, Repr

namespace Span

def le (a b : Span) : Bool :=
  a.start < b.start || (a.start = b.start && a.stop ≤ b.stop)

end Span

/-- The text before the cursor, what the cursor has reached and how many edits were accepted. -/
structure Splice where
  done : List Char
  cursor : Int
  applied : Nat

namespace Splice

def start : Splice := ⟨[], 0, 0⟩

def step (source : List Char) (s : Splice) (e : Edit) : Splice :=
  if e.span.start < s.cursor then s
  else ⟨s.done ++ Text.cut source s.cursor e.span.start ++ e.text.toList, e.span.stop,
    s.applied + 1⟩

end Splice

/-- The text after all acceptable edits, and how many there were. -/
def applyEdits (source : String) (edits : List Edit) : String × Nat :=
  let cs := source.toList
  let s := (edits.mergeSort fun a b => a.span.le b.span).foldl (Splice.step cs) .start
  (String.ofList (s.done ++ Text.cutFrom cs s.cursor), s.applied)

end ArityLint
