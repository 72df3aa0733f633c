import ArityLint.Finding
import ArityLint.Text.Source

namespace ArityLint

structure Report where
  path : String
  findings : List Finding := []
  source : Option SourceText := none
  error : Option String := none
  fixed : Bool := false

namespace Report

def count (r : Report) : Nat := r.findings.length

def fixableCount (r : Report) : Nat := r.findings.countP (·.fixable)

/-- Where a finding starts and ends; zeros without a text. -/
structure Extent where
  start : Position
  stop : Position
  deriving DecidableEq, Repr

def extent (r : Report) (f : Finding) : Extent :=
  match r.source with
  | none => ⟨⟨0, 0⟩, ⟨0, 0⟩⟩
  | some s => ⟨s.position f.span.start, s.position f.span.stop⟩

end Report

end ArityLint
