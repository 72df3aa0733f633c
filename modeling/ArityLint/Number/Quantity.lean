import ArityLint.Value

namespace ArityLint

inductive Quantity where
  | truth (b : Bool)
  | whole (n : Int)
  | real (x : Float)

namespace Quantity

def value : Quantity → Value
  | truth b => .bool b
  | whole n => .int n
  | real x => .float x

def text (q : Quantity) : String := q.value.text

/-- The number a truth value or integer stands for; none for a float. -/
def int? : Quantity → Option Int
  | truth b => some (if b then 1 else 0)
  | whole n => some n
  | real _ => none

def ofValue? : Value → Option Quantity
  | .bool b => some (.truth b)
  | .int n => some (.whole n)
  | .float x => some (.real x)
  | _ => none

def atMostZero : Quantity → Bool
  | truth b => !b
  | whole n => n ≤ 0
  | real x => x ≤ 0.0

def belowOne : Quantity → Bool
  | truth b => !b
  | whole n => n < 1
  | real x => x < 1.0

/-- Has a count reached the amount? Counts are far below `2^53`, where floats are exact. -/
def reachedBy (q : Quantity) (count : Nat) : Bool :=
  match q with
  | truth b => (if b then 1 else 0) ≤ count
  | whole n => n ≤ count
  | real x => x ≤ count.toFloat

end Quantity

end ArityLint
