import ArityLint.Text.Numeral

namespace ArityLint.Number

open Text

def maxIntDigits : Nat := 4300

/-- The digits that go on after a digit, single underscores allowed before each, and the rest. -/
def digitsAfter : List Char → List Nat × List Char
  | [] => ([], [])
  | '_' :: c :: rest =>
    match digit? c with
    | some d =>
      let (ds, left) := digitsAfter rest
      (d :: ds, left)
    | none => ([], '_' :: c :: rest)
  | c :: rest =>
    match digit? c with
    | some d =>
      let (ds, left) := digitsAfter rest
      (d :: ds, left)
    | none => ([], c :: rest)

/-- The longest run of digits, single underscores allowed between two of them, and the rest. -/
def digitRun : List Char → List Nat × List Char
  | [] => ([], [])
  | c :: rest =>
    match digit? c with
    | some d =>
      let (ds, left) := digitsAfter rest
      (d :: ds, left)
    | none => ([], c :: rest)

/-- The value of a list of digits, most significant first. -/
def ofDigits (ds : List Nat) : Nat :=
  ds.foldl (fun n d => 10 * n + d) 0

def sign : List Char → Bool × List Char
  | '-' :: cs => (true, cs)
  | '+' :: cs => (false, cs)
  | cs => (false, cs)

inductive IntFlaw where
  | malformed
  | tooLong (digits : Nat)
  deriving DecidableEq, Repr

/-- A misplaced underscore comes before the limit on digits, and that before anything else that
follows the digits. -/
def readInt (s : String) : Except IntFlaw Int :=
  let (negative, cs) := sign (trimBlanks s.toList)
  let (ds, rest) := digitRun cs
  if rest.head? = some '_' then .error .malformed
  else if ds.length > maxIntDigits then .error (.tooLong ds.length)
  else if ds.isEmpty || !rest.isEmpty then .error .malformed
  else .ok (if negative then -(ofDigits ds : Int) else ofDigits ds)

/-- Number of decimal digits of `n`; one for zero. -/
def digitCount (n : Nat) : Nat :=
  (Nat.toDigits 10 n).length

/-- The float nearest to `m · 10^e`, infinite when that is out of range. The bounds keep the powers
small: no finite float has more than 309 digits before the point or 324 zeros after it. -/
def ofScientific (negative : Bool) (m : Nat) (e : Int) : Float :=
  let top := (digitCount m : Int) + e
  let x : Float :=
    if m = 0 ∨ top < -400 then 0.0
    else if top > 400 then 1.0 / 0.0
    else if e < 0 then Float.ofScientific m true (-e).toNat
    else Float.ofScientific m false e.toNat
  if negative then -x else x

/-- An exponent: `e` or `E`, a sign, and at least one digit; zero when there is none. -/
def exponent? : List Char → Option (Int × List Char)
  | c :: cs =>
    if c = 'e' ∨ c = 'E' then
      let (negative, cs) := sign cs
      match digitRun cs with
      | ([], _) => none
      | (ds, rest) => some (if negative then -(ofDigits ds : Int) else ofDigits ds, rest)
    else some (0, c :: cs)
  | [] => some (0, [])

def readFloat? (s : String) : Option Float :=
  let (negative, cs) := sign (trimBlanks s.toList)
  let word := String.ofList (cs.map Char.toLower)
  if word = "inf" ∨ word = "infinity" then some (if negative then -1.0 / 0.0 else 1.0 / 0.0)
  else if word = "nan" then some (0.0 / 0.0)
  else
    let (whole, rest) := digitRun cs
    let (fraction, rest) :=
      match rest with
      | '.' :: rest => digitRun rest
      | rest => ([], rest)
    let ds := whole ++ fraction
    if ds.isEmpty then none
    else
      match exponent? rest with
      | some (e, []) => some (ofScientific negative (ofDigits ds) (e - fraction.length))
      | _ => none

end ArityLint.Number
