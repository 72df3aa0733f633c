namespace ArityLint.Number

/-- A positive binary fraction `m · 2^q`; `low` says that its lower neighbour is half as far away
as its upper one. -/
structure Dyadic where
  m : Nat
  q : Int
  low : Bool
  deriving DecidableEq, Repr

inductive FloatClass where
  | nan
  | infinite (negative : Bool)
  | zero (negative : Bool)
  | finite (negative : Bool) (value : Dyadic)
  deriving DecidableEq, Repr

def classify (bits : Nat) : FloatClass :=
  let negative : Bool := bits / Nat.pow 2 63 % 2 = 1
  let ex : Nat := bits / Nat.pow 2 52 % Nat.pow 2 11
  let frac : Nat := bits % Nat.pow 2 52
  if ex = 2047 then if frac = 0 then .infinite negative else .nan
  else if ex = 0 then if frac = 0 then .zero negative else .finite negative ⟨frac, -1074, false⟩
  else .finite negative ⟨Nat.pow 2 52 + frac, (ex : Int) - 1075, frac = 0 && 1 < ex⟩

/-- `2^e` as numerator and denominator. -/
def twoPow (e : Int) : Nat × Nat :=
  if e < 0 then (1, Nat.pow 2 (-e).toNat) else (Nat.pow 2 e.toNat, 1)

def tenPow (e : Int) : Nat × Nat :=
  if e < 0 then (1, Nat.pow 10 (-e).toNat) else (Nat.pow 10 e.toNat, 1)

def Dyadic.floor (x : Dyadic) : Nat :=
  let (bn, bd) := twoPow x.q
  x.m * bn / bd

/-- Does the decimal `d · 10^e` round to the fraction? Everything is scaled by four. -/
def Dyadic.rounds (x : Dyadic) (d : Nat) (e : Int) : Bool :=
  let (dn, dd) := tenPow e
  let (bn, bd) := twoPow x.q
  let point := 4 * d * dn * bd
  let lower := (4 * x.m - if x.low then 1 else 2) * bn * dd
  let upper := (4 * x.m + 2) * bn * dd
  if x.m % 2 = 0 then lower ≤ point && point ≤ upper else lower < point && point < upper

/-- The exponent of the leading digit of `num / den`, by steps from `e` downwards. -/
def leadingExponent (num den : Nat) : (steps : Nat) → (e : Int) → Int
  | 0, e => e
  | steps + 1, e =>
    let (n, d) := tenPow e
    if n * den ≤ num * d then e else leadingExponent num den steps (e - 1)

/-- Digits `d` and exponent `e` of the nearest decimal `d · 10^e` with `n`, `n + 1`, … digits that
rounds to the fraction; on a tie the even digit wins. -/
def Dyadic.search (x : Dyadic) (top : Int) : (steps n : Nat) → Nat × Int
  | 0, _ => (x.m, 0)
  | steps + 1, n =>
    let e := top - n + 1
    let (bn, bd) := twoPow x.q
    let (tn, td) := tenPow e
    let num := x.m * bn * td
    let den := bd * tn
    let below := num / den
    let twice := 2 * (num % den)
    let nearest := if twice < den ∨ (twice = den ∧ below % 2 = 0) then below else below + 1
    let other := if nearest = below then below + 1 else below
    if x.rounds nearest e then (nearest, e)
    else if x.rounds other e then (other, e)
    else x.search top steps (n + 1)

/-- Seventeen digits always suffice, so the search has an answer on the way. -/
def Dyadic.shortest (x : Dyadic) : Nat × Int :=
  let (bn, bd) := twoPow x.q
  x.search (leadingExponent (x.m * bn) bd 700 310) 20 1

end ArityLint.Number
