import ArityLint.Number.Decimal
import ArityLint.Number.Shortest

namespace ArityLint.Number

def padLeft (width : Nat) (c : Char) (s : String) : String :=
  String.ofList (List.replicate (width - s.length) c) ++ s

/-- Places the point in `digits`, whose leading digit counts `10^top`. -/
def positional (digits : List Char) (top : Int) : String :=
  if top < 0 then "0." ++ String.ofList (List.replicate (-top - 1).toNat '0' ++ digits)
  else
    let whole := digits.take (top.toNat + 1)
    let fraction := digits.drop (top.toNat + 1)
    String.ofList (whole ++ List.replicate (top.toNat + 1 - digits.length) '0') ++ "." ++
      (if fraction.isEmpty then "0" else String.ofList fraction)

def scientific (digits : List Char) (top : Int) : String :=
  let mantissa :=
    match digits with
    | d :: (e :: rest) => String.ofList (d :: '.' :: e :: rest)
    | ds => String.ofList ds
  mantissa ++ "e" ++ (if top < 0 then "-" else "+") ++ padLeft 2 '0' (toString top.natAbs)

def dropTrailingZeros (cs : List Char) : List Char :=
  (cs.reverse.dropWhile (· = '0')).reverse

def finiteText (x : Dyadic) : String :=
  let (d, e) := x.shortest
  let all := Nat.toDigits 10 d
  let top := e + all.length - 1
  let digits := dropTrailingZeros all
  if -4 ≤ top ∧ top < 16 then positional digits top else scientific digits top

def floatText (x : Float) : String :=
  match classify x.toBits.toNat with
  | .nan => "nan"
  | .infinite negative => if negative then "-inf" else "inf"
  | .zero negative => if negative then "-0.0" else "0.0"
  | .finite negative value => (if negative then "-" else "") ++ finiteText value

end ArityLint.Number
