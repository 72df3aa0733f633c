import ArityLint.Value.Moment

namespace ArityLint.Toml

/-- The number written in the next `width` decimal digits, and what is left. -/
def digits? : (width : Nat) → List Char → Option (Nat × List Char)
  | 0, cs => some (0, cs)
  | width + 1, c :: rest =>
    if '0' ≤ c ∧ c ≤ '9' then do
      let (n, rest) ← digits? width rest
      some ((c.toNat - 48) * 10 ^ width + n, rest)
    else none
  | _, [] => none

/-- A number of `width` digits from `lo` to `hi`. -/
def bounded? (width lo hi : Nat) (cs : List Char) : Option (Nat × List Char) :=
  (digits? width cs).filter fun (n, _) => lo ≤ n && n ≤ hi

def mark? (c : Char) : List Char → Option (List Char)
  | d :: rest => if c = d then some rest else none
  | [] => none

/-- The date that comes next; its day need not exist in its month. -/
def date? (cs : List Char) : Option (Date × List Char) := do
  let (year, rest) ← digits? 4 cs
  let (month, rest) ← bounded? 2 1 12 (← mark? '-' rest)
  let (day, rest) ← bounded? 2 1 31 (← mark? '-' rest)
  some (⟨year, month, day⟩, rest)

/-- Millionths of a second, if a point with a digit after it comes next; further digits are
dropped. -/
def micros (cs : List Char) : Nat × List Char :=
  match cs with
  | '.' :: rest =>
    match rest.span fun c => '0' ≤ c && c ≤ '9' with
    | ([], _) => (0, cs)
    | (ds, rest) =>
      let kept := ds.take 6
      let n := kept.foldl (fun n c => 10 * n + (c.toNat - 48)) 0
      (n * Nat.pow 10 (6 - kept.length), rest)
  | _ => (0, cs)

def clock? (cs : List Char) : Option (Clock × List Char) := do
  let (hour, rest) ← bounded? 2 0 23 cs
  let (minute, rest) ← bounded? 2 0 59 (← mark? ':' rest)
  let (second, rest) ← bounded? 2 0 59 (← mark? ':' rest)
  let (micro, rest) := micros rest
  some (⟨hour, minute, second, micro⟩, rest)

def offset (cs : List Char) : Option Int × List Char :=
  match cs with
  | [] => (none, [])
  | c :: rest =>
    if c = 'Z' ∨ c = 'z' then (some 0, rest)
    else if c = '+' ∨ c = '-' then
      let found := do
        let (hours, rest) ← bounded? 2 0 23 rest
        let (minutes, rest) ← bounded? 2 0 59 (← mark? ':' rest)
        some ((hours * 60 + minutes : Nat), rest)
      match found with
      | some (n, rest) => (some (if c = '-' then -(n : Int) else n), rest)
      | none => (none, cs)
    else (none, cs)

def isSeparator (c : Char) : Bool := c = 'T' || c = 't' || c = ' '

def clockAfter? : List Char → Option (Clock × List Char)
  | c :: rest => if isSeparator c then clock? rest else none
  | [] => none

def moment? (cs : List Char) : Option (Moment × List Char) :=
  match date? cs with
  | some (d, rest) =>
    match clockAfter? rest with
    | some (t, rest) =>
      let (o, rest) := offset rest
      some (.both d t o, rest)
    | none => some (.date d, rest)
  | none => (clock? cs).map fun (t, rest) => (.clock t, rest)

def isValidMoment : Moment → Bool
  | .date d | .both d .. => d.isValid
  | .clock _ => true

end ArityLint.Toml
