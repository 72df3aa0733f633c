import ArityLint.Value

namespace ArityLint.Json

def isBlank (c : Char) : Bool := c = ' ' || c = '\t' || c = '\n' || c = '\r'

def skipBlanks (cs : List Char) : List Char := cs.dropWhile isBlank

/-- What is left of `cs` after the word. -/
def word? (w : String) (cs : List Char) : Option (List Char) :=
  if w.toList.isPrefixOf cs then some (cs.drop w.length) else none

def hexValue? (c : Char) : Option Nat :=
  if '0' ≤ c ∧ c ≤ '9' then some (c.toNat - 48)
  else if 'a' ≤ c ∧ c ≤ 'f' then some (c.toNat - 87)
  else if 'A' ≤ c ∧ c ≤ 'F' then some (c.toNat - 55)
  else none

def hex4? (a b c d : Char) : Option Nat := do
  some ((((← hexValue? a) * 16 + (← hexValue? b)) * 16 + (← hexValue? c)) * 16 + (← hexValue? d))

/-- The character that stands for itself after a backslash, or for a control character. -/
def plainEscape? : Char → Option Char
  | '"' => some '"'
  | '\\' => some '\\'
  | '/' => some '/'
  | 'b' => some '\x08'
  | 'f' => some '\x0c'
  | 'n' => some '\n'
  | 'r' => some '\r'
  | 't' => some '\t'
  | _ => none

def isHighSurrogate (n : Nat) : Bool := 0xD800 ≤ n && n < 0xDC00

def isLowSurrogate (n : Nat) : Bool := 0xDC00 ≤ n && n < 0xE000

/-- The low surrogate that the text goes on with, when `n` is a high one. -/
def lowSurrogate? (n : Nat) : List Char → Option Nat
  | '\\' :: 'u' :: a :: b :: c :: d :: _ =>
    if isHighSurrogate n then (hex4? a b c d).filter isLowSurrogate else none
  | _ => none

def replacement : Char := '\ufffd'

/-- The rest of a string after its opening quote. A `\u` escape of a high surrogate takes the low
one that follows; a surrogate without its partner stands for no character and is replaced. -/
def stringTail? : List Char → Option (List Char × List Char)
  | [] => none
  | '"' :: rest => some ([], rest)
  | '\\' :: 'u' :: a :: b :: c :: d :: rest => do
    let n ← hex4? a b c d
    match lowSurrogate? n rest with
    | some low =>
      let (cs, rest) ← stringTail? (rest.drop 6)
      some (Char.ofNat (0x10000 + (n - 0xD800) * 0x400 + (low - 0xDC00)) :: cs, rest)
    | none =>
      let (cs, rest) ← stringTail? rest
      some ((if n.isValidChar then Char.ofNat n else replacement) :: cs, rest)
  | '\\' :: e :: rest => do
    let c ← plainEscape? e
    let (cs, rest) ← stringTail? rest
    some (c :: cs, rest)
  | c :: rest =>
    if c.toNat < 0x20 ∨ c = '\\' then none
    else do
      let (cs, rest) ← stringTail? rest
      some (c :: cs, rest)
termination_by cs => cs.length
decreasing_by all_goals simp_wf; try omega

def string? : List Char → Option (String × List Char)
  | '"' :: rest => do
    let (cs, rest) ← stringTail? rest
    some (String.ofList cs, rest)
  | _ => none

def isDigit (c : Char) : Bool := '0' ≤ c && c ≤ '9'

def natOf (ds : List Char) : Nat := ds.foldl (fun n c => 10 * n + (c.toNat - 48)) 0

/-- The digits before the point: a zero alone, or a run that does not begin with zero. -/
def whole? : List Char → Option (List Char × List Char)
  | '0' :: rest => some (['0'], rest)
  | cs =>
    match cs.span isDigit with
    | ([], _) => none
    | found => some found

/-- A fraction, if a point with a digit after it comes next. -/
def fraction : List Char → List Char × List Char
  | '.' :: rest =>
    match rest.span isDigit with
    | ([], _) => ([], '.' :: rest)
    | found => found
  | cs => ([], cs)

def exponent? : List Char → Option (Int × List Char)
  | c :: rest =>
    if c = 'e' ∨ c = 'E' then
      let (negative, rest) := Number.sign rest
      match rest.span isDigit with
      | ([], _) => none
      | (ds, rest) => some (if negative then -(natOf ds : Int) else natOf ds, rest)
    else none
  | [] => none

/-- What stops the reader: a breach of the grammar, an integer with too many digits, or too many
values inside one another. -/
inductive Flaw where
  | malformed
  | integerTooLong (digits : Nat)
  | tooDeep (container : String)
  deriving DecidableEq, Repr

def refuse : Except Flaw α := .error .malformed

def ofOption : Option α → Except Flaw α
  | some a => .ok a
  | none => refuse

/-- How many arrays and objects can be inside one another. -/
def maxNesting : Nat := 990

def integer (negative : Bool) (ds : List Char) : Except Flaw Value :=
  if ds.length > Number.maxIntDigits then .error (.integerTooLong ds.length)
  else .ok (.int (if negative then -(natOf ds : Int) else natOf ds))

def number (cs : List Char) : Except Flaw (Value × List Char) := do
  let (negative, cs) :=
    match cs with
    | '-' :: rest => (true, rest)
    | cs => (false, cs)
  let (whole, rest) ← ofOption (whole? cs)
  let (frac, rest) := fraction rest
  match exponent? rest with
  | some (e, rest) =>
    .ok (.float (Number.ofScientific negative (natOf (whole ++ frac)) (e - frac.length)), rest)
  | none =>
    if frac.isEmpty then .ok (← integer negative whole, rest)
    else .ok (.float (Number.ofScientific negative (natOf (whole ++ frac)) (-frac.length)), rest)

def words : List (String × Value) :=
  [("null", .null), ("true", .bool true), ("false", .bool false), ("NaN", .float (0.0 / 0.0)),
    ("Infinity", .float (1.0 / 0.0)), ("-Infinity", .float (-1.0 / 0.0))]

def scalar (cs : List Char) : Except Flaw (Value × List Char) :=
  match words.findSome? fun (w, v) => (word? w cs).map (v, ·) with
  | some found => .ok found
  | none => number cs

mutual

/-- A value and what is left, where `room` more arrays and objects can be opened. Every call takes a
character or ends, so `steps` twice as large as the text suffices. -/
def value : (steps room : Nat) → List Char → Except Flaw (Value × List Char)
  | 0, _, _ => refuse
  | steps + 1, room, cs =>
    match cs with
    | '\x7b' :: rest =>
      match room with
      | 0 => .error (.tooDeep "object")
      | room + 1 =>
        match skipBlanks rest with
        | '\x7d' :: rest => .ok (.obj [], rest)
        | rest => do
          let (found, rest) ← fields steps room [] rest
          .ok (.obj found, rest)
    | '[' :: rest =>
      match room with
      | 0 => .error (.tooDeep "array")
      | room + 1 =>
        match skipBlanks rest with
        | ']' :: rest => .ok (.arr [], rest)
        | rest => do
          let (found, rest) ← items steps room rest
          .ok (.arr found, rest)
    | '"' :: rest => do
      let (s, rest) ← ofOption (string? ('"' :: rest))
      .ok (.str s, rest)
    | cs => scalar cs

def items : (steps room : Nat) → List Char → Except Flaw (List Value × List Char)
  | 0, _, _ => refuse
  | steps + 1, room, cs => do
    let (v, rest) ← value steps room cs
    match skipBlanks rest with
    | ']' :: rest => .ok ([v], rest)
    | ',' :: rest =>
      let (vs, rest) ← items steps room (skipBlanks rest)
      .ok (v :: vs, rest)
    | _ => refuse

/-- Fields up to the closing brace, added to those read before. -/
def fields : (steps room : Nat) → List (String × Value) → List Char →
    Except Flaw (List (String × Value) × List Char)
  | 0, _, _, _ => refuse
  | steps + 1, room, before, cs => do
    let (key, rest) ← ofOption (string? cs)
    match skipBlanks rest with
    | ':' :: rest =>
      let (v, rest) ← value steps room (skipBlanks rest)
      let now := setField before key v
      match skipBlanks rest with
      | '\x7d' :: rest => .ok (now, rest)
      | ',' :: rest => fields steps room now (skipBlanks rest)
      | _ => refuse
    | _ => refuse

end

def parse (s : String) : Except Flaw Value := do
  let cs := skipBlanks s.toList
  let (v, rest) ← value (2 * cs.length + 2) maxNesting cs
  if (skipBlanks rest).isEmpty then .ok v else refuse

def hexEscape (n : Nat) : List Char := '\\' :: 'u' :: (Utf8.hexDigits 4 n).toList

def escaped (c : Char) : List Char :=
  if c = '"' ∨ c = '\\' then ['\\', c]
  else if c = '\n' then ['\\', 'n']
  else if c = '\r' then ['\\', 'r']
  else if c = '\t' then ['\\', 't']
  else if c = '\x08' then ['\\', 'b']
  else if c = '\x0c' then ['\\', 'f']
  else if 0x20 ≤ c.toNat ∧ c.toNat < 0x7F then [c]
  else if c.toNat < 0x10000 then hexEscape c.toNat
  else
    let n := c.toNat - 0x10000
    hexEscape (0xD800 + n / 0x400) ++ hexEscape (0xDC00 + n % 0x400)

def quote (s : String) : String :=
  String.ofList ('"' :: s.toList.flatMap escaped ++ ['"'])

def floatText (x : Float) : String :=
  match Number.classify x.toBits.toNat with
  | .nan => "NaN"
  | .infinite negative => if negative then "-Infinity" else "Infinity"
  | _ => Number.floatText x

def newline (level : Nat) : String :=
  "\n" ++ String.ofList (List.replicate (2 * level) ' ')

mutual

/-- The value over several lines, two blanks deeper at each level. -/
def render (level : Nat) : Value → String
  | .null => "null"
  | .bool b => if b then "true" else "false"
  | .int n => toString n
  | .float x => floatText x
  | .str s => quote s
  | .moment m => quote m.text
  | .arr [] => "[]"
  | .arr (v :: vs) =>
    "[" ++ newline (level + 1) ++ render (level + 1) v ++ renderItems (level + 1) vs ++
      newline level ++ "]"
  | .obj [] => "\x7b\x7d"
  | .obj ((k, v) :: fields) =>
    "\x7b" ++ newline (level + 1) ++ quote k ++ ": " ++ render (level + 1) v ++
      renderFields (level + 1) fields ++ newline level ++ "\x7d"

def renderItems (level : Nat) : List Value → String
  | [] => ""
  | v :: vs => "," ++ newline level ++ render level v ++ renderItems level vs

def renderFields (level : Nat) : List (String × Value) → String
  | [] => ""
  | (k, v) :: fields =>
    "," ++ newline level ++ quote k ++ ": " ++ render level v ++ renderFields level fields

end

end ArityLint.Json
