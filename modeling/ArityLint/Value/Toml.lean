import ArityLint.Value.Json
import ArityLint.Value.Toml.Moment
import ArityLint.Value.Toml.Table

namespace ArityLint.Toml

inductive Flaw where
  | malformed
  | integerTooLong (digits : Nat)
  deriving DecidableEq, Repr

abbrev Found (α : Type) := α × List Char

def refuse : Except Flaw α := .error .malformed

def ofOption : Option α → Except Flaw α
  | some a => .ok a
  | none => refuse

def isBlank (c : Char) : Bool := c = ' ' || c = '\t'

def skipBlanks (cs : List Char) : List Char := cs.dropWhile isBlank

/-- Control characters, of which only the tab may stand in texts and comments. -/
def isIllegal (c : Char) : Bool := (c.toNat < 32 && c ≠ '\t') || c.toNat = 127

def skipComment : List Char → Except Flaw (List Char)
  | '#' :: rest =>
    let (body, rest) := rest.span (· ≠ '\n')
    if body.any isIllegal then refuse else .ok rest
  | cs => .ok cs

def skipLines : (steps : Nat) → List Char → Except Flaw (List Char)
  | 0, cs => .ok cs
  | steps + 1, cs =>
    match cs.dropWhile fun c => isBlank c || c = '\n' with
    | '#' :: rest => do skipLines steps (← skipComment ('#' :: rest))
    | cs => .ok cs

def isBareKeyChar (c : Char) : Bool := c.isAlphanum || c = '-' || c = '_'

def escape? : Char → Option Char
  | 'b' => some '\x08'
  | 't' => some '\t'
  | 'n' => some '\n'
  | 'f' => some '\x0c'
  | 'r' => some '\r'
  | '"' => some '"'
  | '\\' => some '\\'
  | _ => none

/-- The character whose code is written in the next `width` hexadecimal digits. -/
def codePoint (width : Nat) (cs : List Char) : Except Flaw (Found Char) := do
  let ds ← ofOption ((cs.take width).mapM Json.hexValue?)
  let n := ds.foldl (fun n d => 16 * n + d) 0
  if ds.length = width ∧ n.isValidChar then .ok (Char.ofNat n, cs.drop width) else refuse

/-- The rest of a string after its opening quote, or quotes if it goes over `lines`. Each step takes
a character. -/
def stringTail (lines : Bool) : (steps : Nat) → List Char → Except Flaw (Found (List Char))
  | 0, _ => refuse
  | _ + 1, [] => refuse
  | steps + 1, c :: rest =>
    if c = '"' then
      if !lines then .ok ([], rest)
      else
        match rest with
        | '"' :: '"' :: rest => .ok ([], rest)
        | rest => more ['"'] (stringTail lines steps rest)
    else if c = '\\' then
      match rest with
      | 'u' :: rest => do
        let (d, rest) ← codePoint 4 rest
        more [d] (stringTail lines steps rest)
      | 'U' :: rest => do
        let (d, rest) ← codePoint 8 rest
        more [d] (stringTail lines steps rest)
      | e :: rest =>
        if lines && (isBlank e || e = '\n') then
          match (e :: rest).dropWhile isBlank with
          | '\n' :: rest =>
            stringTail lines steps (rest.dropWhile fun c => isBlank c || c = '\n')
          | _ => refuse
        else do
          let d ← ofOption (escape? e)
          more [d] (stringTail lines steps rest)
      | [] => refuse
    else if isIllegal c && !(lines && c = '\n') then refuse
    else more [c] (stringTail lines steps rest)
where
  more (cs : List Char) (r : Except Flaw (Found (List Char))) : Except Flaw (Found (List Char)) :=
    r.map fun (ds, rest) => (cs ++ ds, rest)

/-- The rest of a literal string after its opening quote, or quotes if it goes over `lines`. -/
def literalTail (lines : Bool) : List Char → Except Flaw (Found (List Char))
  | [] => refuse
  | '\'' :: rest =>
    if !lines then .ok ([], rest)
    else
      match rest with
      | '\'' :: '\'' :: rest => .ok ([], rest)
      | rest => (literalTail lines rest).map fun (ds, rest) => ('\'' :: ds, rest)
  | c :: rest =>
    if isIllegal c && !(lines && c = '\n') then refuse
    else (literalTail lines rest).map fun (ds, rest) => (c :: ds, rest)

/-- Up to two more quotes right after the closing ones belong to the text. -/
def extraQuotes (quote : Char) (cs rest : List Char) : List Char × List Char :=
  let extra := (rest.take 2).takeWhile (· = quote)
  (cs ++ extra, rest.drop extra.length)

/-- The line end right after the opening quotes is left out. -/
def dropNewline : List Char → List Char
  | '\n' :: rest => rest
  | cs => cs

def text : List Char → Except Flaw (Found String)
  | '"' :: '"' :: '"' :: rest => do
    let (cs, rest) ← stringTail true (rest.length + 1) (dropNewline rest)
    let (cs, rest) := extraQuotes '"' cs rest
    .ok (String.ofList cs, rest)
  | '\'' :: '\'' :: '\'' :: rest => do
    let (cs, rest) ← literalTail true (dropNewline rest)
    let (cs, rest) := extraQuotes '\'' cs rest
    .ok (String.ofList cs, rest)
  | '"' :: rest =>
    (stringTail false (rest.length + 1) rest).map fun (cs, r) => (String.ofList cs, r)
  | '\'' :: rest => (literalTail false rest).map fun (cs, r) => (String.ofList cs, r)
  | _ => refuse

def keyPart : List Char → Except Flaw (Found String)
  | '"' :: rest =>
    (stringTail false (rest.length + 1) rest).map fun (cs, r) => (String.ofList cs, r)
  | '\'' :: rest => (literalTail false rest).map fun (cs, r) => (String.ofList cs, r)
  | cs =>
    match cs.span isBareKeyChar with
    | ([], _) => refuse
    | (part, rest) => .ok (String.ofList part, rest)

/-- The parts of a key, and the text from the first character after its blanks. -/
def key : (steps : Nat) → List Char → Except Flaw (Found (List String))
  | 0, _ => refuse
  | steps + 1, cs => do
    let (part, rest) ← keyPart cs
    match skipBlanks rest with
    | '.' :: rest =>
      let (parts, rest) ← key steps (skipBlanks rest)
      .ok (part :: parts, rest)
    | rest => .ok ([part], rest)

/-- Digits that go on, single underscores allowed before each. -/
def digitsAfter (digit? : Char → Option Nat) : List Char → List Nat × List Char
  | [] => ([], [])
  | '_' :: c :: rest =>
    match digit? c with
    | some d =>
      let (ds, left) := digitsAfter digit? rest
      (d :: ds, left)
    | none => ([], '_' :: c :: rest)
  | c :: rest =>
    match digit? c with
    | some d =>
      let (ds, left) := digitsAfter digit? rest
      (d :: ds, left)
    | none => ([], c :: rest)

def digitRun (digit? : Char → Option Nat) : List Char → List Nat × List Char
  | [] => ([], [])
  | c :: rest => if (digit? c).isSome then digitsAfter digit? (c :: rest) else ([], c :: rest)

def digitBelow (base : Nat) (c : Char) : Option Nat :=
  (Json.hexValue? c).filter (· < base)

def decimal? : Char → Option Nat := digitBelow 10

/-- An integer in base sixteen, eight or two, when its mark comes next. -/
def marked? : List Char → Option (Int × List Char)
  | '0' :: mark :: rest =>
    let base := if mark = 'x' then 16 else if mark = 'o' then 8 else if mark = 'b' then 2 else 0
    match digitRun (digitBelow base) rest with
    | ([], _) => none
    | (ds, rest) => some (((ds.foldl (fun n d => base * n + d) 0 : Nat) : Int), rest)
  | _ => none

/-- The digits of a decimal before the point: a zero alone, or a run without a leading zero. -/
def whole : List Char → List Nat × List Char
  | '0' :: rest => ([0], rest)
  | cs => digitRun decimal? cs

def fraction (cs : List Char) : List Nat × List Char :=
  match cs with
  | '.' :: rest =>
    match digitRun decimal? rest with
    | ([], _) => ([], cs)
    | found => found
  | _ => ([], cs)

def exponent? : List Char → Option (Int × List Char)
  | c :: rest =>
    if c = 'e' ∨ c = 'E' then
      let (negative, rest) := Number.sign rest
      match digitRun decimal? rest with
      | ([], _) => none
      | (ds, rest) =>
        let n : Int := Number.ofDigits ds
        some (if negative then -n else n, rest)
    else none
  | [] => none

def special? (negative : Bool) (cs : List Char) : Option (Value × List Char) :=
  match Json.word? "inf" cs with
  | some rest => some (.float (if negative then -1.0 / 0.0 else 1.0 / 0.0), rest)
  | none => (Json.word? "nan" cs).map fun rest => (.float (0.0 / 0.0), rest)

def number (cs : List Char) : Except Flaw (Found Value) :=
  match marked? cs with
  | some (n, rest) => .ok (.int n, rest)
  | none =>
    let (negative, cs) := Number.sign cs
    match whole cs with
    | ([], _) => ofOption (special? negative cs)
    | (ds, rest) =>
      let (frac, rest) := fraction rest
      let float (e : Int) : Value :=
        .float (Number.ofScientific negative (Number.ofDigits (ds ++ frac)) (e - frac.length))
      match exponent? rest with
      | some (e, rest) => .ok (float e, rest)
      | none =>
        if !frac.isEmpty then .ok (float 0, rest)
        else if ds.length > Number.maxIntDigits then .error (.integerTooLong ds.length)
        else
          let n : Int := Number.ofDigits ds
          .ok (.int (if negative then -n else n), rest)

def scalar (cs : List Char) : Except Flaw (Found Value) :=
  match moment? cs with
  | some (m, rest) => if isValidMoment m then .ok (.moment m, rest) else refuse
  | none => number cs

mutual

/-- A value. Every call takes a character or ends, so twice the length of the text suffices for
`steps`. -/
def value : (steps : Nat) → List Char → Except Flaw (Found Value)
  | 0, _ => refuse
  | steps + 1, cs =>
    match cs with
    | '"' :: _ | '\'' :: _ => (text cs).map fun (s, rest) => (.str s, rest)
    | '[' :: rest => do
      match ← skipLines steps rest with
      | ']' :: rest => .ok (.arr [], rest)
      | rest =>
        let (vs, rest) ← items steps rest
        .ok (.arr vs, rest)
    | '\x7b' :: rest =>
      match skipBlanks rest with
      | '\x7d' :: rest => .ok (.obj [], rest)
      | rest => do
        let (found, rest) ← entries steps [] rest
        .ok (.obj (fieldsOf found), rest)
    | cs =>
      match Json.word? "true" cs with
      | some rest => .ok (.bool true, rest)
      | none =>
        match Json.word? "false" cs with
        | some rest => .ok (.bool false, rest)
        | none => scalar cs

/-- Items up to the closing bracket; a comma may follow the last. -/
def items : (steps : Nat) → List Char → Except Flaw (Found (List Value))
  | 0, _ => refuse
  | steps + 1, cs => do
    let (v, rest) ← value steps cs
    match ← skipLines steps rest with
    | ']' :: rest => .ok ([v], rest)
    | ',' :: rest =>
      match ← skipLines steps rest with
      | ']' :: rest => .ok ([v], rest)
      | rest =>
        let (vs, rest) ← items steps rest
        .ok (v :: vs, rest)
    | _ => refuse

/-- Entries of an inline table up to the closing brace, added to those read before. -/
def entries : (steps : Nat) → Items → List Char → Except Flaw (Found Items)
  | 0, _, _ => refuse
  | steps + 1, before, cs => do
    let (k, rest) ← key steps cs
    match rest with
    | '=' :: rest =>
      let (v, rest) ← value steps (skipBlanks rest)
      let now ← ofOption (put 0 v k before)
      match skipBlanks rest with
      | '\x7d' :: rest => .ok (now, rest)
      | ',' :: rest => entries steps now (skipBlanks rest)
      | _ => refuse
    | _ => refuse

end

/-- What has been read: the tables, the header in force and the number of its section. -/
structure State where
  items : Items := []
  header : List String := []
  number : Nat := 0

namespace State

def assign (s : State) (k : List String) (v : Value) : Option State := do
  let add := put s.number v k
  let items ← if s.header.isEmpty then add s.items else alter (within add) s.header s.items
  some { s with items }

def enter (s : State) (f : Option Item → Option Item) (header : List String) : Option State := do
  some ⟨← alter f header s.items, header, s.number + 1⟩

end State

def statement (steps : Nat) (s : State) (cs : List Char) : Except Flaw (Found State) := do
  match cs with
  | '[' :: '[' :: rest =>
    let (header, rest) ← key steps (skipBlanks rest)
    let s ← ofOption (s.enter appendTable header)
    match rest with
    | ']' :: ']' :: rest => .ok (s, rest)
    | _ => refuse
  | '[' :: rest =>
    let (header, rest) ← key steps (skipBlanks rest)
    let s ← ofOption (s.enter openTable header)
    match rest with
    | ']' :: rest => .ok (s, rest)
    | _ => refuse
  | cs =>
    let (k, rest) ← key steps cs
    match rest with
    | '=' :: rest =>
      let (v, rest) ← value steps (skipBlanks rest)
      .ok (← ofOption (s.assign k v), rest)
    | _ => refuse

/-- Statements, at most one a line, up to the end of the text. -/
def statements : (steps : Nat) → State → List Char → Except Flaw State
  | 0, _, _ => refuse
  | steps + 1, s, cs =>
    match skipBlanks cs with
    | [] => .ok s
    | '\n' :: rest => statements steps s rest
    | cs => do
      let (s, rest) ←
        if cs.head? = some '#' then .ok (s, cs) else statement (2 * cs.length + 2) s cs
      match ← skipComment (skipBlanks rest) with
      | [] => .ok s
      | '\n' :: rest => statements steps s rest
      | _ => refuse

/-- The text with every `\r\n` as `\n`. -/
def joinLineEnds : List Char → List Char
  | '\r' :: '\n' :: rest => '\n' :: joinLineEnds rest
  | c :: rest => c :: joinLineEnds rest
  | [] => []

/-- The fields of a document in the order of their first appearance. -/
def parse (s : String) : Except Flaw (List (String × Value)) := do
  let cs := joinLineEnds s.toList
  let state ← statements (cs.length + 1) {} cs
  .ok (fieldsOf state.items)

end ArityLint.Toml
