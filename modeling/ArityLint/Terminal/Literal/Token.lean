import ArityLint.Number.Decimal
import ArityLint.Text.Printable
import ArityLint.Text.Utf8
import ArityLint.Text.Word

namespace ArityLint.Terminal.Literal

inductive Kind where
  | name (text : String)
  /-- A number, and why it cannot be taken. -/
  | number (imaginary : Bool) (flaw : Option String)
  /-- A text between quotes, and why it cannot be taken. -/
  | text (bytes formatted : Bool) (flaw : Option String)
  | sign (text : String)
  | newline
  | stop
  /-- A flaw; a grave one is told even when the tokens before it do not fit together. -/
  | flaw (message : String) (grave : Bool)
  deriving DecidableEq, Repr

structure Token where
  kind : Kind
  level : Nat
  deriving DecidableEq, Repr

/-- Does a character begin a name? Characters outside ASCII are judged with the whole name. -/
def startsName (c : Char) : Bool := c.isAlpha || c = '_' || 128 ≤ c.toNat

def continuesName (c : Char) : Bool := startsName c || c.isDigit

def codePoint (c : Char) : String :=
  "U+" ++ String.ofList ((Utf8.hexDigits 4 c.toNat).toList.map Char.toUpper)

def strayCharacter (c : Char) : String :=
  if Text.isPrintable c then
    "invalid character '" ++ String.singleton c ++ "' (" ++ codePoint c ++ ")"
  else "invalid non-printable character " ++ codePoint c

def stray? : List Char → Option Char
  | [] => none
  | c :: rest =>
    if Text.isWord c && (Text.digit? c).isNone then rest.find? fun d => !Text.isWord d else some c

def isHexDigit (c : Char) : Bool := c.isDigit || ('a' ≤ c.toLower && c.toLower ≤ 'f')

def badNumber (kind : String) : String := "invalid " ++ kind ++ " literal"

def numberFollowers : List String := ["and", "else", "for", "or", "not"]

def endsNumber (cs : List Char) : Bool :=
  !(cs.head?.any fun c => c.toNat < 128 && continuesName c) ||
    (numberFollowers.any fun w =>
      w.toList <+: cs && !((cs.drop w.length).head?.any continuesName)) ||
    (["if", "in", "is"].any fun w => w.toList <+: cs)

def ended (kind : String) (rest : List Char) : Except String (List Char) :=
  if endsNumber rest then .ok rest else .error (badNumber kind)

/-- What follows the digits after a first one, with single underscores between them. -/
def decimalTail : List Char → Except String (List Char)
  | [] => .ok []
  | c :: rest =>
    if c = '_' then
      match rest with
      | d :: rest => if d.isDigit then decimalTail rest else .error (badNumber "decimal")
      | [] => .error (badNumber "decimal")
    else if c.isDigit then decimalTail rest
    else .ok (c :: rest)

/-- What follows the digits of another radix, or false and the character that is none. A digit is
needed unless one has been read. -/
def radixTail (isDigit : Char → Bool) : (needed : Bool) → List Char → Bool × List Char
  | needed, [] => (!needed, [])
  | needed, c :: rest =>
    if isDigit c then radixTail isDigit false rest
    else if c = '_' then
      if rest.head?.any isDigit then radixTail isDigit false rest else (false, rest)
    else (!needed, c :: rest)

def radixNumber (kind : String) (isDigit : Char → Bool) (cs : List Char) :
    Except String (List Char) :=
  let (sound, rest) := radixTail isDigit true cs
  match rest.head?.filter fun c => c.isDigit && kind ≠ "hexadecimal" with
  | some c => .error ("invalid digit '" ++ String.singleton c ++ "' in " ++ kind ++ " literal")
  | none => if sound then ended kind rest else .error (badNumber kind)

/-- What follows a number after its integer and fractional digits, and if it is imaginary. -/
def numberEnd (cs : List Char) : Except String (Bool × List Char) := do
  let rest ←
    match cs with
    | 'e' :: rest | 'E' :: rest =>
      match rest with
      | '+' :: c :: rest | '-' :: c :: rest =>
        if c.isDigit then decimalTail rest else .error (badNumber "decimal")
      | c :: rest =>
        if c.isDigit then decimalTail rest else (ended "decimal" cs).map fun _ => cs
      | [] => .error (badNumber "decimal")
    | _ => .ok cs
  match rest with
  | 'j' :: rest | 'J' :: rest => .ok (true, ← ended "imaginary" rest)
  | _ => .ok (false, ← ended "decimal" rest)

def fraction (cs : List Char) : Except String (Bool × List Char) := do
  match cs with
  | c :: rest => numberEnd (← if c.isDigit then decimalTail rest else .ok cs)
  | [] => numberEnd []

def leadingZeros : String :=
  "leading zeros in decimal integer literals are not permitted; " ++
    "use an 0o prefix for octal integers"

def tooLong (digits : Nat) : String :=
  "Exceeds the limit (4300 digits) for integer string conversion: value has " ++
    toString digits ++ " digits; use sys.set_int_max_str_digits() to increase the limit - " ++
    "Consider hexadecimal for huge integer literals to avoid decimal conversion limits."

def decimalNumber (cs : List Char) : Except String (Kind × List Char) := do
  let rest ← decimalTail (cs.drop 1)
  match rest with
  | '.' :: rest =>
    let (imaginary, rest) ← fraction rest
    .ok (.number imaginary none, rest)
  | _ =>
    let digits := (cs.take (cs.length - rest.length)).filter Char.isDigit
    let isWhole := !(rest.head?.any fun c => c = 'e' || c = 'E' || c = 'j' || c = 'J')
    if cs.head? = some '0' && digits.any (· ≠ '0') && isWhole then .error leadingZeros
    else
      let (imaginary, rest) ← numberEnd rest
      let flaw := if isWhole && Number.maxIntDigits < digits.length then
        some (tooLong digits.length) else none
      .ok (.number imaginary flaw, rest)

def number (cs : List Char) : Except String (Kind × List Char) := do
  let whole (rest : List Char) : Kind × List Char := (.number false none, rest)
  match cs with
  | '0' :: m :: rest =>
    if m = 'x' || m = 'X' then
      whole <$> radixNumber "hexadecimal" isHexDigit rest
    else if m = 'o' || m = 'O' then
      whole <$> radixNumber "octal" (fun c => '0' ≤ c && c < '8') rest
    else if m = 'b' || m = 'B' then
      whole <$> radixNumber "binary" (fun c => c = '0' || c = '1') rest
    else decimalNumber cs
  | _ => decimalNumber cs

/-- A text up to its closing quote, in which a backslash keeps the next character from closing it,
and what follows. None when the text is not closed. -/
def body? (quote : Char) (long : Bool) : List Char → Option (List Char × List Char)
  | [] => none
  | c :: rest =>
    let more (cs : List Char) (r : Option (List Char × List Char)) :=
      r.map fun (inside, after) => (cs ++ inside, after)
    if c = '\\' then
      match rest with
      | d :: rest => more [c, d] (body? quote long rest)
      | [] => none
    else if c = quote && (!long || [quote, quote] <+: rest) then
      some ([], if long then rest.drop 2 else rest)
    else if c = '\n' && !long then none
    else more [c] (body? quote long rest)

def badEscape (start stop : Nat) (why : String) : String :=
  "(unicode error) 'unicodeescape' codec can't decode bytes in position " ++ toString start ++
    "-" ++ toString (stop - 1) ++ ": " ++ why

/-- Escapes by code point: how many digits follow the letter, and how they are shown. -/
def codeEscapes : List (Char × Nat × String) :=
  [('x', 2, "\\xXX"), ('u', 4, "\\uXXXX"), ('U', 8, "\\UXXXXXXXX")]

def hexValue (digits : List Char) : Nat :=
  digits.foldl (fun n c => 16 * n + if c.isDigit then c.toNat - 48 else c.toLower.toNat - 87) 0

def escapeFlaw? (pos : Nat) : List Char → Option String
  | [] => none
  | c :: rest =>
    match codeEscapes.lookup c with
    | some (count, shape) =>
      let digits := (rest.take count).takeWhile isHexDigit
      if digits.length < count then
        some (badEscape pos (pos + 2 + digits.length) ("truncated " ++ shape ++ " escape"))
      else if 0x10FFFF < hexValue digits then
        some (badEscape pos (pos + 2 + count) "illegal Unicode character")
      else none
    | none =>
      if c = 'N' then
        let malformed (length : Nat) : Option String :=
          some (badEscape pos (pos + length) "malformed \\N character escape")
        match rest with
        | '{' :: rest =>
          let name := rest.takeWhile (· ≠ '}')
          if name.length = rest.length then malformed (3 + name.length)
          else if name.isEmpty then malformed 3
          else none
        | _ => malformed 2
      else none

/-- What is wrong with the escapes of a text. A character outside ASCII counts for ten. -/
def textFlaw? : (pos : Nat) → List Char → Option String
  | _, [] => none
  | pos, c :: rest =>
    if c = '\\' then
      match escapeFlaw? pos rest with
      | some flaw => some flaw
      | none =>
        match rest with
        | [] => none
        | d :: rest => textFlaw? (pos + if 128 ≤ d.toNat then 16 else 2) rest
    else textFlaw? (pos + if 128 ≤ c.toNat then 10 else 1) rest

def bytesFlaw? : (pos : Nat) → List Char → Option String
  | _, [] => none
  | pos, c :: rest =>
    if c = '\\' then
      match rest with
      | [] => none
      | d :: rest =>
        if d = 'x' && ((rest.take 2).takeWhile isHexDigit).length < 2 then
          some ("(value error) invalid \\x escape at position " ++ toString pos)
        else bytesFlaw? (pos + 2) rest
    else bytesFlaw? (pos + 1) rest

structure Mark where
  bytes : Bool := false
  unicode : Bool := false
  raw : Bool := false
  formatted : Bool := false
  deriving DecidableEq, Repr

def Mark.add? (m : Mark) (c : Char) : Option Mark :=
  let l := c.toLower
  if l = 'b' && !(m.bytes || m.unicode || m.formatted) then some { m with bytes := true }
  else if l = 'u' && !(m.bytes || m.unicode || m.raw || m.formatted) then
    some { m with unicode := true }
  else if l = 'r' && !(m.raw || m.unicode) then some { m with raw := true }
  else if l = 'f' && !(m.formatted || m.bytes || m.unicode) then some { m with formatted := true }
  else none

/-- The mark and the quote that a text begins with, and what follows the quote. -/
def opening? : (m : Mark) → List Char → Option (Mark × Char × List Char)
  | _, [] => none
  | m, c :: rest =>
    if c = '\'' || c = '"' then some (m, c, rest)
    else
      match m.add? c with
      | some m => opening? m rest
      | none => none

def Mark.flaw? (m : Mark) (inside : List Char) : Option String :=
  if m.bytes && inside.any (128 ≤ ·.toNat) then
    some "bytes can only contain ASCII literal characters"
  else if m.raw || m.formatted then none
  else if m.bytes then bytesFlaw? 0 inside
  else textFlaw? 0 inside

def unterminated (long : Bool) (line : Nat) : String :=
  "unterminated " ++ (if long then "triple-quoted " else "") ++
    "string literal (detected at line " ++ toString line ++ ")"

def lineCount (cs : List Char) : Nat := cs.countP (· = '\n')

def quotedText (line : Nat) (m : Mark) (quote : Char) (cs : List Char) :
    Except String (Kind × List Char) :=
  let long := [quote, quote] <+: cs
  match body? quote long (if long then cs.drop 2 else cs) with
  | some (inside, rest) => .ok (.text m.bytes m.formatted (m.flaw? inside), rest)
  | none =>
    let reached := if long then cs else cs.takeWhile (· ≠ '\n')
    .error (unterminated long (line + lineCount reached))

def longSigns : List String :=
  ["**=", "//=", ">>=", "<<=", "...", "==", "!=", "<=", ">=", "<>", "->", "+=", "-=", "*=", "/=",
    "%=", "&=", "|=", "^=", "@=", "**", "//", "<<", ">>", ":="]

def signOf (cs : List Char) : String :=
  (longSigns.find? (·.toList <+: cs)).getD (String.ofList (cs.take 1))

def closerOf : Char → Char
  | '(' => ')'
  | '{' => '}'
  | _ => ']'

abbrev Brackets := List (Char × Nat)

def unclosed (b : Char) : String := "'" ++ String.singleton b ++ "' was never closed"

def closingFlaw? (brackets : Brackets) (line : Nat) (c : Char) : Option String :=
  match brackets with
  | [] => some ("unmatched '" ++ String.singleton c ++ "'")
  | (b, start) :: _ =>
    if c = closerOf b then none
    else
      some ("closing parenthesis '" ++ String.singleton c ++
        "' does not match opening parenthesis '" ++ String.singleton b ++ "'" ++
        (if start = line then "" else " on line " ++ toString start))

def maxBrackets : Nat := 200

def isBlank (c : Char) : Bool := c = ' ' || c = '\t' || c.toNat = 12

def isIndented (cs : List Char) : Bool :=
  match cs.dropWhile isBlank with
  | [] => false
  | c :: _ => cs.head?.any isBlank && c ≠ '\n' && c ≠ '#'

def tokensFrom : (steps : Nat) → Brackets → (line : Nat) → List Char → List Token
  | 0, _, _, _ => []
  | steps + 1, brackets, line, cs =>
    let level := brackets.length
    let flaw (message : String) (grave : Bool) : List Token := [⟨.flaw message grave, level⟩]
    let next (r : Except String (Kind × List Char)) : List Token :=
      match r with
      | .ok (kind, rest) =>
        let used := cs.take (cs.length - rest.length)
        ⟨kind, level⟩ :: tokensFrom steps brackets (line + lineCount used) rest
      | .error message => flaw message true
    match cs with
    | [] =>
      match brackets with
      | [] => [⟨.stop, 0⟩]
      | (b, _) :: _ => flaw (unclosed b) false
    | c :: rest =>
      if isBlank c then tokensFrom steps brackets line rest
      else if c = '#' then tokensFrom steps brackets line (rest.dropWhile (· ≠ '\n'))
      else if c = '\n' then
        if !brackets.isEmpty then tokensFrom steps brackets (line + 1) rest
        else if isIndented rest then [⟨.newline, 0⟩, ⟨.flaw "unexpected indent" false, 0⟩]
        else ⟨.newline, 0⟩ :: tokensFrom steps brackets (line + 1) rest
      else if c = '\\' then
        match rest with
        | '\n' :: rest => tokensFrom steps brackets (line + 1) rest
        | _ => flaw "unexpected character after line continuation character" false
      else
        match opening? {} cs with
        | some (m, quote, rest) => next (quotedText line m quote rest)
        | none =>
          if startsName c then
            let name := cs.takeWhile continuesName
            match stray? name with
            | some d => flaw (strayCharacter d) true
            | none => next (.ok (.name (String.ofList name), cs.dropWhile continuesName))
          else if c.isDigit || (c = '.' && rest.head?.any Char.isDigit) then
            if c = '.' then
              next ((fraction rest).map fun (imaginary, rest) => (.number imaginary none, rest))
            else next (number cs)
          else if c = '(' || c = '[' || c = '{' then
            if maxBrackets ≤ level then flaw "too many nested parentheses" true
            else
              ⟨.sign (String.singleton c), level + 1⟩ ::
                tokensFrom steps ((c, line) :: brackets) line rest
          else if c = ')' || c = ']' || c = '}' then
            match closingFlaw? brackets line c with
            | some message => flaw message true
            | none =>
              ⟨.sign (String.singleton c), level - 1⟩ ::
                tokensFrom steps brackets.tail line rest
          else if !Text.isPrintable c then flaw (strayCharacter c) true
          else
            let sign := signOf cs
            next (.ok (.sign sign, cs.drop sign.length))

def tokens (cs : List Char) : List Token := tokensFrom (cs.length + 1) [] 1 cs

end ArityLint.Terminal.Literal
