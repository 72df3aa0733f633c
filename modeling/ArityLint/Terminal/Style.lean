import ArityLint.Terminal.Color
import ArityLint.Text.Lower

namespace ArityLint.Terminal

inductive Attribute where
  | bold | dim | italic | underline | blink | blink2 | reverse | conceal | strike | underline2
  | frame | encircle | overline
  deriving DecidableEq, Repr

namespace Attribute

def all : List Attribute :=
  [bold, dim, italic, underline, blink, blink2, reverse, conceal, strike, underline2, frame,
    encircle, overline]

def name : Attribute → String
  | bold => "bold"
  | dim => "dim"
  | italic => "italic"
  | underline => "underline"
  | blink => "blink"
  | blink2 => "blink2"
  | reverse => "reverse"
  | conceal => "conceal"
  | strike => "strike"
  | underline2 => "underline2"
  | frame => "frame"
  | encircle => "encircle"
  | overline => "overline"

def shortNames : List (String × Attribute) :=
  [("d", dim), ("b", bold), ("i", italic), ("u", underline), ("r", reverse), ("c", conceal),
    ("s", strike), ("uu", underline2), ("o", overline)]

def ofName? (s : String) : Option Attribute :=
  (shortNames.lookup s).or (all.find? (·.name = s))

end Attribute

structure Style where
  /-- Attributes that are on or off; the last word on one decides. -/
  attributes : List (Attribute × Bool) := []
  color : Option String := none
  background : Option String := none
  link : Option String := none
  deriving DecidableEq, Repr

namespace Style

def color? (word : List Char) : Except Fault (Option String) := do
  let small := Text.lower word
  .ok (if ← Color.isColor small then some (String.ofList small) else none)

/-- Adds the words of a definition to a style; none when they do not define one. -/
def addWords : Style → List (List Char) → Except Fault (Option Style)
  | s, [] => .ok (some s)
  | s, word :: rest =>
    let small := String.ofList (Text.lower word)
    if small = "on" then
      match rest with
      | [] => .ok none
      | c :: rest => do
        let some color ← color? c | return none
        addWords { s with background := some color } rest
    else if small = "not" then
      match rest with
      | [] => .ok none
      | a :: rest =>
        match Attribute.ofName? (String.ofList a) with
        | some a => addWords { s with attributes := (a, false) :: s.attributes } rest
        | none => .ok none
    else if small = "link" then
      match rest with
      | [] => .ok none
      | target :: rest => addWords { s with link := some (String.ofList target) } rest
    else
      match Attribute.ofName? small with
      | some a => addWords { s with attributes := (a, true) :: s.attributes } rest
      | none => do
        let some color ← color? word | return none
        addWords { s with color := some color } rest

def words (s : Style) : List String :=
  (Attribute.all.flatMap fun a =>
    match s.attributes.lookup a with
    | some true => [a.name]
    | some false => ["not", a.name]
    | none => []) ++
  s.color.toList ++ (s.background.map fun c => ["on", c]).getD [] ++
  (s.link.map fun l => ["link", l]).getD []

def plainName : String := "none"

def canonical (s : Style) : String :=
  if s.words.isEmpty then plainName else " ".intercalate s.words

/-- The canonical text of a definition. One that defines no style stands for itself, in small
letters. -/
def normalize (definition : List Char) : Except Fault String :=
  let trimmed := Text.trim definition
  if trimmed = plainName.toList then .ok plainName
  else do
    match ← addWords {} (Text.spacedWords definition) with
    | some s => .ok s.canonical
    | none => .ok (String.ofList (Text.lower trimmed))

def use (definition : List Char) : Except Fault Unit := do
  let _ ← addWords {} (Text.spacedWords definition)

end Style

end ArityLint.Terminal
