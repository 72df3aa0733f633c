import ArityLint.Terminal.Cells
import ArityLint.Text.Space

namespace ArityLint.Terminal

inductive Overflow where
  | fold
  | ellipsis
  deriving DecidableEq, Repr

inductive Justify where
  /-- Lines are as long as they are. -/
  | ragged
  | left
  | right
  deriving DecidableEq, Repr

def splitLines : List Char → List (List Char)
  | [] => [[]]
  | c :: rest =>
    if c = '\n' then [] :: splitLines rest
    else
      match splitLines rest with
      | [] => [[c]]
      | line :: lines => (c :: line) :: lines

/-- Replaces each tab by a blank and more of them up to a multiple of eight columns, where `part`
stands before the text and begins at `column`. -/
def expandTabs : (column : Nat) → (part : List Char) → List Char → List Char
  | _, part, [] => part
  | column, part, c :: rest =>
    if c = '\t' then
      let reached := column + cells (part ++ [' '])
      let more := (8 - reached % 8) % 8
      part ++ blanks (1 + more) ++ expandTabs (reached + more) [] rest
    else expandTabs column (part ++ [c]) rest

/-- Words with the white space after them, the first also with what is before it. -/
def words (cs : List Char) : List (List Char) :=
  let lead := cs.takeWhile Text.isSpace
  match _h : cs.dropWhile Text.isSpace with
  | [] => []
  | c :: rest =>
    let body := rest.takeWhile fun d => !Text.isSpace d
    let tail := rest.dropWhile fun d => !Text.isSpace d
    (lead ++ c :: body ++ tail.takeWhile Text.isSpace) :: words (tail.dropWhile Text.isSpace)
termination_by cs.length
decreasing_by
  have h1 := (List.dropWhile_suffix (l := cs) Text.isSpace).length_le
  have h2 := (List.dropWhile_suffix (l := rest) fun d => !Text.isSpace d).length_le
  have h3 :=
    (List.dropWhile_suffix (l := rest.dropWhile fun d => !Text.isSpace d) Text.isSpace).length_le
  rw [_h, List.length_cons] at h1
  omega

/-- The lines that are full, and the one that words are put on, up to a column. -/
structure Page where
  full : List (List Char) := []
  current : List Char := []
  column : Nat := 0

def Page.turn (p : Page) : List (List Char) :=
  if p.current.isEmpty then p.full else p.full ++ [p.current]

def Page.add (overflow : Overflow) (width : Nat) (p : Page) (word : List Char) : Page :=
  let length := cells (Text.trimEnd word)
  if p.column + length ≤ width then
    { p with current := p.current ++ word, column := p.column + cells word }
  else if length ≤ width ∨ overflow = .ellipsis then ⟨p.turn, word, cells word⟩
  else
    let pieces := chop width word
    let last := pieces.getLastD []
    ⟨p.turn ++ pieces.dropLast, last, cells last⟩

def crop (width : Nat) (line : List Char) : List Char :=
  let spaces := line.length - (Text.trimEnd line).length
  line.take (line.length - min spaces (line.length - width))

def truncate (overflow : Overflow) (width : Nat) (line : List Char) : List Char :=
  if cells line ≤ width then line
  else
    match overflow with
    | .fold => fit width line
    | .ellipsis => fit (width - 1) line ++ ['…']

def justify (how : Justify) (overflow : Overflow) (width : Nat) (line : List Char) : List Char :=
  match how with
  | .ragged => truncate overflow width line
  | .left =>
    let cut := truncate overflow width line
    cut ++ blanks (width - cells line)
  | .right =>
    let cut := truncate overflow width (Text.trimEnd line)
    blanks (width - cells cut) ++ cut

def breakLine (overflow : Overflow) (width : Nat) (cs : List Char) : List (List Char) :=
  match words cs with
  | [] => [cs]
  | ws =>
    let p := ws.foldl (Page.add overflow width) {}
    p.full ++ [p.current]

def wrap (how : Justify) (overflow : Overflow) (width : Nat) (cs : List Char) :
    List (List Char) :=
  (splitLines cs).flatMap fun line =>
    (breakLine overflow width (expandTabs 0 [] line)).map fun part =>
      justify how overflow width (crop width part)

/-- A text as a console of a given width prints it, with a newline after each line. -/
def printed (width : Nat) (s : String) : String :=
  String.ofList ((wrap .ragged .fold width s.toList).flatMap (· ++ ['\n']))

end ArityLint.Terminal
