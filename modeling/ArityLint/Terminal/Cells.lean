import ArityLint.Terminal.Width

namespace ArityLint.Terminal

def joiner : Char := Char.ofNat 0x200D

def pictureSelector : Char := Char.ofNat 0xFE0F

/-- The columns of a text after `last`, the character that a selector would widen. -/
def cellsAfter : (last : Option Char) → List Char → Nat
  | _, [] => 0
  | last, c :: rest =>
    if c = joiner then
      match rest with
      | [] => 0
      | _ :: rest => cellsAfter last rest
    else if c = pictureSelector then (if last.any isWidened then 1 else 0) + cellsAfter none rest
    else if width c = 0 then cellsAfter last rest
    else width c + cellsAfter (some c) rest

def cells (cs : List Char) : Nat := cellsAfter none cs

def blanks (n : Nat) : List Char := List.replicate n ' '

structure Glyph where
  chars : List Char
  cells : Nat
  deriving DecidableEq, Repr

def Glyph.add (g : Glyph) (cs : List Char) : Glyph := { g with chars := g.chars ++ cs }

/-- The glyphs of a text after those of `before`, the last of which comes first. -/
def glyphsAfter : (before : List Glyph) → (last : Option Char) → List Char → List Glyph
  | before, _, [] => before.reverse
  | [], _, c :: rest =>
    glyphsAfter [⟨[c], width c⟩] (if width c = 0 then none else some c) rest
  | g :: before, last, c :: rest =>
    if c = joiner then
      match rest with
      | [] => (g.add [c] :: before).reverse
      | d :: rest => glyphsAfter (g.add [c, d] :: before) last rest
    else if c = pictureSelector && last.any isWidened then
      glyphsAfter ({ g.add [c] with cells := g.cells + 1 } :: before) none rest
    else if width c = 0 then glyphsAfter (g.add [c] :: before) last rest
    else glyphsAfter (⟨[c], width c⟩ :: g :: before) (some c) rest

def glyphs (cs : List Char) : List Glyph := glyphsAfter [] none cs

def takeCells : (n : Nat) → List Glyph → List Char
  | _, [] => []
  | n, g :: rest =>
    if n = 0 then []
    else if n < g.cells then [' ']
    else g.chars ++ takeCells (n - g.cells) rest

def fit (n : Nat) (cs : List Char) : List Char :=
  if cells cs ≤ n then cs ++ blanks (n - cells cs) else takeCells n (glyphs cs)

/-- Cuts glyphs into lines of at most `width` columns, of which the first begins with `line` in
`size` columns. A last line of no columns is left out. -/
def chopAfter (width : Nat) : (line : List Char) → (size : Nat) → List Glyph → List (List Char)
  | line, size, [] => if size = 0 then [] else [line]
  | line, size, g :: rest =>
    if width < size + g.cells then line :: chopAfter width g.chars g.cells rest
    else chopAfter width (line ++ g.chars) (size + g.cells) rest

def chop (width : Nat) (cs : List Char) : List (List Char) := chopAfter width [] 0 (glyphs cs)

end ArityLint.Terminal
