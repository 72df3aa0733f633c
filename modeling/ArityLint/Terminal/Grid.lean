import ArityLint.Terminal.Wrap

namespace ArityLint.Terminal

structure Strip where
  justify : Justify
  before : Nat
  after : Nat
  deriving DecidableEq, Repr

def Strip.padding (c : Strip) : Nat := c.before + c.after

def isLineEnd (c : Char) : Bool :=
  let n := c.toNat
  n = 10 || (0x1C ≤ n && n ≤ 0x1E) || n = 0x85 || n = 0x2028 || n = 0x2029

def lineWidth (cell : List Char) : Nat :=
  ((cell.splitOnP isLineEnd).map cells).foldl max 0

def Strip.natural (limit : Nat) (c : Strip) (cells : List (List Char)) : Nat :=
  min limit ((cells.map lineWidth).foldl max 0 + c.padding)

def roundedQuotient (n d : Nat) : Nat :=
  let q := n / d
  let r := n % d
  if d < 2 * r ∨ (2 * r = d ∧ q % 2 = 1) then q + 1 else q

/-- Takes `total` off the widths of value `widest`, as evenly as whole numbers can be, but at most
`most` off each. There are `count` such widths. -/
def reduceWidest (widest most : Nat) : (total count : Nat) → List Nat → List Nat
  | _, _, [] => []
  | total, count, w :: rest =>
    if w = widest then
      let share := min most (roundedQuotient total count)
      (w - share) :: reduceWidest widest most (total - share) (count - 1) rest
    else w :: reduceWidest widest most total count rest

/-- Narrows the widest widths until their sum is at most `limit`, in at most `steps` steps. -/
def collapse (limit : Nat) : (steps : Nat) → List Nat → List Nat
  | 0, widths => widths
  | steps + 1, widths =>
    let excess := widths.foldl (· + ·) 0 - limit
    let widest := widths.foldl max 0
    let second := (widths.filter (· ≠ widest)).foldl max 0
    if excess = 0 ∨ widest = 0 then widths
    else
      collapse limit steps
        (reduceWidest widest (min excess (widest - second)) excess (widths.count widest) widths)

def transposed (n : Nat) (rows : List (List (List Char))) : List (List (List Char)) :=
  (List.range n).map fun i => rows.map fun row => row.getD i []

def columnWidths (limit : Nat) (strips : List Strip) (rows : List (List (List Char))) :
    List Nat :=
  let contents := transposed strips.length rows
  let widths := (strips.zip contents).map fun (c, cells) => c.natural limit cells
  let wanted := widths.foldl (· + ·) 0
  if wanted ≤ limit then widths
  else
    ((strips.zip contents).zip (collapse limit wanted widths)).map fun ((c, cells), w) =>
      c.natural w cells

/-- The lines of a cell in a column of a given width. A joiner at the end of a line hides a blank,
which is made up for. -/
def Strip.lines (c : Strip) (width : Nat) (cell : List Char) : List (List Char) :=
  let inner := width - c.padding
  (wrap c.justify .ellipsis inner cell).map fun line =>
    blanks c.before ++ line ++ blanks (inner - cells line) ++ blanks c.after

def rowLines (strips : List (Strip × Nat)) (row : List (List Char)) : List (List Char) :=
  let blocks := (strips.zip row).map fun ((c, width), cell) => (width, c.lines width cell)
  let height := (blocks.map fun (_, lines) => lines.length).foldl max 0
  (List.range height).map fun k =>
    blocks.flatMap fun (width, lines) => lines.getD k (blanks width)

def grid (limit : Nat) (strips : List Strip) (rows : List (List String)) : String :=
  let rows := rows.map fun row => row.map String.toList
  let sized := strips.zip (columnWidths limit strips rows)
  String.ofList (rows.flatMap fun row => (rowLines sized row).flatMap (· ++ ['\n']))

end ArityLint.Terminal
