import ArityLint.Error

namespace ArityLint

structure Column where
  title : String
  style : Option String := none
  right : Bool := false
  deriving DecidableEq, Repr

/-- Rows of cells under columns; the titles are not shown, and there are no lines between cells. -/
structure Table where
  /-- Is there padding at the outer edges too? -/
  edged : Bool
  columns : List Column
  rows : List (List String)
  deriving DecidableEq, Repr

def Table.padding : Nat := 2

inductive Item where
  | line (markup : String)
  | table (t : Table)
  | blank
  deriving DecidableEq, Repr

/-- A console: how it has a text written that is not markup, and what it prints. -/
structure Console where
  escape : String → String
  print : List Item → Except Fault String

end ArityLint
