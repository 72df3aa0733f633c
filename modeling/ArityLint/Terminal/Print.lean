import ArityLint.Console
import ArityLint.Terminal.Grid
import ArityLint.Terminal.Markup

namespace ArityLint.Terminal

/-- The columns of a table with their padding, none at the outer edges unless the table is edged. -/
def strips (t : Table) : List Strip :=
  t.columns.zipIdx.map fun (c, i) =>
    { justify := if c.right then .right else .left
      before := if i = 0 ∧ !t.edged then 0 else Table.padding
      after := if i + 1 = t.columns.length ∧ !t.edged then 0 else Table.padding }

def itemText (width : Nat) : Item → Except Fault String
  | .line markup => (Markup.text markup).map (printed width)
  | .table t => do .ok (grid width (strips t) (← t.rows.mapM (·.mapM Markup.text)))
  | .blank => .ok "\n"

def console (width : Nat) : Console where
  escape := Markup.escape
  print items := do .ok (String.join (← items.mapM (itemText width)))

end ArityLint.Terminal
