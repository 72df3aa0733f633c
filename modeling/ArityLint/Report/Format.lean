import ArityLint.Report.Github
import ArityLint.Report.JsonText
import ArityLint.Report.Stylish
import ArityLint.Settings

namespace ArityLint.Format

def render (f : Format) (c : Console) (reports : List Report) : Except Fault String :=
  match f with
  | .stylish => Stylish.render c reports
  | .json => JsonText.render reports
  | .github => Github.render reports

/-- What a console shows: formats without a line end of their own get one. -/
def print (f : Format) (c : Console) (reports : List Report) : Except Fault String := do
  let text ← f.render c reports
  match f with
  | .stylish => .ok text
  | _ => .ok (text ++ "\n")

def ofName (s : String) : Except Error Format :=
  match ofName? s with
  | some f => .ok f
  | none =>
    let names := (all.map name).mergeSort (· ≤ ·)
    .error (.failure (.invalidSetting "output_format" (.str s)
      ("choose from " ++ ", ".intercalate names)))

end ArityLint.Format
