import ArityLint.Report
import ArityLint.Value.Json

namespace ArityLint.JsonText

def editValue (e : Edit) : Value :=
  .obj [("range", .arr [.int e.span.start, .int e.span.stop]), ("text", .str e.text)]

def findingValue (r : Report) (f : Finding) : Except Fault Value := do
  let e := r.extent f
  let message ← f.message
  .ok (.obj [("line", .int e.start.line), ("column", .int e.start.column),
    ("endLine", .int e.stop.line), ("endColumn", .int e.stop.column),
    ("messageId", .str f.messageId), ("message", .str message), ("data", .obj f.data),
    ("fix", (f.edit.map editValue).getD .null)])

def reportValue (r : Report) : Except Fault Value := do
  .ok (.obj [("path", .str r.path), ("error", (r.error.map .str).getD .null),
    ("fixed", .bool r.fixed), ("diagnostics", .arr (← r.findings.mapM (findingValue r)))])

def render (reports : List Report) : Except Fault String := do
  .ok (Json.render 0 (.arr (← reports.mapM reportValue)))

end ArityLint.JsonText
