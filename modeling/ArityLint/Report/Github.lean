import ArityLint.Report

namespace ArityLint.Github

def code : Char → List Char
  | '%' => ['%', '2', '5']
  | '\r' => ['%', '0', 'D']
  | '\n' => ['%', '0', 'A']
  | c => [c]

def escape (message : String) : String :=
  String.ofList (message.toList.flatMap code)

def errorLine (path error : String) : String :=
  "::error file=" ++ path ++ "::" ++ escape error

def warningLine (path : String) (e : Report.Extent) (message : String) : String :=
  "::warning file=" ++ path ++ ",line=" ++ toString e.start.line ++
    ",col=" ++ toString e.start.column ++ ",endLine=" ++ toString e.stop.line ++
    ",endColumn=" ++ toString e.stop.column ++ ",title=" ++ Rule.name ++ "::" ++ escape message

def lines (r : Report) : Except Fault (List String) :=
  match r.error with
  | some e => .ok [errorLine r.path e]
  | none => r.findings.mapM fun f => do .ok (warningLine r.path (r.extent f) (← f.message))

def render (reports : List Report) : Except Fault String := do
  .ok ("\n".intercalate (← reports.mapM lines).flatten)

end ArityLint.Github
