import ArityLint.Settings

namespace ArityLint.Environment

inductive Kind where
  | truth
  | integer
  | real
  | text
  | unreadable
  deriving DecidableEq, Repr

def trueWords : List String := ["true", "1", "yes", "on"]

def falseWords : List String := ["false", "0", "no", "off"]

/-- Letters of either case; no character outside ASCII has a letter of these words as its small
form. -/
def truth (s : String) : Except Fault Bool :=
  let small := String.ofList (s.toList.map Char.toLower)
  if trueWords.contains small then .ok true
  else if falseWords.contains small then .ok false
  else .error (.notTruthValue s)

/-- The value of a variable; none for a kind that one variable cannot express. -/
def read (kind : Kind) (s : String) : Except Fault (Option Value) :=
  match kind with
  | .truth => (truth s).map fun b => some (.bool b)
  | .integer => (Value.toOffset (.str s)).map fun n => some (.int n)
  | .real =>
    match Number.readFloat? s with
    | some x => .ok (some (.float x))
    | none => .error (.notFloat s)
  | .text => .ok (some (.str s))
  | .unreadable => .ok none

def kinds : List (String × Kind) :=
  [("exclude_patterns", .unreadable), ("max_file_size_mb", .real), ("max_files", .integer),
    ("max_fix_passes", .integer), ("output_format", .text), ("verbosity", .text)]

def variableOf (key : String) : String :=
  "REQUIRE_OPTIONS_" ++ String.ofList (key.toList.map Char.toUpper)

def entry (vars : List (String × String)) (key : String) (kind : Kind) :
    Except Error (List (String × Value)) :=
  let name := variableOf key
  match vars.lookup name with
  | none => .ok []
  | some s =>
    match read kind s with
    | .ok v => .ok (v.toList.map (key, ·))
    | .error f => .error (Settings.invalid name (.str s) f.message)

def settings (vars : List (String × String)) : Except Error (List (String × Value)) := do
  .ok (← kinds.mapM fun (key, kind) => entry vars key kind).flatten

end ArityLint.Environment
