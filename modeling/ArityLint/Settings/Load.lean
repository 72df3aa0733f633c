import ArityLint.Disk
import ArityLint.Settings.Environment
import ArityLint.Value.Toml

namespace ArityLint

structure Surroundings where
  disk : Disk
  home : Path
  cwd : Path
  environment : List (String × String)
  /-- What is said of a text that is not in the format of settings files. -/
  complaint : String → String

namespace Settings

def homeFile : String := ".require-options.toml"

def projectFile : String := "require-options.toml"

def refused (path : Path) (reason : String) : Error :=
  .failure (.configuration ("Invalid config file '" ++ path.text ++ "': " ++ reason) [])

/-- The settings of a file that is there; what cannot be read, like a folder in its place, is
refused. -/
def ofFile (s : Surroundings) (path : Path) (l : Location) : Except Error (List (String × Value)) :=
  if !s.disk.isReadable l then .error (refused path (Fault.permissionDenied path.text).message)
  else
    match s.disk.file? l with
    | none => .error (refused path (Fault.isFolder path.text).message)
    | some bytes =>
      match Utf8.decode bytes with
      | .error flaw => .error (.fault (.undecodable flaw))
      | .ok text =>
        match Toml.parse text with
        | .ok fields => .ok fields
        | .error .malformed => .error (refused path (s.complaint text))
        | .error (.integerTooLong n) => .error (.fault (.integerTooLong n))

/-- The settings of a file, or `absent` when nothing is there. -/
def ofPath (s : Surroundings) (path : Path) (absent : Except Error (List (String × Value))) :
    Except Error (List (String × Value)) :=
  match s.disk.lookUp s.cwd.parts path with
  | .found l => ofFile s path l
  | .missing | .notFolder => absent
  | .refused => .error (.fault (.permissionDenied path.text))
  | .tooLong => .error (.fault (.nameTooLong path.text))

def ofFile? (s : Surroundings) (path : Path) : Except Error (List (String × Value)) :=
  ofPath s path (.ok [])

def ofNamedFile (s : Surroundings) (path : Path) : Except Error (List (String × Value)) :=
  ofPath s path (.error (.failure (.configuration ("Config file not found: " ++ path.text) [])))

/-- A flag among overrides: when it is set it stands for a verbosity. -/
def applyFlag (flag : String) (verbosity : Verbosity) (fields : List (String × Value)) :
    List (String × Value) :=
  match Value.field? fields flag with
  | none => fields
  | some v =>
    let fields := if v.truthy then setField fields "verbosity" (.str verbosity.name) else fields
    fields.filter fun (k, _) => k ≠ flag

/-- Overrides with the flags resolved and without those that are null. -/
def resolveOverrides (overrides : List (String × Value)) : List (String × Value) :=
  (applyFlag "quiet" .quiet (applyFlag "verbose" .verbose overrides)).filter fun (_, v) =>
    match v with
    | .null => false
    | _ => true

/-- The named values of all sources, each name with the value of the last source that has it. -/
def merge (sources : List (List (String × Value))) : List (String × Value) :=
  sources.foldl setFields []

/-- The settings of a run. What does not fit any setting is a failure of the configuration, but a
value that cannot be shown is not. -/
def load (s : Surroundings) (file : Option Path) (overrides : List (String × Value)) :
    Except Error Settings := do
  let home ← ofFile? s (s.home.join (Path.ofString homeFile))
  let project ← ofFile? s (s.cwd.join (Path.ofString projectFile))
  let named ← (file.map (ofNamedFile s)).getD (.ok [])
  let environment ← Environment.settings s.environment
  let fields := merge [home, project, named, environment, resolveOverrides overrides]
  match ofFields fields with
  | .error (.fault .unshowable) => .error (.fault .unshowable)
  | .error (.fault f) =>
    .error (.failure (.configuration ("Invalid configuration: " ++ f.message) []))
  | r => r

def fileArgument : String := "config_file"

/-- The settings of a run whose overrides are arguments by name, beside the file. None of them can
have the name of the file. -/
def loadNamed (s : Surroundings) (file : Option Path) (arguments : List (String × Value)) :
    Except Error Settings :=
  if (Value.field? arguments fileArgument).isSome then
    .error (.fault (.takenOverride fileArgument))
  else load s file arguments

end Settings

end ArityLint
