import ArityLint.Error
import ArityLint.Number.Quantity

namespace ArityLint

inductive Format where
  | stylish
  | json
  | github
  deriving DecidableEq, Repr

namespace Format

def all : List Format := [.stylish, .json, .github]

def name : Format → String
  | stylish => "stylish"
  | json => "json"
  | github => "github"

def ofName? (s : String) : Option Format := all.find? (·.name = s)

end Format

inductive Verbosity where
  | quiet
  | normal
  | verbose
  deriving DecidableEq, Repr

namespace Verbosity

def all : List Verbosity := [.quiet, .normal, .verbose]

def name : Verbosity → String
  | quiet => "quiet"
  | normal => "normal"
  | verbose => "verbose"

def ofName? (s : String) : Option Verbosity := all.find? (·.name = s)

def ofFlags (verbose quiet : Bool) : Verbosity :=
  if quiet then .quiet else if verbose then .verbose else .normal

end Verbosity

structure Settings where
  excludePatterns : Value
  maxFileSizeMb : Quantity
  maxFiles : Quantity
  maxFixPasses : Quantity
  format : Format
  verbosity : Verbosity

namespace Settings

def defaultPatterns : List String :=
  ["node_modules/*", "dist/*", "build/*", "coverage/*", "out/*", ".git/*", "*.min.js",
    "*.bundle.js", "*.d.ts", "*.generated.*"]

def defaults : List (String × Value) :=
  [("exclude_patterns", .arr (defaultPatterns.map .str)), ("max_file_size_mb", .float 2.0),
    ("max_files", .int 10000), ("max_fix_passes", .int 10), ("output_format", .str "stylish"),
    ("verbosity", .str "normal")]

def names : List String := defaults.map (·.1)

/-- A value that is refused; it has to be shown in the message. -/
def invalid (key : String) (v : Value) (reason : String) : Error :=
  if v.isShowable then .failure (.invalidSetting key v reason) else .fault .unshowable

/-- An amount, which has to be a number to be compared at all. -/
def amount (comparison : String) (v : Value) : Except Error Quantity :=
  match Quantity.ofValue? v with
  | some q => .ok q
  | none => .error (.fault (.unordered comparison v.typeName))

def count (key : String) (v : Value) : Except Error Quantity := do
  let q ← amount "<" v
  if q.belowOne then .error (invalid key v "must be at least 1") else .ok q

def size (key : String) (v : Value) : Except Error Quantity := do
  let q ← amount "<=" v
  if q.atMostZero then .error (invalid key v "must be positive") else .ok q

def choice (ofName? : String → Option α) (names : List String) (key : String) (v : Value) :
    Except Error α :=
  let found :=
    match v with
    | .str s => ofName? s
    | _ => none
  match found with
  | some a => .ok a
  | none => .error (invalid key v ("expected one of " ++ ", ".intercalate names))

/-- The value of a setting, its default when none is given. -/
def get (fields : List (String × Value)) (key : String) : Value :=
  ((Value.field? fields key).or (Value.field? defaults key)).getD .null

/-- Why a name that is no setting is refused; one such name stands for the settings themselves. -/
def refusal (key : String) : Fault :=
  if key = "self" then .takenSetting key else .unexpectedSetting key

/-- The settings of named values. An unknown name is refused before any value is looked at. -/
def ofFields (fields : List (String × Value)) : Except Error Settings :=
  match fields.find? fun (k, _) => !names.contains k with
  | some (k, _) => .error (.fault (refusal k))
  | none => do
    let maxFileSizeMb ← size "max_file_size_mb" (get fields "max_file_size_mb")
    let maxFiles ← count "max_files" (get fields "max_files")
    let maxFixPasses ← count "max_fix_passes" (get fields "max_fix_passes")
    let format ← choice Format.ofName? (Format.all.map (·.name)) "output_format"
      (get fields "output_format")
    let verbosity ← choice Verbosity.ofName? (Verbosity.all.map (·.name)) "verbosity"
      (get fields "verbosity")
    .ok { excludePatterns := get fields "exclude_patterns", maxFileSizeMb, maxFiles, maxFixPasses,
          format, verbosity }

def bytesPerMb : Nat := 1024 * 1024

def maxFileSizeBytes (s : Settings) : Except Fault Int :=
  match s.maxFileSizeMb with
  | .truth b => .ok (if b then bytesPerMb else 0)
  | .whole n => .ok (n * bytesPerMb)
  | .real x => truncate (x * 1024.0 * 1024.0)

end Settings

end ArityLint
