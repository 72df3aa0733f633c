import ArityLint.Command

namespace ArityLint

structure OptionSet (α : Type) where
  long : List (String × α)
  short : List (Char × α)
  takesValue : α → Bool
  /-- May options stand after other arguments? -/
  mixed : Bool

namespace OptionSet

variable {α : Type} (s : OptionSet α)

/-- Options read from one argument, and one that takes the next argument as its value. -/
abbrev Read (α : Type) := List (α × String) × Option α

def readShort : List Char → Option (Read α)
  | [] => some ([], none)
  | c :: rest => do
    let a ← s.short.lookup c
    if s.takesValue a then
      if rest.isEmpty then some ([], some a) else some ([(a, String.ofList rest)], none)
    else
      let (found, waiting) ← readShort rest
      some ((a, "") :: found, waiting)

def readLong (a : α) (value : Option String) : Option (Read α) :=
  match s.takesValue a, value with
  | true, some v => some ([(a, v)], none)
  | true, none => some ([], some a)
  | false, some _ => none
  | false, none => some ([(a, "")], none)

def attached (arg : List Char) : Option String :=
  match arg.dropWhile (· ≠ '=') with
  | [] => none
  | _ :: rest => some (String.ofList rest)

def read (arg : List Char) : Option (Read α) :=
  match s.long.lookup (String.ofList (arg.takeWhile (· ≠ '='))) with
  | some a => readLong s a (attached arg)
  | none => if ['-', '-'].isPrefixOf arg then none else readShort s (arg.drop 1)

def isOption (arg : List Char) : Bool := arg.head? = some '-' && 1 < arg.length

/-- The options of a list of arguments in order, and the other arguments; none when an option is
unknown or lacks its value. -/
def scan : List String → Option (List (α × String) × List String)
  | [] => some ([], [])
  | arg :: rest =>
    if arg = "--" then some ([], rest)
    else if isOption arg.toList then do
      let (found, waiting) ← read s arg.toList
      match waiting, rest with
      | none, rest =>
        let (options, others) ← scan rest
        some (found ++ options, others)
      | some _, [] => none
      | some a, value :: rest =>
        let (options, others) ← scan rest
        some (found ++ (a, value) :: options, others)
    else if s.mixed then do
      let (options, others) ← scan rest
      some (options, arg :: others)
    else some ([], arg :: rest)

end OptionSet

namespace Command

inductive GroupOption where
  | version
  | help
  deriving DecidableEq, Repr

def groupOptions : OptionSet GroupOption where
  long := [("--version", .version), ("--help", .help)]
  short := []
  takesValue _ := false
  mixed := false

inductive CheckOption where
  | fix
  | format
  | config
  | maxFixPasses
  | verbose
  | quiet
  | logFile
  | help
  deriving DecidableEq, Repr

def CheckOption.takesValue : CheckOption → Bool
  | format | config | maxFixPasses | logFile => true
  | fix | verbose | quiet | help => false

def checkOptions : OptionSet CheckOption where
  long := [("--fix", .fix), ("--format", .format), ("--config", .config),
    ("--max-fix-passes", .maxFixPasses), ("--verbose", .verbose), ("--quiet", .quiet),
    ("--log-file", .logFile), ("--help", .help)]
  short := [('f', .format), ('c', .config), ('v', .verbose), ('q', .quiet)]
  takesValue := CheckOption.takesValue
  mixed := true

def ruleOptions : OptionSet Unit where
  long := [("--help", ())]
  short := []
  takesValue _ := false
  mixed := true

/-- Folds letters to one case, as far as it matters to the names of formats: besides the letters of
ASCII the long s and the two ligatures for `st`. -/
def foldCase (s : String) : String :=
  String.ofList (s.toList.flatMap fun c =>
    if c.toNat = 0x17F then ['s']
    else if c.toNat = 0xFB05 ∨ c.toNat = 0xFB06 then ['s', 't']
    else [c.toLower])

def format? (s : String) : Option Format := Format.ofName? (foldCase s)

/-- A whole number in ASCII: blanks around, a sign, digits with single underscores between them, and
perhaps a point with zeros after it. -/
def wholeNumber? (s : String) : Option Int :=
  let (negative, cs) := Number.sign (Text.trimBlanks s.toList)
  if cs.any fun c => 128 ≤ c.toNat then none
  else
    let (ds, rest) := Number.digitRun cs
    let isWhole :=
      match rest with
      | [] => true
      | '.' :: zeros => !zeros.isEmpty && zeros.all (· = '0')
      | _ => false
    if ds.isEmpty || Number.maxIntDigits < ds.length || !isWhole then none
    else some (if negative then -(Number.ofDigits ds : Int) else Number.ofDigits ds)

def passes? (s : String) : Option Int := (wholeNumber? s).filter (1 ≤ ·)

def path? (text : String) : Option Path :=
  let p := Path.ofString text
  if p.hasNull then none else some p

def config? (s : Surroundings) (text : String) : Option Path := do
  let p ← path? text
  let l ← s.disk.locate s.cwd.parts p
  if s.disk.isFile l && s.disk.isReadable l then some p else none

/-- Applies a reader to an optional value; none when the value is there and cannot be read. -/
def optional (read : String → Option α) : Option String → Option (Option α)
  | none => some none
  | some s => (read s).map some

def checkRequest? (s : Surroundings) (args : List String) : Option Request := do
  let (options, paths) ← checkOptions.scan args
  let value (o : CheckOption) : Option String := options.reverse.lookup o
  if (value .help).isSome then some .help
  else
    let format ← optional format? (value .format)
    let config ← optional (config? s) (value .config)
    let maxFixPasses ← optional passes? (value .maxFixPasses)
    let logFile ← optional path? (value .logFile)
    let paths ← paths.mapM path?
    if paths.isEmpty then none
    else
      some (.check
        { paths, fix := (value .fix).isSome, format, config, maxFixPasses,
          verbose := (value .verbose).isSome, quiet := (value .quiet).isSome, logFile })

def ruleRequest? (args : List String) : Option Request := do
  let (options, others) ← ruleOptions.scan args
  if !options.isEmpty then some .help else if others.isEmpty then some .rule else none

/-- What a list of arguments asks for; none when it does not fit. The command has to be known before
the version is told, but its own arguments need not fit. -/
def Request.ofArguments? (s : Surroundings) (args : List String) : Option Request := do
  let (options, rest) ← groupOptions.scan args
  let asks (o : GroupOption) : Bool := (options.lookup o).isSome
  if asks .help then some .help
  else
    match rest with
    | [] => some (if asks .version then .version else .help)
    | name :: args =>
      if name ≠ "check" ∧ name ≠ "rule" then none
      else if asks .version then some .version
      else if name = "rule" then ruleRequest? args
      else checkRequest? s args

end Command

end ArityLint
