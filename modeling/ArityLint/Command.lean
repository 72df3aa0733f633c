import ArityLint.LintFiles
import ArityLint.Logging
import ArityLint.Report.Format
import ArityLint.Settings.Load

namespace ArityLint.Command

def programName : String := "require-options"

def version : String := "0.1.0"

structure CheckRequest where
  paths : List Path
  fix : Bool
  format : Option Format
  config : Option Path
  maxFixPasses : Option Int
  verbose : Bool
  quiet : Bool
  logFile : Option Path

inductive Request where
  | help
  | version
  | rule
  | check (r : CheckRequest)

/-- How a run ended: exit code, what was printed, logging and disk as it left them, and the fault
that broke it off, if one did. -/
structure Outcome where
  exit : Nat
  output : String := ""
  logging : Logging := {}
  disk : Disk
  fault : Option Fault := none

def Outcome.broken (logging : Logging) (d : Disk) (f : Fault) : Outcome :=
  { exit := 1, logging, disk := d, fault := some f }

/-- Logs and prints a failure. The message is printed as markup. -/
def Outcome.failed (c : Console) (logging : Logging) (d : Disk) (f : Failure) : Outcome :=
  let d := logging.write [⟨.error, Channel.base, f.name ++ ": " ++ f.message⟩] d
  match c.print [.line ("[red]Error:[/red] " ++ f.message)] with
  | .ok output => { exit := 2, output, logging, disk := d }
  | .error fault => .broken logging d fault

def Outcome.ofError (c : Console) (logging : Logging) (d : Disk) : Error → Outcome
  | .failure f => .failed c logging d f
  | .fault f => .broken logging d f

def Outcome.told (c : Console) (d : Disk) (items : List Item) : Outcome :=
  match c.print items with
  | .ok output => { exit := 0, output, disk := d }
  | .error fault => .broken {} d fault

/-- Two when a file failed, one when there are findings, else zero. -/
def exitCode (reports : List Report) : Nat :=
  if reports.any (·.error.isSome) then 2
  else if reports.any fun r => !r.findings.isEmpty then 1
  else 0

def CheckRequest.overrides (r : CheckRequest) : List (String × Value) :=
  (r.format.map fun f => ("output_format", Value.str f.name)).toList ++
    (r.maxFixPasses.map fun n => ("max_fix_passes", Value.int n)).toList ++
    (if r.verbose then [("verbose", .bool true)] else []) ++
    (if r.quiet then [("quiet", .bool true)] else [])

section

variable (c : Console) (g : Grammar)

/-- Lints with the settings found and prints the reports. -/
def lintAndPrint (cwd : Path) (r : CheckRequest) (settings : Settings) (logging : Logging)
    (d : Disk) : Outcome :=
  let (result, w) := (lintFiles g cwd.parts settings r.fix r.paths).run.run ⟨{}, d⟩
  let d := logging.write w.session.log w.disk
  match result with
  | .error e => .ofError c logging d e
  | .ok reports =>
    match settings.format.print c reports with
    | .ok output => { exit := exitCode reports, output, logging, disk := d }
    | .error f => .broken logging d f

/-- Logging is set up by the flags first and once more when the settings are known. -/
def runCheck (s : Surroundings) (r : CheckRequest) : Outcome :=
  let file := r.logFile.map (·.text)
  match Logging.setUp s.cwd (Verbosity.ofFlags r.verbose r.quiet) file s.disk with
  | .error f => .broken {} s.disk f
  | .ok (logging, d) =>
    match Settings.load { s with disk := d } r.config r.overrides with
    | .error e => .ofError c logging d e
    | .ok settings =>
      match Logging.setUp s.cwd settings.verbosity file d with
      | .error f => .broken logging d f
      | .ok (logging, d) => lintAndPrint c g s.cwd r settings logging d

def ruleTable : Table where
  edged := true
  columns := [{ title := "Key", style := some "bold cyan" }, { title := "Value" }]
  rows :=
    [["Name", Rule.name], ["Description", Rule.description],
      ["Max parameters", toString maxParameters], ["Fixable", "yes"],
      ["Callback methods", ", ".intercalate (callbackMethods.mergeSort (· ≤ ·))],
      ["Message", ((Rule.messages.lookup Rule.messageId).getD []).source]]

def versionLine : String :=
  "[bold cyan]" ++ programName ++ "[/bold cyan] version [green]" ++ version ++ "[/green]"

/-- Does what is asked for; nothing when the arguments did not fit. -/
def run (s : Surroundings) : Option Request → Outcome
  | none => { exit := 2, disk := s.disk }
  | some .help => { exit := 0, disk := s.disk }
  | some .version => .told c s.disk [.line versionLine]
  | some .rule => .told c s.disk [.table ruleTable]
  | some (.check r) => runCheck c g s r

end

end ArityLint.Command
