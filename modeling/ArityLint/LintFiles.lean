import ArityLint.Collect
import ArityLint.Repair
import ArityLint.Report

namespace ArityLint

structure Workspace where
  session : Session
  disk : Disk

abbrev WorkM := ExceptT Error (StateM Workspace)

namespace WorkM

def lint (m : LintM α) : WorkM α :=
  ExceptT.mk fun w =>
    let (r, session) := m.run.run w.session
    (r, { w with session })

def ofExcept (r : Except Error α) : WorkM α := lint (LintM.ofExcept r)

def log (level : Level) (message : String) : WorkM Unit :=
  lint (LintM.log level Channel.linter message)

end WorkM

section

variable (g : Grammar) (cwd : Location) (s : Settings) (fix : Bool)

/-- Where a path leads and the bytes there; what cannot be read is an error of access. -/
def fileAt (d : Disk) (path : Path) : Except Error (Location × ByteArray) :=
  let refused (f : Fault) : Error := .failure (.fileAccess path f.message)
  if path.hasNull then .error (.fault .nullCharacter)
  else
    match d.lookUp cwd path with
    | .missing => .error (refused (.noSuchFile path.text))
    | .notFolder => .error (refused (.notFolder path.text))
    | .refused => .error (refused (.permissionDenied path.text))
    | .tooLong => .error (refused (.nameTooLong path.text))
    | .found l =>
      if !d.isReadable l then .error (refused (.permissionDenied path.text))
      else
        match d.file? l with
        | some bytes => .ok (l, bytes)
        | none => .error (refused (.isFolder path.text))

def openFile (path : Path) : WorkM (Location × ByteArray) := do
  WorkM.ofExcept (fileAt cwd (← get).disk path)

/-- The text of a file; undecodable bytes are an error of access. -/
def sourceOf (path : Path) (bytes : ByteArray) : Except Error String :=
  match readText bytes with
  | .ok source => .ok source
  | .error flaw => .error (.failure (.fileAccess path flaw.message))

/-- Writes the new text of a file. A write that fails is an error of access, whatever has been
written by then. -/
def writeFile (path : Path) (l : Location) (text : String) : WorkM Unit := do
  let (written, disk) := (← get).disk.overwrite l path.text text.toUTF8
  modify fun w => { w with disk }
  WorkM.ofExcept (written.mapError fun f => .failure (.fileAccess path f.message))

/-- The text of a file after its repair, and whether it was changed and written back. -/
def repairFile (path : Path) (l : Location) (source language : String) : WorkM (String × Bool) := do
  let r ← WorkM.lint (repair g source language path.text s.maxFixPasses)
  if r.fixed then
    writeFile path l r.output
    WorkM.log .info ("Fixed " ++ toString r.applied ++ " function(s) in " ++ path.text)
  return (r.output, r.fixed)

def lintFile (path : Path) : WorkM Report := do
  let language ← WorkM.ofExcept (Language.ofPath path)
  let (l, bytes) ← openFile cwd path
  let source ← WorkM.ofExcept (sourceOf path bytes)
  let (source, fixed) ←
    if fix then repairFile g s path l source language.name else pure (source, false)
  let findings ← WorkM.lint (lintSource g source language.name path.text)
  return { path := path.text, findings, source := some (SourceText.ofString source), fixed }

/-- What is logged about a failure that concerns one file only; none for any other error. -/
def Error.forFile? (path : Path) : Error → Option String
  | .failure (.fileAccess _ reason) => some ("Access error for " ++ path.text ++ ": " ++ reason)
  | .failure (.parsing _ _ reason) => some ("Parse error for " ++ path.text ++ ": " ++ reason)
  | .failure (.unsupportedLanguage l names) =>
    some ("Skipped " ++ path.text ++ ": " ++ (Failure.unsupportedLanguage l names).message)
  | _ => none

/-- The report of one file, or of the failure that concerns it. -/
def reportFile (path : Path) : WorkM Report :=
  tryCatch (lintFile g cwd s fix path) fun e =>
    match e.forFile? path with
    | some message => do
      WorkM.log .warning message
      return { path := path.text, error := some e.message }
    | none => throw e

def lintFiles (paths : List Path) : WorkM (List Report) := do
  let files ← WorkM.lint (collect (← get).disk cwd s paths)
  WorkM.log .debug ("Linting " ++ toString files.length ++ " file(s)")
  files.mapM (reportFile g cwd s fix)

end

end ArityLint
