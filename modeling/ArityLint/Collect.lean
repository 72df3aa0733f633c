import ArityLint.Disk
import ArityLint.Path.Glob
import ArityLint.Session
import ArityLint.Settings

namespace ArityLint

namespace Collect

def skippedFolders : List String := ["node_modules", "bower_components", "vendor"]

def isSkippedFolder (name : String) : Bool :=
  name.toList.head? = some '.' || skippedFolders.contains name

/-- Is some folder on the way to a file hidden or skipped? -/
def isHidden (relative : List String) : Bool := relative.dropLast.any isSkippedFolder

/-- The patterns of a value: the items of a list, the keys of an object, the characters of a
text. -/
def patternsOf : Value → Except Fault (List Value)
  | .arr items => .ok items
  | .obj fields => .ok (fields.map fun (k, _) => .str k)
  | .str s => .ok (s.toList.map fun c => .str (String.singleton c))
  | v => .error (.notIterable v.typeName)

/-- Does some pattern match a path from the searched folder or from the start? -/
def isExcluded (relative path : Path) : List Value → Except Fault Bool
  | [] => .ok false
  | p :: ps => do
    if ← relative.fitsValue p then .ok true
    else if ← path.fitsValue p then .ok true
    else isExcluded relative path ps

/-- The files taken so far with their locations, and whether the limit has been reached. -/
structure Haul where
  files : List Path := []
  seen : List Location := []
  full : Bool := false

/-- Takes a file unless it has been taken; at the limit nothing is taken any more. -/
def Haul.add (s : Settings) (path : Path) (l : Location) (h : Haul) : LintM Haul := do
  if s.maxFiles.reachedBy h.files.length then
    LintM.log .warning Channel.linter ("Reached max files limit (" ++ s.maxFiles.text ++ ")")
    return { h with full := true }
  if h.seen.contains l then return h
  return { h with files := h.files ++ [path], seen := h.seen ++ [l] }

/-- A file found in a folder: its path, its components from the folder, its location and size. -/
structure Found where
  path : Path
  relative : List String
  location : Location
  size : Nat
  /-- Only its name is known. -/
  shut : Bool

def admits (s : Settings) (f : Found) : LintM Bool := do
  if (Language.ofPath? f.path).isNone || isHidden f.relative then return false
  let patterns ← LintM.ofFault (patternsOf s.excludePatterns)
  if ← LintM.ofFault (isExcluded ⟨.relative, f.relative⟩ f.path patterns) then
    LintM.log .debug Channel.linter ("Skipped (pattern): " ++ f.path.text)
    return false
  let limit ← LintM.ofFault s.maxFileSizeBytes
  if limit < f.size then
    LintM.log .debug Channel.linter
      ("Skipped (size): " ++ f.path.text ++ " (" ++ toString f.size ++ " bytes)")
    return false
  return true

def addFound (s : Settings) : List Found → Haul → LintM Haul
  | [], h => return h
  | f :: fs, h => do
    if f.shut then throw (.fault (.permissionDenied f.path.text))
    if ← admits s f then
      let h ← h.add s f.path f.location
      if h.full then return h
      addFound s fs h
    else addFound s fs h

/-- What is found below the folder that `path` leads to. -/
def search (d : Disk) (path : Path) (folder : Location) : List Found :=
  (d.below folder).map fun relative =>
    let l := folder ++ relative
    ⟨path.join ⟨.relative, relative⟩, relative, l, ((d.file? l).map (·.size)).getD 0,
      d.isShut folder relative⟩

def addPaths (d : Disk) (cwd : Location) (s : Settings) : List Path → Haul → LintM Haul
  | [], h => return h
  | p :: ps, h => do
    match d.lookUp cwd p with
    | .missing | .notFolder => throw (.failure (.invalidPath p "does not exist"))
    | .refused => throw (.fault (.permissionDenied p.text))
    | .tooLong => throw (.fault (.nameTooLong p.text))
    | .found l =>
      if d.isFile l then
        if (Language.ofPath? p).isNone then
          LintM.log .warning Channel.linter ("Skipped (unsupported extension): " ++ p.text)
          addPaths d cwd s ps h
        else
          let h ← h.add s p l
          if h.full then return h
          addPaths d cwd s ps h
      else
        let h ← addFound s (search d p l) h
        if h.full then return h
        addPaths d cwd s ps h

end Collect

/-- The files to lint, in order; a path that leads nowhere is a failure. -/
def collect (d : Disk) (cwd : Location) (s : Settings) (paths : List Path) : LintM (List Path) := do
  return (← Collect.addPaths d cwd s paths {}).files

end ArityLint
