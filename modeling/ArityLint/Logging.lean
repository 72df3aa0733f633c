import ArityLint.Disk
import ArityLint.Error
import ArityLint.Log
import ArityLint.Settings

namespace ArityLint

def Verbosity.threshold : Verbosity → Level
  | quiet => .error
  | normal => .warning
  | verbose => .debug

/-- The state of logging; no threshold before the first set-up. -/
structure Logging where
  threshold : Option Level := none
  file : Option Location := none

/-- The path from the root with every `..` resolved by name. -/
def Path.absolute (cwd p : Path) : Path :=
  let whole := cwd.join p
  let step (parts : List String) (part : String) : List String :=
    if part = ".." then parts.dropLast else parts ++ [part]
  ⟨if whole.anchor = .relative then .root else whole.anchor, whole.parts.foldl step []⟩

namespace Disk

/-- What prevents a file from being opened for writing below a location; `path` is what the message
shows. -/
def obstacle? (d : Disk) (path : String) : Location → List String → Option Fault
  | l, [] =>
    if d.isFolder l then some (.isFolder path)
    else if !d.isWritable (if d.isFile l then l else l.dropLast) then some (.permissionDenied path)
    else none
  | l, c :: cs =>
    if d.isFile l then some (.notFolder path)
    else if !d.isFolder l then some (.noSuchFile path)
    else if !d.isSearchable l then some (.permissionDenied path)
    else if maxNameBytes < c.utf8ByteSize then some (.nameTooLong path)
    else d.obstacle? path (l ++ [c]) cs

/-- Opens a file for appending, which makes it if it is not there. -/
def openAppend (d : Disk) (p : Path) : Except Fault Disk :=
  if p.hasNull then .error .nullCharacter
  else if maxPathBytes < p.text.utf8ByteSize then .error (.nameTooLong p.text)
  else
    match d.obstacle? p.text [] p.parts with
    | some f => .error f
    | none => .ok (if d.isFile p.parts then d else d.write p.parts ByteArray.empty)

/-- Appends to an open file as much as there is room for. -/
def append (d : Disk) (l : Location) (text : String) : Disk :=
  let bytes := ((d.file? l).getD ByteArray.empty) ++ text.toUTF8
  d.write l (bytes.extract 0 (d.capacity l bytes.size))

end Disk

namespace Logging

def setUp (cwd : Path) (v : Verbosity) (file : Option String) (d : Disk) :
    Except Fault (Logging × Disk) :=
  match file with
  | none | some "" => .ok (⟨some v.threshold, none⟩, d)
  | some name => do
    let p := Path.absolute cwd (Path.ofString name)
    .ok (⟨some v.threshold, some p.parts⟩, ← d.openAppend p)

def keeps (s : Logging) (r : Record) : Bool :=
  (s.threshold.getD .warning).number ≤ r.level.number

def write (s : Logging) (records : List Record) (d : Disk) : Disk :=
  match s.file with
  | none => d
  | some l =>
    let kept := records.filter s.keeps
    d.append l (String.join (kept.map fun r => r.line ++ "\n"))

/-- The level number in force; zero before the first set-up. -/
def level (s : Logging) : Nat := (s.threshold.map (·.number)).getD 0

end Logging

end ArityLint
