import ArityLint.Error
import ArityLint.Text.Utf8

namespace ArityLint

abbrev Location := List String

/-- What a disk keeps from being done. A folder that cannot be read is one whose names cannot be
listed, one that cannot be written takes no new names, and nothing is reached through a folder that
cannot be searched. -/
structure Restrictions where
  unreadable : List Location := []
  unwritable : List Location := []
  unsearchable : List Location := []
  /-- How many bytes a file can hold, where that is limited. -/
  room : List (Location × Nat) := []
  deriving DecidableEq, Repr

structure Disk where
  files : List (Location × ByteArray)
  folders : List Location
  restrictions : Restrictions := {}

namespace Disk

def file? (d : Disk) (l : Location) : Option ByteArray := d.files.lookup l

def isFile (d : Disk) (l : Location) : Bool := (d.file? l).isSome

/-- Is `inner` strictly below `outer`? -/
def isBelow (outer inner : Location) : Bool :=
  outer.length < inner.length && outer.isPrefixOf inner

def isFolder (d : Disk) (l : Location) : Bool :=
  l.isEmpty || d.folders.any (fun f => l.isPrefixOf f) || d.files.any fun f => isBelow l f.1

def isThere (d : Disk) (l : Location) : Bool := d.isFile l || d.isFolder l

def maxNameBytes : Nat := 255

def maxPathBytes : Nat := 4095

inductive Lookup where
  | found (l : Location)
  | missing
  | notFolder
  | refused
  | tooLong
  deriving DecidableEq, Repr

def isSearchable (d : Disk) (l : Location) : Bool := !d.restrictions.unsearchable.contains l

def isReadable (d : Disk) (l : Location) : Bool := !d.restrictions.unreadable.contains l

def isWritable (d : Disk) (l : Location) : Bool := !d.restrictions.unwritable.contains l

/-- Follows components from a location; only folders lead on. -/
def follow (d : Disk) : Location → List String → Lookup
  | l, [] => if d.isThere l then .found l else .missing
  | l, c :: cs =>
    if !d.isFolder l then if d.isFile l then .notFolder else .missing
    else if !d.isSearchable l then .refused
    else if maxNameBytes < c.utf8ByteSize then .tooLong
    else d.follow (if c = ".." then l.dropLast else l ++ [c]) cs

/-- Looks a path up. Relative paths start at `cwd`, and nothing has a name with a null character. -/
def lookUp (d : Disk) (cwd : Location) (p : Path) : Lookup :=
  if p.hasNull then .missing
  else if maxPathBytes < p.text.utf8ByteSize then .tooLong
  else d.follow (if p.anchor = .relative then cwd else []) p.parts

def locate (d : Disk) (cwd : Location) (p : Path) : Option Location :=
  match d.lookUp cwd p with
  | .found l => some l
  | _ => none

def componentsLe : List String → List String → Bool
  | [], _ => true
  | _ :: _, [] => false
  | a :: as, b :: bs => a < b || (a = b && componentsLe as bs)

/-- How far a way down from a folder can be listed: to its end, or to the first name in a folder
that cannot be searched. -/
def listed? (d : Disk) (l : Location) : List String → Option (List String)
  | [] => some []
  | c :: cs =>
    if !d.isReadable l then none
    else if !d.isSearchable l then some [c]
    else (d.listed? (l ++ [c]) cs).map (c :: ·)

/-- The ways from a folder to some of the locations below it, as far as they can be listed. -/
def ways (d : Disk) (l : Location) (locations : List Location) : List (List String) :=
  ((locations.filter (isBelow l)).map (·.drop l.length)).filterMap (d.listed? l)

/-- Is the entry in a folder that cannot be searched, so that nothing but its name is known? -/
def isShut (d : Disk) (l : Location) (way : List String) : Bool :=
  !d.isSearchable (l ++ way.dropLast)

/-- The files below a folder and the entries of which only the name is known, as components from
there, in order. -/
def below (d : Disk) (l : Location) : List (List String) :=
  (d.ways l (d.files.map (·.1)) ++ (d.ways l d.folders).filter (d.isShut l)).mergeSort componentsLe

def insert (entries : List (Location × ByteArray)) (l : Location) (bytes : ByteArray) :
    List (Location × ByteArray) :=
  match entries with
  | [] => [(l, bytes)]
  | (k, old) :: rest => if k = l then (k, bytes) :: rest else (k, old) :: insert rest l bytes

def write (d : Disk) (l : Location) (bytes : ByteArray) : Disk :=
  { d with files := insert d.files l bytes }

/-- How many of `size` bytes a file can hold. -/
def capacity (d : Disk) (l : Location) (size : Nat) : Nat :=
  min ((d.restrictions.room.lookup l).getD size) size

/-- Replaces the bytes of a file. The old ones are gone before it turns out that there is no room
for all of the new ones; `path` is what the message shows. -/
def overwrite (d : Disk) (l : Location) (path : String) (bytes : ByteArray) :
    Except Fault Unit × Disk :=
  let n := d.capacity l bytes.size
  if !d.isWritable l then (.error (.permissionDenied path), d)
  else if n < bytes.size then (.error .noSpace, d.write l (bytes.extract 0 n))
  else (.ok (), d.write l bytes)

end Disk

/-- The text with every line end, `\r\n` or `\r`, as `\n`. -/
def unifyLineEnds : List Char → List Char
  | '\r' :: '\n' :: rest => '\n' :: unifyLineEnds rest
  | '\r' :: rest => '\n' :: unifyLineEnds rest
  | c :: rest => c :: unifyLineEnds rest
  | [] => []

def readText (bytes : ByteArray) : Except Utf8.Flaw String :=
  (Utf8.decode bytes).map fun s => String.ofList (unifyLineEnds s.toList)

end ArityLint
