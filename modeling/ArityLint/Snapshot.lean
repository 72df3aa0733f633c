import ArityLint.Logging
import ArityLint.Settings.Load
import ArityLint.Tree.Parse
import ArityLint.Value.Json

namespace ArityLint.Snapshot

abbrev Fields := List (String × Value)

def fieldsOf : Value → Fields
  | .obj fields => fields
  | _ => []

def itemsOf : Value → List Value
  | .arr items => items
  | _ => []

def text? : Value → Option String
  | .str s => some s
  | _ => none

def textOf (v : Value) : String := (text? v).getD ""

def natOf : Value → Nat
  | .int n => n.toNat
  | _ => 0

/-- Number of newlines among the bytes before `stop`. -/
def newlinesBefore (bytes : ByteArray) (stop : Nat) : Nat :=
  (bytes.extract 0 stop).toList.count 10

def entry (fields : Fields) (key : String) : Value := (Value.field? fields key).getD .null

/-- A node of a flat tree: kind, flags, start, end, number of children and perhaps the field it
hangs under. -/
def rowOf (source : ByteArray) (v : Value) : Token × Nat :=
  match itemsOf v with
  | kind :: flags :: start :: stop :: count :: field =>
    let flags := natOf flags
    ({ kind := textOf kind, named := flags % 2 = 1, missing := flags / 2 % 2 = 1,
       hasError := flags / 4 % 2 = 1, start := natOf start, stop := natOf stop,
       row := newlinesBefore source (natOf start), field := field.head?.bind text? }, natOf count)
  | _ => default

structure Parsed where
  language : String
  source : String
  tree : Concrete

def parsedOf? (v : Value) : Option Parsed :=
  match itemsOf v with
  | [language, source, rows] => do
    let bytes := (textOf source).toUTF8
    some ⟨textOf language, textOf source, ← Concrete.ofRows? ((itemsOf rows).map (rowOf bytes))⟩
  | _ => none

def parses (fields : Fields) : List Parsed := (itemsOf (entry fields "parses")).filterMap parsedOf?

def grammar (limits : Limits) (known : List Parsed) : Grammar where
  tree language source :=
    match known.find? fun p => p.language = language.name && p.source = source with
    | some p => p.tree
    | none => default
  limits

def hexBytes : List Char → List UInt8
  | a :: b :: rest =>
    (((Json.hexValue? a).getD 0) * 16 + (Json.hexValue? b).getD 0).toUInt8 :: hexBytes rest
  | _ => []

/-- A file's content: text or hexadecimal bytes, perhaps repeated. -/
def contentOf (fields : Fields) : ByteArray :=
  let once :=
    match text? (entry fields "hex") with
    | some digits => ByteArray.mk (hexBytes digits.toList).toArray
    | none => (textOf (entry fields "text")).toUTF8
  let times := ((Value.field? fields "repeat").map natOf).getD 1
  (List.range times).foldl (fun bytes _ => bytes ++ once) ByteArray.empty

def locationOf (cwd : Path) (p : String) : Location := (Path.absolute cwd (Path.ofString p)).parts

def addFile (cwd : Path) (d : Disk) (v : Value) : Disk :=
  let fields := fieldsOf v
  d.write (locationOf cwd (textOf (entry fields "path"))) (contentOf fields)

def addText (folder : Path) (name : String) (content : Value) (d : Disk) : Disk :=
  match content with
  | .str s => d.write (folder.parts ++ [name]) s.toUTF8
  | _ => d

/-- The surroundings below a root folder, which has a home and a working folder. Nothing is said of
texts in a wrong format. -/
def surroundings (root : Path) (fields : Fields) : Surroundings :=
  let home := root.join (Path.ofString "home")
  let cwd := root.join (Path.ofString "work")
  let folders := (itemsOf (entry fields "dirs")).map fun v => locationOf cwd (textOf v)
  let disk : Disk := { files := [], folders := home.parts :: cwd.parts :: folders }
  let disk := (itemsOf (entry fields "files")).foldl (addFile cwd) disk
  let disk := addText home Settings.homeFile (entry fields "home") disk
  let disk := addText cwd Settings.projectFile (entry fields "project") disk
  { disk, home, cwd, environment := (fieldsOf (entry fields "env")).map fun (k, v) => (k, textOf v),
    complaint := fun _ => "" }

end ArityLint.Snapshot
