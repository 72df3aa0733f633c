import ArityLint.Text.Quoted
import ArityLint.Value.Moment

namespace ArityLint

inductive Value where
  | null
  | bool (b : Bool)
  | int (n : Int)
  | float (x : Float)
  | str (s : String)
  | moment (m : Moment)
  | arr (items : List Value)
  | obj (fields : List (String × Value))
  deriving Inhabited

/-- Sets a field; a field that is already there keeps its place. -/
def setField (fields : List (String × α)) (key : String) (v : α) : List (String × α) :=
  match fields with
  | [] => [(key, v)]
  | (k, w) :: rest => if k = key then (k, v) :: rest else (k, w) :: setField rest key v

def setFields (fields more : List (String × α)) : List (String × α) :=
  more.foldl (fun fs (k, v) => setField fs k v) fields

namespace Value

/-- The name of a value's type, as it is shown in messages. -/
def typeName : Value → String
  | null => "NoneType"
  | bool _ => "bool"
  | int _ => "int"
  | float _ => "float"
  | str _ => "str"
  | moment m => m.typeName
  | arr _ => "list"
  | obj _ => "dict"

/-- Null, false, zero and whatever is empty are false; a NaN is true. -/
def truthy : Value → Bool
  | null => false
  | bool b => b
  | int n => n ≠ 0
  | float x => !(x == 0.0)
  | str s => s ≠ ""
  | moment _ => true
  | arr items => !items.isEmpty
  | obj fields => !fields.isEmpty

def field? (fields : List (String × Value)) (key : String) : Option Value :=
  fields.lookup key

def isStr (v : Value) (s : String) : Bool :=
  match v with
  | str t => t = s
  | _ => false

mutual

/-- The value as it is shown inside another one: texts are quoted. -/
def shown : Value → String
  | null => "None"
  | bool b => if b then "True" else "False"
  | int n => toString n
  | float x => Number.floatText x
  | str s => Text.quoted s
  | moment m => m.shown
  | arr items => "[" ++ ", ".intercalate (shownItems items) ++ "]"
  | obj fields => "\x7b" ++ ", ".intercalate (shownFields fields) ++ "\x7d"

def shownItems : List Value → List String
  | [] => []
  | v :: rest => shown v :: shownItems rest

def shownFields : List (String × Value) → List String
  | [] => []
  | (k, v) :: rest => (Text.quoted k ++ ": " ++ shown v) :: shownFields rest

end

/-- The value as a message shows it: a text stands for itself, a moment is written out. -/
def text : Value → String
  | str s => s
  | moment m => m.text
  | v => shown v

mutual

/-- Has every integer in the value few enough digits to be shown? -/
def isShowable : Value → Bool
  | int n => n.natAbs < 10 ^ Number.maxIntDigits
  | arr items => areShowable items
  | obj fields => haveShowable fields
  | _ => true

def areShowable : List Value → Bool
  | [] => true
  | v :: rest => isShowable v && areShowable rest

def haveShowable : List (String × Value) → Bool
  | [] => true
  | (_, v) :: rest => isShowable v && haveShowable rest

end

mutual

def depth : Value → Nat
  | arr items => depthItems items + 1
  | obj fields => depthFields fields + 1
  | _ => 1

def depthItems : List Value → Nat
  | [] => 0
  | v :: rest => max (depth v) (depthItems rest)

def depthFields : List (String × Value) → Nat
  | [] => 0
  | (_, v) :: rest => max (depth v) (depthFields rest)

end

end Value

end ArityLint
