import ArityLint.Value

namespace ArityLint.Toml

inductive Origin where
  /-- By a header that names a table below it. -/
  | implied
  /-- By a dotted key in the section with this number. -/
  | dotted (number : Nat)
  /-- By a header of its own. -/
  | opened
  deriving DecidableEq, Repr

inductive Item where
  | value (v : Value)
  | table (origin : Origin) (items : List (String × Item))
  | tables (elements : List (List (String × Item)))

abbrev Items := List (String × Item)

mutual

def Item.toValue : Item → Value
  | .value v => v
  | .table _ items => .obj (fieldsOf items)
  | .tables elements => .arr (objectsOf elements)

def fieldsOf : List (String × Item) → List (String × Value)
  | [] => []
  | (k, i) :: rest => (k, i.toValue) :: fieldsOf rest

def objectsOf : List (List (String × Item)) → List Value
  | [] => []
  | items :: rest => .obj (fieldsOf items) :: objectsOf rest

end

/-- May a dotted key in section `number` go through a table? -/
def Origin.admits (number : Nat) : Origin → Bool
  | implied => true
  | dotted n => n = number
  | opened => false

/-- Adds a value under a dotted key; none when the key is taken. -/
def put (number : Nat) (v : Value) : (key : List String) → Items → Option Items
  | [], _ => none
  | [k], items => if (items.lookup k).isSome then none else some (setField items k (.value v))
  | k :: ks, items =>
    match items.lookup k with
    | none => do some (setField items k (.table (.dotted number) (← put number v ks [])))
    | some (.table origin inner) =>
      if origin.admits number then do
        some (setField items k (.table (.dotted number) (← put number v ks inner)))
      else none
    | some _ => none

def changeLast (f : α → Option α) : List α → Option (List α)
  | [] => none
  | [a] => do some [← f a]
  | a :: as => do some (a :: (← changeLast f as))

/-- Changes what stands under a header, where tables on the way are made as needed and the last
element stands for a list of tables. -/
def alter (f : Option Item → Option Item) : (header : List String) → Items → Option Items
  | [], _ => none
  | [k], items => do some (setField items k (← f (items.lookup k)))
  | k :: ks, items =>
    match items.lookup k with
    | none => do some (setField items k (.table .implied (← alter f ks [])))
    | some (.table origin inner) => do
      some (setField items k (.table origin (← alter f ks inner)))
    | some (.tables elements) => do
      some (setField items k (.tables (← changeLast (alter f ks) elements)))
    | some (.value _) => none

/-- A table may get a header of its own once, unless dotted keys made it. -/
def openTable : Option Item → Option Item
  | none => some (.table .opened [])
  | some (.table .implied items) => some (.table .opened items)
  | some _ => none

def appendTable : Option Item → Option Item
  | none => some (.tables [[]])
  | some (.tables elements) => some (.tables (elements ++ [[]]))
  | some _ => none

def within (f : Items → Option Items) : Option Item → Option Item
  | some (.table origin items) => do some (.table origin (← f items))
  | some (.tables elements) => do some (.tables (← changeLast f elements))
  | _ => none

end ArityLint.Toml
