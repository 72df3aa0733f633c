import ArityLint.Number.Text

namespace ArityLint

structure Date where
  year : Nat
  month : Nat
  day : Nat
  deriving DecidableEq, Repr

structure Clock where
  hour : Nat
  minute : Nat
  second : Nat
  micro : Nat
  deriving DecidableEq, Repr

inductive Moment where
  | date (d : Date)
  | clock (t : Clock)
  | both (d : Date) (t : Clock) (offset : Option Int)
  deriving DecidableEq, Repr

namespace Date

def isLeap (year : Nat) : Bool := year % 4 = 0 && (year % 100 ≠ 0 || year % 400 = 0)

def daysIn (year month : Nat) : Nat :=
  if month = 2 then if isLeap year then 29 else 28
  else if month ∈ [4, 6, 9, 11] then 30
  else 31

def isValid (d : Date) : Bool :=
  1 ≤ d.year && 1 ≤ d.month && d.month ≤ 12 && 1 ≤ d.day && d.day ≤ daysIn d.year d.month

end Date

namespace Moment

def padded (width n : Nat) : String := Number.padLeft width '0' (toString n)

def dateText (d : Date) : String :=
  padded 4 d.year ++ "-" ++ padded 2 d.month ++ "-" ++ padded 2 d.day

def clockText (t : Clock) : String :=
  padded 2 t.hour ++ ":" ++ padded 2 t.minute ++ ":" ++ padded 2 t.second ++
    (if t.micro = 0 then "" else "." ++ padded 6 t.micro)

def offsetText (minutes : Int) : String :=
  (if minutes < 0 then "-" else "+") ++ padded 2 (minutes.natAbs / 60) ++ ":" ++
    padded 2 (minutes.natAbs % 60)

def text : Moment → String
  | date d => dateText d
  | clock t => clockText t
  | both d t offset => dateText d ++ " " ++ clockText t ++ ((offset.map offsetText).getD "")

def typeName : Moment → String
  | date _ => "datetime.date"
  | clock _ => "datetime.time"
  | both .. => "datetime.datetime"

/-- Hours and minutes, then seconds and millionths as far as they are needed. -/
def clockFields (t : Clock) : List Nat :=
  [t.hour, t.minute] ++
    (if t.micro ≠ 0 then [t.second, t.micro] else if t.second ≠ 0 then [t.second] else [])

/-- An offset as a number of seconds; one to the west counts from the day before. -/
def offsetShown (minutes : Int) : String :=
  if minutes = 0 then "datetime.timezone.utc"
  else if 0 < minutes then
    "datetime.timezone(datetime.timedelta(seconds=" ++ toString (minutes * 60) ++ "))"
  else
    "datetime.timezone(datetime.timedelta(days=-1, seconds=" ++ toString (86400 + minutes * 60) ++
      "))"

def call (name : String) (arguments : List String) : String :=
  "datetime." ++ name ++ "(" ++ ", ".intercalate arguments ++ ")"

def shown : Moment → String
  | date d => call "date" ([d.year, d.month, d.day].map toString)
  | clock t => call "time" ((clockFields t).map toString)
  | both d t offset =>
    call "datetime" (([d.year, d.month, d.day] ++ clockFields t).map toString ++
      (offset.map fun m => "tzinfo=" ++ offsetShown m).toList)

end Moment

end ArityLint
