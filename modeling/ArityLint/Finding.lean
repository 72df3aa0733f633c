import ArityLint.Edit
import ArityLint.Error

namespace ArityLint

inductive Piece where
  | literal (text : String)
  | gap (name : String)
  deriving DecidableEq, Repr

abbrev Template := List Piece

namespace Template

def source (t : Template) : String :=
  String.join (t.map fun
    | .literal text => text
    | .gap name => "\x7b" ++ name ++ "\x7d")

/-- Fills the gaps from `data`; a gap without a value is a fault. -/
def fill (data : List (String × Value)) : Template → Except Fault String
  | [] => .ok ""
  | .literal text :: rest => do .ok (text ++ (← fill data rest))
  | .gap name :: rest =>
    match data.lookup name with
    | some v => do .ok (v.text ++ (← fill data rest))
    | none => .error (.missingKey name)

end Template

namespace Rule

def name : String := "require-options-object"

def description : String :=
  "Enforce using an options object when a function has more than three parameters"

def messageId : String := "requireOptions"

def messages : List (String × Template) :=
  [(messageId, [.literal "Use an options object instead of ", .gap "count",
    .literal " parameters."])]

end Rule

structure Finding where
  type : Value
  span : Span
  messageId : String
  data : List (String × Value)
  edit : Option Edit

namespace Finding

def message (f : Finding) : Except Fault String :=
  match Rule.messages.lookup f.messageId with
  | some template => template.fill f.data
  | none => .error (.missingKey f.messageId)

def fixable (f : Finding) : Bool := f.edit.isSome

end Finding

end ArityLint
