import ArityLint.Edit
import ArityLint.Signature.Parameter

namespace ArityLint

/-- The type of a parameter about which nothing is known. -/
def unknownType : String := "any"

/-- Types that follow from the kind of a literal default. -/
def literalTypes : List (String × String) :=
  [("string", "string"), ("number", "number"), ("boolean", "boolean")]

namespace Descriptor

/-- The annotation if there is one, else what the default's kind tells. -/
def inferType (d : Descriptor) : String :=
  match d.typeText with
  | some t => if t = "" then ofKind else t
  | none => ofKind
where
  ofKind : String := (d.defaultKind.bind fun k => literalTypes.lookup k).getD unknownType

def entry (d : Descriptor) : Value :=
  match d.defaultText with
  | some t => .str (d.name.text ++ " = " ++ t)
  | none => d.name

def typeEntry (d : Descriptor) : Value :=
  .str (d.name.text ++ (if d.optional then "?" else "") ++ ": " ++ d.inferType)

end Descriptor

def braces (items : List Value) (separator : String) : Except Fault String := do
  .ok ("\x7b " ++ (← joinTexts separator items) ++ " \x7d")

/-- The text of the options parameter. A type is written only if some parameter had one. -/
def optionsText (ds : List Descriptor) : Except Fault String := do
  let pattern ← braces (ds.map (·.entry)) ", "
  if ds.any (·.explicitType) then
    .ok (pattern ++ ": " ++ (← braces (ds.map (·.typeEntry)) "; "))
  else .ok pattern

/-- The edit of a parameter list; none when the list is empty or no safe edit exists. -/
def optionsEdit? (parameters : List Parameter) : Except Fault (Option Edit) :=
  match parameters with
  | [] => .ok none
  | first :: others =>
    if parameters.all (·.mergeable) then do
      let text ← optionsText (parameters.map (·.describe))
      let last := others.getLastD first
      .ok (some ⟨⟨first.span.start, last.span.stop⟩, text⟩)
    else .ok none

end ArityLint
