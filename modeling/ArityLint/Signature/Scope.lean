import ArityLint.Error
import ArityLint.Tree.Node

namespace ArityLint

/-- Functions with more parameters than this are out of bounds. -/
def maxParameters : Nat := 3

/-- Methods whose callback has a signature fixed by the standard library. -/
def callbackMethods : List String := ["replaceAll"]

inductive Exclusion where
  | typedDeclarator
  | withinLimit
  | stdCallback
  | propertyCallback
  | callArgument
  deriving DecidableEq, Repr

def Exclusion.reason : Exclusion → String
  | typedDeclarator => "typed-declarator"
  | withinLimit => "within-limit"
  | stdCallback => "std-callback"
  | propertyCallback => "property-callback"
  | callArgument => "call-argument"

/-- Where a node stands: its parent and its place there; none for the root. -/
abbrev Place := Option (Node × Role)

namespace Place

def isTypedInit : Place → Bool
  | some (.declarator _ (.identifier _ _ (some _) _ _) _, .init) => true
  | _ => false

def isCallArgument : Place → Bool
  | some (.call .., .callArgument) => true
  | _ => false

/-- Value of an object's entry other than a method, or of an assignment to a member. -/
def isPropertyValue : Place → Bool
  | some (.property _ _ _ method _ _, .value) => !method
  | some (.assignment _ (.member ..) _ _, .right) => true
  | _ => false

/-- The name by which the call that this is an argument of reaches its function as a member. -/
def calledMethod? : Place → Option Value
  | some (.call _ (.member _ _ (.identifier _ name ..) false) _, .callArgument) => some name
  | _ => none

end Place

def isCallbackMethod : Value → Except Fault Bool
  | .str s => .ok (callbackMethods.contains s)
  | .arr _ => .error (.unhashable "list")
  | .obj _ => .error (.unhashable "dict")
  | _ => .ok false

/-- Why a node is out of scope, by the first reason that applies; none when the rule applies. -/
def exclusion? (n : Node) (place : Place) : Except Fault (Option Exclusion) :=
  if place.isTypedInit then .ok (some .typedDeclarator)
  else
    match n.params? with
    | none => .error .noParameters
    | some params =>
      if params.length ≤ maxParameters then .ok (some .withinLimit)
      else do
        let callback ←
          match place.calledMethod? with
          | some name => isCallbackMethod name
          | none => .ok false
        if callback then .ok (some .stdCallback)
        else if place.isPropertyValue then .ok (some .propertyCallback)
        else if place.isCallArgument then .ok (some .callArgument)
        else .ok none

end ArityLint
