import ArityLint.Error
import ArityLint.Tree.Walk

namespace ArityLint

inductive Parameter where
  | simple (span : Span) (name : Value) (typeText : Option String) (optional : Bool)
  | defaulted (span : Span) (name : Value) (defaultText : String) (typeText : Option String)
      (defaultKind : Option String)
  /-- A constructor parameter promoted to a field; an options object loses its modifiers. -/
  | promoted (span : Span) (name : Value) (typeText : Option String) (optional : Bool)
      (modifier : String)
  | rest (span : Span) (rawText : String)
  | destructured (span : Span) (rawText : String)
  | decorated (span : Span) (rawText : String)
  | unrecognized (span : Span) (rawText : String)

namespace Parameter

def span : Parameter → Span
  | simple s .. | defaulted s .. | promoted s .. | rest s _ | destructured s _ | decorated s _
  | unrecognized s _ => s

/-- Rest, destructured and decorated parameters cannot be merged into one object. -/
def mergeable : Parameter → Bool
  | rest .. | destructured .. | decorated .. => false
  | _ => true

end Parameter

structure Descriptor where
  name : Value
  defaultText : Option String := none
  typeText : Option String := none
  optional : Bool := false
  explicitType : Bool := false
  defaultKind : Option String := none

def Parameter.describe : Parameter → Descriptor
  | .simple _ name typeText optional =>
    { name, typeText, optional, explicitType := typeText.isSome }
  | .promoted _ name typeText optional _ =>
    { name, typeText, optional, explicitType := typeText.isSome }
  | .defaulted _ name defaultText typeText defaultKind =>
    { name, defaultText, typeText, optional := true, explicitType := typeText.isSome, defaultKind }
  | .rest _ raw | .destructured _ raw | .decorated _ raw | .unrecognized _ raw =>
    { name := .str raw }

/-- Joins texts; the first item that is not a text is a fault. -/
def joinTexts (separator : String) (items : List Value) : Except Fault String := do
  let texts ← items.zipIdx.mapM fun (v, i) =>
    match v with
    | .str s => .ok s
    | v => .error (.notText i v.typeName)
  .ok (separator.intercalate texts)

/-- The modifiers of a promoted parameter in the order they are written. -/
def modifierText (accessibility : Value) (override readonly : Bool) : Except Fault String :=
  joinTexts " " ((if accessibility.truthy then [accessibility] else []) ++
    (if override then [.str "override"] else []) ++ (if readonly then [.str "readonly"] else []))

namespace Node

def text (n : Node) (src : SourceText) : String := src.slice n.start n.stop

def literalKind? : Node → Option String
  | literal _ kind .. => some kind.name
  | _ => none

def isPattern : Node → Bool
  | objectPattern .. | arrayPattern .. => true
  | _ => false

/-- The parameter at `span` that binds a name to a default. -/
def withDefault (span : Span) (name : Value) (typeExpr : Option Node) (right : Node)
    (src : SourceText) : Parameter :=
  .defaulted span name (right.text src) (typeExpr.map (·.text src)) right.literalKind?

/-- The shape of a parameter. Decorators come first: they have no place on an options object. -/
def classify (n : Node) (src : SourceText) : Except Fault Parameter :=
  if !n.decorators.isEmpty then .ok (.decorated n.span (n.text src))
  else
    match n with
    | parameterProperty span (identifier _ name t optional _) accessibility readonly override _ =>
      (modifierText accessibility override readonly).map
        (.promoted span name (t.map (·.text src)) optional)
    | parameterProperty span (assignmentPattern _ (identifier _ name t ..) right _) .. =>
      .ok (withDefault span name t right src)
    | identifier span name t optional _ => .ok (.simple span name (t.map (·.text src)) optional)
    | assignmentPattern span (identifier _ name t ..) right _ =>
      .ok (withDefault span name t right src)
    | assignmentPattern span left _ _ =>
      .ok (if left.isPattern then .destructured span (n.text src)
        else .unrecognized span (n.text src))
    | restElement span .. => .ok (.rest span (n.text src))
    | objectPattern span .. | arrayPattern span .. => .ok (.destructured span (n.text src))
    | n => .ok (.unrecognized n.span (n.text src))

end Node

end ArityLint
