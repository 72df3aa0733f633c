import ArityLint.Error

namespace ArityLint

inductive Language where
  | typescript
  | tsx
  | javascript
  deriving DecidableEq, Repr

namespace Language

def all : List Language := [.typescript, .tsx, .javascript]

def name : Language → String
  | typescript => "typescript"
  | tsx => "tsx"
  | javascript => "javascript"

def extensions : Language → List String
  | typescript => [".ts", ".mts", ".cts"]
  | tsx => [".tsx"]
  | javascript => [".js", ".mjs", ".cjs", ".jsx"]

def names : List String := (all.map name).mergeSort (· ≤ ·)

def ofName? (s : String) : Option Language := all.find? (·.name = s)

def ofName (s : String) : Except Error Language :=
  match ofName? s with
  | some language => .ok language
  | none => .error (.failure (.unsupportedLanguage s names))

/-- The language of a suffix; letters of either case. No character outside ASCII has one of the
letters of a suffix as its small form. -/
def ofSuffix? (suffix : String) : Option Language :=
  let small := String.ofList (suffix.toList.map Char.toLower)
  all.find? (·.extensions.contains small)

def ofPath? (p : Path) : Option Language := ofSuffix? p.suffix

/-- The language of a file; without one the suffix, or failing that the name, is reported. -/
def ofPath (p : Path) : Except Error Language :=
  match ofPath? p with
  | some language => .ok language
  | none =>
    .error (.failure (.unsupportedLanguage (if p.suffix = "" then p.name else p.suffix) names))

end Language

end ArityLint
