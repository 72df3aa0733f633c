import ArityLint.Path
import ArityLint.Text.Slice
import ArityLint.Value

namespace ArityLint

inductive Failure where
  | general (message : String) (details : List (String × String))
  | analysis (message : String) (details : List (String × String))
  | configuration (message : String) (details : List (String × String))
  | fileAccess (path : Path) (reason : String)
  | parsing (path : Path) (language reason : String)
  | unsupportedLanguage (language : String) (supported : List String)
  | invalidPath (path : Path) (reason : String)
  | invalidSetting (key : String) (value : Value) (reason : String)

namespace Failure

def summary : Failure → String
  | general message _ | analysis message _ | configuration message _ => message
  | fileAccess path _ => "Cannot access file: " ++ path.text
  | parsing path language _ => "Failed to parse " ++ language ++ " source: " ++ path.text
  | unsupportedLanguage language _ => "Unsupported language: " ++ language
  | invalidPath path _ => "Invalid path: " ++ path.text
  | invalidSetting key value _ => "Invalid configuration for " ++ key ++ ": " ++ value.text

def details : Failure → List (String × String)
  | general _ ds | analysis _ ds | configuration _ ds => ds
  | fileAccess path reason => [("filepath", path.text), ("reason", reason)]
  | parsing path language reason =>
    [("filepath", path.text), ("language", language), ("reason", reason)]
  | unsupportedLanguage language supported =>
    [("language", language), ("supported", ", ".intercalate supported)]
  | invalidPath path reason => [("path", path.text), ("reason", reason)]
  | invalidSetting key value reason => [("key", key), ("value", value.text), ("reason", reason)]

/-- The summary, followed by the details in parentheses when there are any. -/
def message (f : Failure) : String :=
  if f.details.isEmpty then f.summary
  else f.summary ++ " (" ++ ", ".intercalate (f.details.map fun (k, v) => k ++ "=" ++ v) ++ ")"

/-- The class of a failure and the classes it belongs to, narrowest first. -/
def classes : Failure → List String
  | general .. => ["RequireOptionsError"]
  | analysis .. => ["AnalysisError", "RequireOptionsError"]
  | configuration .. => ["ConfigurationError", "RequireOptionsError"]
  | fileAccess .. => ["FileAccessError", "AnalysisError", "RequireOptionsError"]
  | parsing .. => ["ParsingError", "AnalysisError", "RequireOptionsError"]
  | unsupportedLanguage .. => ["UnsupportedLanguageError", "AnalysisError", "RequireOptionsError"]
  | invalidPath .. => ["InvalidPathError", "ConfigurationError", "RequireOptionsError"]
  | invalidSetting .. => ["InvalidConfigError", "ConfigurationError", "RequireOptionsError"]

def name (f : Failure) : String :=
  f.classes.headD ""

end Failure

inductive Fault where
  /-- A concrete node lacks a child that is asked for the named property. -/
  | missingNode (property : String)
  /-- A node that only bears a function's type name has no parameters. -/
  | noParameters
  | indexRange
  | undecodable (flaw : Utf8.Flaw)
  /-- A list or an object stands where a name is looked up. -/
  | unhashable (typeName : String)
  /-- The item at `index` of texts to be joined is not a text. -/
  | notText (index : Nat) (typeName : String)
  | notIterable (typeName : String)
  | notSubscriptable (typeName : String)
  | notPattern (typeName : String)
  | noAttribute (typeName property : String)
  | emptyPattern
  | notConvertible (typeName : String)
  | notInteger (text : String)
  | integerTooLong (digits : Nat)
  /-- An integer has too many digits to be shown. -/
  | unshowable
  /-- Too many arrays and objects are inside one another; the last is of the named kind. -/
  | nestedText (container : String)
  /-- A tree is searched deeper than it may be. -/
  | nestedTree
  | notFloat (text : String)
  | notTruthValue (text : String)
  | infiniteFloat
  | nanFloat
  /-- A value that has no order is compared with an integer. -/
  | unordered (comparison typeName : String)
  | fractionalCount
  | unexpectedSetting (key : String)
  /-- A setting by the name under which the settings themselves are passed. -/
  | takenSetting (key : String)
  /-- An override by the name under which the settings file is passed. -/
  | takenOverride (key : String)
  | missingKey (key : String)
  | missingIndex (index : Nat)
  | noSuchFile (path : String)
  | notFolder (path : String)
  | isFolder (path : String)
  | permissionDenied (path : String)
  | nameTooLong (path : String)
  | noSpace
  | nullCharacter
  /-- A console cannot read what it is to print. -/
  | markup (flaw : String)
  deriving DecidableEq, Repr

def Fault.message : Fault → String
  | missingNode property => "'NoneType' object has no attribute '" ++ property ++ "'"
  | noParameters => "'OpaqueNode' object has no attribute 'params'"
  | indexRange => "list index out of range"
  | undecodable flaw => flaw.message
  | unhashable t => "unhashable type: '" ++ t ++ "'"
  | notText i t => "sequence item " ++ toString i ++ ": expected str instance, " ++ t ++ " found"
  | notIterable t => "'" ++ t ++ "' object is not iterable"
  | notSubscriptable t => "'" ++ t ++ "' object is not subscriptable"
  | notPattern t => "intern() argument must be str, not " ++ t
  | noAttribute t property => "'" ++ t ++ "' object has no attribute '" ++ property ++ "'"
  | emptyPattern => "empty pattern"
  | notConvertible t =>
    "int() argument must be a string, a bytes-like object or a real number, not '" ++ t ++ "'"
  | notInteger text =>
    "invalid literal for int() with base 10: " ++ Text.slice (Text.quoted text) 0 200
  | integerTooLong digits =>
    "Exceeds the limit (4300 digits) for integer string conversion: value has " ++
      toString digits ++ " digits; use sys.set_int_max_str_digits() to increase the limit"
  | unshowable =>
    "Exceeds the limit (4300 digits) for integer string conversion; " ++
      "use sys.set_int_max_str_digits() to increase the limit"
  | nestedText container =>
    "maximum recursion depth exceeded while decoding a JSON " ++ container ++
      " from a unicode string"
  | nestedTree => "maximum recursion depth exceeded"
  | notFloat text => "could not convert string to float: " ++ Text.quoted text
  | notTruthValue text => "expected true/false, got '" ++ text ++ "'"
  | infiniteFloat => "cannot convert float infinity to integer"
  | nanFloat => "cannot convert float NaN to integer"
  | unordered comparison t =>
    "'" ++ comparison ++ "' not supported between instances of '" ++ t ++ "' and 'int'"
  | fractionalCount => "'float' object cannot be interpreted as an integer"
  | unexpectedSetting key =>
    "LintConfig.__init__() got an unexpected keyword argument '" ++ key ++ "'"
  | takenSetting key => "LintConfig.__init__() got multiple values for argument '" ++ key ++ "'"
  | takenOverride key => "load_config() got multiple values for argument '" ++ key ++ "'"
  | missingKey key => Text.quoted key
  | missingIndex i => toString i
  | noSuchFile path => "[Errno 2] No such file or directory: " ++ Text.quoted path
  | notFolder path => "[Errno 20] Not a directory: " ++ Text.quoted path
  | isFolder path => "[Errno 21] Is a directory: " ++ Text.quoted path
  | permissionDenied path => "[Errno 13] Permission denied: " ++ Text.quoted path
  | nameTooLong path => "[Errno 36] File name too long: " ++ Text.quoted path
  | noSpace => "[Errno 28] No space left on device"
  | nullCharacter => "embedded null byte"
  | markup flaw => flaw

inductive Error where
  | failure (f : Failure)
  | fault (f : Fault)

def Error.message : Error → String
  | failure f => f.message
  | fault f => f.message

def truncate (x : Float) : Except Fault Int :=
  match Number.classify x.toBits.toNat with
  | .nan => .error .nanFloat
  | .infinite _ => .error .infiniteFloat
  | .zero _ => .ok 0
  | .finite negative value => .ok (if negative then -(value.floor : Int) else value.floor)

/-- The whole number that a value stands for as an offset: fractions are cut off, truth values are
zero and one, texts are read. -/
def Value.toOffset : Value → Except Fault Int
  | bool b => .ok (if b then 1 else 0)
  | int n => .ok n
  | float x => truncate x
  | str s =>
    match Number.readInt s with
    | .ok n => .ok n
    | .error .malformed => .error (.notInteger s)
    | .error (.tooLong digits) => .error (.integerTooLong digits)
  | v => .error (.notConvertible v.typeName)

end ArityLint
