namespace ArityLint

inductive Level where
  | debug
  | info
  | warning
  | error
  | critical
  deriving DecidableEq, Repr

namespace Level

def name : Level → String
  | debug => "DEBUG"
  | info => "INFO"
  | warning => "WARNING"
  | error => "ERROR"
  | critical => "CRITICAL"

def number : Level → Nat
  | debug => 10
  | info => 20
  | warning => 30
  | error => 40
  | critical => 50

def all : List Level := [.debug, .info, .warning, .error, .critical]

def ofName? (s : String) : Option Level :=
  if s = "WARN" then some .warning
  else if s = "FATAL" then some .critical
  else all.find? (·.name = s)

end Level

structure Record where
  level : Level
  channel : String
  message : String
  deriving DecidableEq, Repr

namespace Record

/-- A record as a line of a log file, without its time stamp. -/
def line (r : Record) : String :=
  r.channel ++ " - " ++ r.level.name ++ " - " ++ r.message

end Record

namespace Channel

def base : String := "require_options"

def parser : String := "require_options.syntax.treesitter_parser"

def normalizer : String := "require_options.syntax.normalizer"

def rule : String := "require_options.rule.require_options_object"

def linter : String := "require_options.linter"

/-- The channel for a name: one that begins like the base is taken as it is, any other is put
below the base. -/
def ofName? : Option String → String
  | none => base
  | some name => if base.toList.isPrefixOf name.toList then name else base ++ "." ++ name

end Channel

end ArityLint
