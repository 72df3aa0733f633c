import ArityLint.Language
import ArityLint.Log

namespace ArityLint

structure Session where
  parsers : List Language := []
  log : List Record := []

abbrev LintM := ExceptT Error (StateM Session)

namespace LintM

def log (level : Level) (channel message : String) : LintM Unit :=
  modify fun s => { s with log := s.log ++ [⟨level, channel, message⟩] }

def ofExcept (r : Except Error α) : LintM α := ExceptT.mk (pure r)

def ofFault (r : Except Fault α) : LintM α := ofExcept (r.mapError .fault)

def needParser (language : Language) : LintM Unit := do
  unless (← get).parsers.contains language do
    modify fun s => { s with parsers := s.parsers ++ [language] }
    log .debug Channel.parser ("Created tree-sitter parser for " ++ language.name)

end LintM

end ArityLint
