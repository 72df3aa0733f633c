import ArityLint.Session
import ArityLint.Tree.Lower
import ArityLint.Tree.Walk

namespace ArityLint

/-- How many levels of a concrete tree the search for an error and the lowering may go down. -/
structure Limits where
  search : Nat
  lowering : Nat

structure Grammar where
  tree : Language → String → Concrete
  limits : Limits

instance : CoeFun Grammar fun _ => Language → String → Concrete := ⟨Grammar.tree⟩

/-- One-based line of the first error; zero when no node is one. -/
def errorLine (levels : Nat) (c : Concrete) : Except Fault Nat := do
  match ← c.firstError? levels with
  | some e => .ok (e.token.row + 1)
  | none => .ok 0

/-- The tree over a text with the given concrete tree; the failures show the path in its normal
form. Only the lowering is kept from going too deep by a failure. -/
def treeOver (limits : Limits) (source language path : String) (concrete : Concrete) :
    Except Error Tree :=
  let fail (reason : String) : Error := .failure (.parsing (Path.ofString path) language reason)
  if concrete.token.hasError then
    match errorLine limits.search concrete with
    | .error f => .error (.fault f)
    | .ok line => .error (fail ("syntax error near line " ++ toString line))
  else
    match Lower.ofConcrete (Utf8.Encoded.ofString source) limits.lowering none concrete with
    | .error .tooDeep => .error (fail "syntax tree is nested too deeply")
    | .error (.fault f) => .error (.fault f)
    | .ok root => .ok (.build root (SourceText.ofString source))

def treeOf (g : Grammar) (source language path : String) : LintM Tree := do
  let lang ← LintM.ofExcept (Language.ofName language)
  LintM.needParser lang
  let t ← LintM.ofExcept (treeOver g.limits source language path (g lang source))
  LintM.log .debug Channel.normalizer
    ("Built syntax tree for " ++ path ++ " (" ++ language ++ ")")
  return t

end ArityLint
