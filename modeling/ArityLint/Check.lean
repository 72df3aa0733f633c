import ArityLint.Finding
import ArityLint.Session
import ArityLint.Signature.OptionsObject
import ArityLint.Signature.Scope

namespace ArityLint

/-- The edit of a function's parameters, whatever its place. -/
def editOf (params : List Node) (src : SourceText) : Except Fault (Option Edit) := do
  optionsEdit? (← params.mapM (·.classify src))

/-- The rule at one node, which bears a function's type name; its place is asked of the tree. -/
def checkNode (t : Tree) (v : Visit) : LintM (Option Finding) := do
  let n := v.node
  let site := n.type.text ++ " at " ++ toString n.start
  match ← LintM.ofFault (exclusion? n (t.place v)) with
  | some reason =>
    LintM.log .debug Channel.rule ("Skipped " ++ site ++ ": " ++ reason.reason)
    return none
  | none =>
    let params := n.params?.getD []
    let edit ← LintM.ofFault (editOf params t.source)
    if edit.isNone then LintM.log .debug Channel.rule ("No safe fix for " ++ site)
    return some ⟨n.type, n.span, Rule.messageId, [("count", .int params.length)], edit⟩

def bearsFunctionName (n : Node) : Bool :=
  FunctionKind.all.any fun k => n.type.isStr k.name

def checkVisits (t : Tree) : List Visit → LintM (List Finding)
  | [] => return []
  | v :: rest => do
    if bearsFunctionName v.node then
      let found ← checkNode t v
      let others ← checkVisits t rest
      return found.toList ++ others
    else checkVisits t rest

def Tree.check (t : Tree) : LintM (List Finding) := do
  let found ← checkVisits t t.walk
  return found.mergeSort fun a b => a.span.start ≤ b.span.start

end ArityLint
