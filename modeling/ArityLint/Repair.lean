import ArityLint.Check
import ArityLint.Number.Quantity
import ArityLint.Tree.Parse

namespace ArityLint

def lintSource (g : Grammar) (source language path : String) : LintM (List Finding) := do
  (← treeOf g source language path).check

def editsOf (findings : List Finding) : List Edit := findings.filterMap (·.edit)

structure Repair where
  output : String
  fixed : Bool := false
  applied : Nat := 0
  passes : Nat := 0
  deriving DecidableEq, Repr

namespace Repair

def pass (g : Grammar) (language path : String) (r : Repair) : LintM (Option Repair) := do
  let findings ← lintSource g r.output language path
  let (output, applied) := applyEdits r.output (editsOf findings)
  if applied = 0 then return none
  return some ⟨output, true, r.applied + applied, r.passes + 1⟩

/-- At most `left` rounds; the flag tells that a round found nothing to apply. -/
def run (g : Grammar) (language path : String) : (left : Nat) → Repair → LintM (Repair × Bool)
  | 0, r => return (r, false)
  | left + 1, r => do
    match ← pass g language path r with
    | none => return (r, true)
    | some next => run g language path left next

/-- The number of edits that one more round could apply, overlaps aside. -/
def pending (g : Grammar) (language path : String) (r : Repair) : LintM Nat := do
  return (editsOf (← lintSource g r.output language path)).length

def warnPending (g : Grammar) (language path : String) (limit : Quantity) (r : Repair) :
    LintM Unit := do
  let pending ← r.pending g language path
  unless pending = 0 do
    LintM.log .warning Channel.linter (path ++ ": " ++ toString pending ++
      " fix(es) still pending after " ++ limit.text ++ " passes")

end Repair

/-- The number of rounds that a limit allows; a float is no limit for rounds. -/
def Quantity.rounds (limit : Quantity) : Except Fault Nat :=
  match limit.int? with
  | some n => .ok n.toNat
  | none => .error .fractionalCount

def repair (g : Grammar) (source language path : String) (limit : Quantity) : LintM Repair := do
  let rounds ← LintM.ofFault limit.rounds
  let (r, settled) ← Repair.run g language path rounds { output := source }
  unless settled do
    r.warnPending g language path limit
  return r

def defaultRounds : Nat := 10

end ArityLint
