import ArityLint.Console
import ArityLint.Report

namespace ArityLint.Stylish

def columns : List Column :=
  [{ title := "Location", style := some "dim", right := true }, { title := "Severity" },
    { title := "Message" }, { title := "Rule", style := some "dim" }]

section

variable (c : Console)

/-- The row of a finding: where, how bad, what, and by which rule. -/
def row (r : Report) (f : Finding) : Except Fault (List String) := do
  let start := (r.extent f).start
  let message ← f.message
  let mark := if f.fixable then " [green](fixable)[/green]" else ""
  .ok [toString start.line ++ ":" ++ toString start.column, "[yellow]warning[/yellow]",
    c.escape message ++ mark, Rule.name]

/-- The part of one file; empty when there is nothing to say. -/
def part (r : Report) : Except Fault (List Item) :=
  match r.error with
  | some e =>
    .ok [.line ("[bold]" ++ c.escape r.path ++ "[/bold]"),
      .line ("  [red]error[/red]  " ++ c.escape e), .blank]
  | none =>
    if r.findings.isEmpty then .ok []
    else do
      let rows ← r.findings.mapM (row c r)
      .ok [.line ("[bold underline]" ++ c.escape r.path ++ "[/bold underline]"),
        .table { edged := false, columns, rows }, .blank]

end

structure Totals where
  problems : Nat
  fixable : Nat
  errors : Nat
  deriving DecidableEq, Repr

def totals (reports : List Report) : Totals :=
  let linted := reports.filter (·.error.isNone)
  ⟨linted.foldl (fun n r => n + r.count) 0, linted.foldl (fun n r => n + r.fixableCount) 0,
    reports.countP (·.error.isSome)⟩

def plural (n : Nat) (noun : String) : String :=
  toString n ++ " " ++ noun ++ (if n = 1 then "" else "s")

def noProblems : Item := .line "[green]No problems found.[/green]"

def Totals.text (t : Totals) : String :=
  plural t.problems "problem" ++
    (if t.fixable = 0 then "" else ", " ++ toString t.fixable ++ " fixable with --fix") ++
    (if t.errors = 0 then "" else ", " ++ plural t.errors "file" ++ " with errors")

def Totals.summary (t : Totals) : Item :=
  if t.problems = 0 ∧ t.errors = 0 then noProblems
  else .line ("[bold yellow]" ++ t.text ++ "[/bold yellow]")

def items (c : Console) (reports : List Report) : Except Fault (List Item) := do
  let parts ← reports.mapM (part c)
  .ok (parts.flatten ++ [(totals reports).summary])

def render (c : Console) (reports : List Report) : Except Fault String := do
  c.print (← items c reports)

end ArityLint.Stylish
