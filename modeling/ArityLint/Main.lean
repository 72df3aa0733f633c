import ArityLint.Snapshot
import ArityLint.Terminal.Arguments
import ArityLint.Terminal.Print

open ArityLint

def main (args : List String) : IO UInt32 := do
  let input ← (← IO.getStdin).readToEnd
  match Json.parse input with
  | .error _ =>
    IO.eprintln "standard input is not a JSON value"
    return 2
  | .ok v =>
    let fields := Snapshot.fieldsOf v
    let surroundings := Snapshot.surroundings (Path.ofString "/") fields
    let outcome := Command.run (Terminal.console 1000)
      (Snapshot.grammar ⟨1000, 1000⟩ (Snapshot.parses fields)) surroundings
      (Command.Request.ofArguments? surroundings args)
    IO.print outcome.output
    if let some fault := outcome.fault then IO.eprintln fault.message
    return outcome.exit.toUInt32
