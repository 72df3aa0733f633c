import ArityLint.Check
import ArityLint.Collect
import ArityLint.Command
import ArityLint.Console
import ArityLint.Disk
import ArityLint.Edit
import ArityLint.Error
import ArityLint.Finding
import ArityLint.Language
import ArityLint.LintFiles
import ArityLint.Log
import ArityLint.Logging
import ArityLint.Main
import ArityLint.Number.Decimal
import ArityLint.Number.Quantity
import ArityLint.Number.Shortest
import ArityLint.Number.Text
import ArityLint.Path
import ArityLint.Path.Glob
import ArityLint.Proofs.Acceptance
import ArityLint.Proofs.Annotations
import ArityLint.Proofs.Brackets
import ArityLint.Proofs.Calls
import ArityLint.Proofs.CharacterTable
import ArityLint.Proofs.Collection
import ArityLint.Proofs.ConcreteEncoding
import ArityLint.Proofs.Decoding
import ArityLint.Proofs.Defaults
import ArityLint.Proofs.Distinct
import ArityLint.Proofs.DocumentEncoding
import ArityLint.Proofs.Documents
import ArityLint.Proofs.EditOrder
import ArityLint.Proofs.Edits
import ArityLint.Proofs.Enclosure
import ArityLint.Proofs.Encodings
import ArityLint.Proofs.Escapes
import ArityLint.Proofs.Exclusion
import ArityLint.Proofs.Exposure
import ArityLint.Proofs.Fields
import ArityLint.Proofs.Files
import ArityLint.Proofs.Findings
import ArityLint.Proofs.FirstError
import ArityLint.Proofs.Firsts
import ArityLint.Proofs.Fitting
import ArityLint.Proofs.FreeKeys
import ArityLint.Proofs.Functions
import ArityLint.Proofs.Isolation
import ArityLint.Proofs.KeyOrder
import ArityLint.Proofs.Likeness
import ArityLint.Proofs.LineEnds
import ArityLint.Proofs.Listing
import ArityLint.Proofs.Locations
import ArityLint.Proofs.Lowering
import ArityLint.Proofs.Mergeable
import ArityLint.Proofs.Nesting
import ArityLint.Proofs.Occurrence
import ArityLint.Proofs.Offsets
import ArityLint.Proofs.Origins
import ArityLint.Proofs.Outline
import ArityLint.Proofs.ParameterLists
import ArityLint.Proofs.Parameters
import ArityLint.Proofs.Parentheses
import ArityLint.Proofs.Passes
import ArityLint.Proofs.Patches
import ArityLint.Proofs.Positions
import ArityLint.Proofs.Precedence
import ArityLint.Proofs.Ranges
import ArityLint.Proofs.Reordering
import ArityLint.Proofs.Reports
import ArityLint.Proofs.Rounds
import ArityLint.Proofs.Run
import ArityLint.Proofs.Signature
import ArityLint.Proofs.Soundness
import ArityLint.Proofs.Splices
import ArityLint.Proofs.Survival
import ArityLint.Proofs.Totals
import ArityLint.Proofs.Validation
import ArityLint.Proofs.WalkOrder
import ArityLint.Proofs.WrappedLowering
import ArityLint.Proofs.Wrapping
import ArityLint.Proofs.Written
import ArityLint.Repair
import ArityLint.Report
import ArityLint.Report.Format
import ArityLint.Report.Github
import ArityLint.Report.JsonText
import ArityLint.Report.Stylish
import ArityLint.Session
import ArityLint.Settings
import ArityLint.Settings.Environment
import ArityLint.Settings.Load
import ArityLint.Signature.OptionsObject
import ArityLint.Signature.Parameter
import ArityLint.Signature.Scope
import ArityLint.Snapshot
import ArityLint.Terminal.Arguments
import ArityLint.Terminal.Cells
import ArityLint.Terminal.Color
import ArityLint.Terminal.Emoji
import ArityLint.Terminal.Emoji.Names
import ArityLint.Terminal.Grid
import ArityLint.Terminal.Literal
import ArityLint.Terminal.Literal.Expr
import ArityLint.Terminal.Literal.Grammar
import ArityLint.Terminal.Literal.Token
import ArityLint.Terminal.Markup
import ArityLint.Terminal.Print
import ArityLint.Terminal.Style
import ArityLint.Terminal.Width
import ArityLint.Terminal.Wrap
import ArityLint.Text.Lower
import ArityLint.Text.Numeral
import ArityLint.Text.Printable
import ArityLint.Text.Quoted
import ArityLint.Text.Slice
import ArityLint.Text.Source
import ArityLint.Text.Space
import ArityLint.Text.Utf8
import ArityLint.Text.Word
import ArityLint.Tree.Concrete
import ArityLint.Tree.Estree
import ArityLint.Tree.Lower
import ArityLint.Tree.Node
import ArityLint.Tree.Parse
import ArityLint.Tree.Walk
import ArityLint.Value
import ArityLint.Value.Json
import ArityLint.Value.Moment
import ArityLint.Value.Toml
import ArityLint.Value.Toml.Moment
import ArityLint.Value.Toml.Table
