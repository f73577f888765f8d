import Chart.Text.Lines
import Chart.Text.Quoted
import Chart.Text.Alphanumeric
import Chart.Grammar.Format
import Chart.Grammar.LinePattern
import Chart.Grammar.Derivation
import Chart.Table.Filling
import Chart.Automaton
import Chart.Number.Shortest
import Chart.Number.Numeral
import Chart.Document.Outline
import Chart.Document.Scalar
import Chart.Document.Reader
import Chart.Config.Bundled
import Chart.Files.Basic
import Chart.Config.Snapshots
import Chart.Text.Paragraph
import Chart.CommandLine.Scan
import Chart.CommandLine.Help
import Chart.CommandLine.Invocation
import Chart.Command.Run
import Chart.Command.Program
import Chart.Config.Resources
import Chart.Session
import Chart.Main
import Chart.Proofs.Command.StrictCheck
import Chart.Proofs.Grammar.Construction
import Chart.Proofs.Table.Rules
import Chart.Proofs.Table.Locality
import Chart.Proofs.Grammar.StrictLines
import Chart.Proofs.Command.Check
import Chart.Proofs.Table.Chomsky
import Chart.Proofs.Grammar.RoundTrip
import Chart.Proofs.Command.Show
import Chart.Proofs.Table.Printed
import Chart.Proofs.Command.PrintTable
import Chart.Proofs.Session.Inquiries
import Chart.Proofs.Command.Cases
import Chart.Proofs.Table.Guarded
import Chart.Proofs.Command.TimeLimit
import Chart.Proofs.Table.Mirror
import Chart.Proofs.Table.Reachable
import Chart.Proofs.Table.Saturation
import Chart.Proofs.Grammar.Faults
import Chart.Proofs.Grammar.Layout
import Chart.Proofs.Grammar.Writable
import Chart.Proofs.Command.SameGrammar
import Chart.Proofs.Table.Cuts
import Chart.Proofs.Table.Rendering
import Chart.Proofs.Automaton
import Chart.Proofs.Text.Order
import Chart.Proofs.Command.Program
import Chart.Proofs.Grammar.LineExpression
import Chart.Proofs.Session.Log
