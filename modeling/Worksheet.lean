import Worksheet.Main
import Worksheet.Proofs.Expression.Binding
import Worksheet.Proofs.Graph.Traversal
import Worksheet.Proofs.Sheet.Grid
import Worksheet.Proofs.Sheet.Meaning
import Worksheet.Proofs.Sheet.Reading
import Worksheet.Proofs.Sheet.Recalculation
import Worksheet.Proofs.Graph.Edges
import Worksheet.Proofs.Sheet.Propagation
import Worksheet.Proofs.Sheet.Change
import Worksheet.Proofs.Sheet.Freshness
import Worksheet.Proofs.Graph.Circularity
import Worksheet.Proofs.Sheet.Repair
import Worksheet.Proofs.History.Simulation
import Worksheet.Proofs.Expression.Grammar
import Worksheet.Proofs.Expression.Postfix
import Worksheet.Proofs.Expression.Assembly
import Worksheet.Proofs.Expression.Conservation
import Worksheet.Proofs.Expression.Acceptance
import Worksheet.Proofs.History.Coherence
import Worksheet.Proofs.History.Return
import Worksheet.Proofs.Sheet.References
import Worksheet.Proofs.Sheet.Rejection
import Worksheet.Proofs.Sheet.Notice
import Worksheet.Proofs.Graph.Extensionality
import Worksheet.Proofs.Sheet.Placement
import Worksheet.Proofs.Sheet.Convergence
import Worksheet.Proofs.Sheet.Confluence
import Worksheet.Proofs.Sheet.Access
import Worksheet.Proofs.Script.Course
import Worksheet.Proofs.Address.Name
import Worksheet.Proofs.Address.Notation
import Worksheet.Proofs.Expression.Fault
import Worksheet.Proofs.Sheet.Resolution
import Worksheet.Proofs.Expression.Leaves
import Worksheet.Proofs.Decimal.Bits
import Worksheet.Proofs.Decimal.Rounding
import Worksheet.Proofs.Decimal.Layout
import Worksheet.Proofs.Expression.Display
import Worksheet.Proofs.Expression.Table
import Worksheet.Proofs.Sheet.Downstream
import Worksheet.Proofs.Decimal.Format
import Worksheet.Proofs.CommandLine.Agreement
import Worksheet.Proofs.Graph.Relation
import Worksheet.Proofs.Expression.Forest
import Worksheet.Proofs.Script.Written
import Worksheet.Proofs.History.Window
