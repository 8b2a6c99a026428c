import Spreadsheet.Command.Folder
import Spreadsheet.Main
import Spreadsheet.Proofs.Command.Anchor
import Spreadsheet.Proofs.Document.Convergence
import Spreadsheet.Proofs.Formula.Plain
import Spreadsheet.Proofs.Formula.Splicing
import Spreadsheet.Proofs.History.Timeline
import Spreadsheet.Proofs.Snapshot.RoundTrip
import Spreadsheet.Proofs.Document.AxisEdit
import Spreadsheet.Proofs.Document.Stability
import Spreadsheet.Proofs.Grid
import Spreadsheet.Proofs.Grid.Rows
import Spreadsheet.Proofs.Document.Dense
import Spreadsheet.Proofs.Formula.Fault
import Spreadsheet.Proofs.Snapshot.Acceptance
import Spreadsheet.Proofs.Command.Untouched
import Spreadsheet.Proofs.Document.Movement
import Spreadsheet.Proofs.Document.Recalculation
import Spreadsheet.Proofs.Formula.Parentheses
import Spreadsheet.Proofs.Command.Groups
import Spreadsheet.Proofs.Command.Written
import Spreadsheet.Proofs.Document.Entry
import Spreadsheet.Proofs.Formula.Bounds
import Spreadsheet.Proofs.Formula.Spacing
import Spreadsheet.Proofs.Formula.Finite
import Spreadsheet.Proofs.Block.FirstOccurrences
import Spreadsheet.Proofs.Block.Duplicates
import Spreadsheet.Proofs.Cell.Equality
import Spreadsheet.Proofs.Cell.NumberInText
import Spreadsheet.Proofs.Document.CellEdit
import Spreadsheet.Proofs.Document.Deduplication
import Spreadsheet.Proofs.Document.Replacement
import Spreadsheet.Proofs.Formula.Enumeration
import Spreadsheet.Proofs.Address.Naming
import Spreadsheet.Proofs.Formula.Coercion
import Spreadsheet.Proofs.History.Kept
import Spreadsheet.Proofs.Markdown.Table
import Spreadsheet.Proofs.Formula.Denotation
