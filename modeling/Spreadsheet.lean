import Spreadsheet.Cell.Snapshot
import Spreadsheet.Main
import Spreadsheet.Sheet.Step
import Spreadsheet.Proofs.Formula.Locality
import Spreadsheet.Proofs.Formula.Shifting
import Spreadsheet.Proofs.Sheet.RoundTrip
import Spreadsheet.Proofs.Formula.Raising
import Spreadsheet.Proofs.Sheet.Footprint
import Spreadsheet.Proofs.Sheet.Positions
import Spreadsheet.Proofs.Sheet.StoredResults
import Spreadsheet.Proofs.Sheet.Styling
import Spreadsheet.Proofs.Sheet.Commuting
import Spreadsheet.Proofs.Sheet.NumericResults
import Spreadsheet.Proofs.Binary.ReadBack
import Spreadsheet.Proofs.Formula.Printing
import Spreadsheet.Proofs.Formula.Rereading
import Spreadsheet.Proofs.Formula.Moving
import Spreadsheet.Proofs.Formula.Composing
import Spreadsheet.Proofs.Formula.Activations
import Spreadsheet.Proofs.Formula.Spans
import Spreadsheet.Proofs.Sheet.Effects
import Spreadsheet.Proofs.Sheet.Invariants
import Spreadsheet.Proofs.Sheet.Pasting
import Spreadsheet.Proofs.Grid.Spelling
import Spreadsheet.Proofs.CommandLine.Runs
import Spreadsheet.Proofs.CommandLine.Writing
import Spreadsheet.Proofs.Grid.Columns
import Spreadsheet.Proofs.Grid.Distances
import Spreadsheet.Proofs.Grid.Enumeration
import Spreadsheet.Proofs.Sheet.PastingMoved
import Spreadsheet.Proofs.Sheet.Importing
import Spreadsheet.Proofs.Formula.Strictness
import Spreadsheet.Proofs.Sheet.NumericTexts
import Spreadsheet.Proofs.Formula.ViablePrefixes
import Spreadsheet.Proofs.Formula.Comparisons
import Spreadsheet.Proofs.Formula.LostReferences
import Spreadsheet.Proofs.Cell.Series
import Spreadsheet.Proofs.Formula.Extremes
import Spreadsheet.Proofs.Formula.RangeArguments
import Spreadsheet.Proofs.Cell.Snapshots
import Spreadsheet.Proofs.Sheet.CellJson
