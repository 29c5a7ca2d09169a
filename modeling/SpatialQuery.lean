import SpatialQuery.Main
import SpatialQuery.Number.Interchange
import SpatialQuery.Number.ReadBack
import SpatialQuery.Query.Transcript
import SpatialQuery.Stored.Query
import SpatialQuery.Proofs.Modifiers.Written
import SpatialQuery.Proofs.Query.Reachable
import SpatialQuery.Proofs.Query.Changes
import SpatialQuery.Proofs.Query.Modified
import SpatialQuery.Proofs.Number.Characters
import SpatialQuery.Proofs.Query.Grammar
import SpatialQuery.Proofs.Query.Printed
import SpatialQuery.Proofs.Query.Canonical
import SpatialQuery.Proofs.Query.Faithful
import SpatialQuery.Proofs.Shape.Lexed
import SpatialQuery.Proofs.Shape.Written
import SpatialQuery.Proofs.Shape.Refused
import SpatialQuery.Proofs.Shape.WellFormed
import SpatialQuery.Proofs.Shape.Printed
import SpatialQuery.Proofs.Shape.Grammar
import SpatialQuery.Proofs.Shape.ReadBack
import SpatialQuery.Proofs.Text.Offset
import SpatialQuery.Proofs.Text.Capitals
import SpatialQuery.Proofs.Shape.Wording
import SpatialQuery.Proofs.Query.Simple
import SpatialQuery.Proofs.Query.Wording
import SpatialQuery.Proofs.Stored.Fields
import SpatialQuery.Proofs.Stored.Forms
import SpatialQuery.Proofs.Stored.Decoder
import SpatialQuery.Proofs.Stored.Shape
import SpatialQuery.Proofs.Stored.Query
import SpatialQuery.Proofs.Stored.Relisted
import SpatialQuery.Proofs.CommandLine.Lines
import SpatialQuery.Proofs.CommandLine.Report
import SpatialQuery.Proofs.CommandLine.Modes
import SpatialQuery.Proofs.CommandLine.Normal
import SpatialQuery.Proofs.Shape.Scanner
import SpatialQuery.Proofs.Query.Offsets
import SpatialQuery.Proofs.Shape.Numbers
import SpatialQuery.Proofs.Modifiers.Order
import SpatialQuery.Proofs.Query.Layout
import SpatialQuery.Proofs.Shape.Pieces
import SpatialQuery.Proofs.Shape.Located
import SpatialQuery.Proofs.Shape.Counts
import SpatialQuery.Proofs.Shape.Capitals
import SpatialQuery.Proofs.Shape.Layout
import SpatialQuery.Proofs.Modifiers.Overridden
import SpatialQuery.Proofs.Modifiers.Writable
import SpatialQuery.Proofs.Query.Transcript
