import RefFrame.Calendar.CivilTime
import RefFrame.Calendar.Date
import RefFrame.Command.Arguments
import RefFrame.Command.Directory
import RefFrame.Command.Host
import RefFrame.Command.Logging
import RefFrame.Command.Place
import RefFrame.Command.Run
import RefFrame.Command.Setting
import RefFrame.Command.Workplace
import RefFrame.Crs.Collections
import RefFrame.Crs.Points
import RefFrame.DatePattern.Basic
import RefFrame.DatePattern.Compile
import RefFrame.DatePattern.Scan
import RefFrame.DatePattern.WrittenTime
import RefFrame.Decimal.Basic
import RefFrame.Decimal.Layout
import RefFrame.Decimal.Shortest
import RefFrame.Geometry.Basic
import RefFrame.Geometry.Decode
import RefFrame.Geometry.Dimension
import RefFrame.Geometry.Edit
import RefFrame.Geometry.Encode
import RefFrame.Geometry.Extent
import RefFrame.Geometry.Fault
import RefFrame.Geometry.Kind
import RefFrame.Geometry.Report
import RefFrame.Json.Basic
import RefFrame.Json.Exact
import RefFrame.Json.Fields
import RefFrame.Json.Library
import RefFrame.Json.Location
import RefFrame.Json.Numeric
import RefFrame.Json.Printer
import RefFrame.Json.Reader
import RefFrame.Json.Token
import RefFrame.Main
import RefFrame.PropertyPath.Basic
import RefFrame.PropertyPath.Resolve
import RefFrame.Record.Basic
import RefFrame.Record.Batch
import RefFrame.Record.Conversion
import RefFrame.Record.DatePass
import RefFrame.Record.Disclosure
import RefFrame.Record.Exchange
import RefFrame.Record.Issue
import RefFrame.Record.MetaEntry
import RefFrame.Record.Outcome
import RefFrame.Record.Status
import RefFrame.Record.UnitPass
import RefFrame.Reference.BaseSymbol
import RefFrame.Reference.Basic
import RefFrame.Reference.TimeFrame
import RefFrame.Reference.UnitFrame
import RefFrame.Text.Ascii
import RefFrame.Text.Blank
import RefFrame.Text.Pieces
import RefFrame.Timestamp
import RefFrame.Zone.Basic
import RefFrame.Zone.Library
import RefFrame.Zone.Lookup
import RefFrame.Zone.Table
import RefFrame.Zone.Timeline
import RefFrame.Proofs.Calendar.Days
import RefFrame.Proofs.Calendar.Successor
import RefFrame.Proofs.Calendar.UtcText
import RefFrame.Proofs.Command.Arguments
import RefFrame.Proofs.Command.Normalize
import RefFrame.Proofs.Crs.Collections
import RefFrame.Proofs.DatePattern.Bounds
import RefFrame.Proofs.DatePattern.Canonical
import RefFrame.Proofs.DatePattern.Compiled
import RefFrame.Proofs.DatePattern.Denotation
import RefFrame.Proofs.DatePattern.Language
import RefFrame.Proofs.DatePattern.Shape
import RefFrame.Proofs.DatePattern.Spelling
import RefFrame.Proofs.Fallible
import RefFrame.Proofs.Geometry.BoundingBox
import RefFrame.Proofs.Geometry.Coordinates
import RefFrame.Proofs.Geometry.Decode
import RefFrame.Proofs.Geometry.Dimension
import RefFrame.Proofs.Geometry.Reachable
import RefFrame.Proofs.Geometry.Recoding
import RefFrame.Proofs.Geometry.Retagging
import RefFrame.Proofs.Geometry.RoundTrip
import RefFrame.Proofs.Geometry.Setters
import RefFrame.Proofs.Geometry.Validity
import RefFrame.Proofs.Geometry.Writable
import RefFrame.Proofs.Json.Differs
import RefFrame.Proofs.Json.Location
import RefFrame.Proofs.Json.Shape
import RefFrame.Proofs.Json.Writes
import RefFrame.Proofs.PropertyPath.Addressing
import RefFrame.Proofs.PropertyPath.Matches
import RefFrame.Proofs.PropertyPath.Rewriting
import RefFrame.Proofs.Record.Alteration
import RefFrame.Proofs.Record.Calls
import RefFrame.Proofs.Record.Clean
import RefFrame.Proofs.Record.Confinement
import RefFrame.Proofs.Record.Panics
import RefFrame.Proofs.Record.DateTurn
import RefFrame.Proofs.Record.EveryCall
import RefFrame.Proofs.Record.History
import RefFrame.Proofs.Record.InPlace
import RefFrame.Proofs.Record.Independence
import RefFrame.Proofs.Record.LocalTimes
import RefFrame.Proofs.Record.Noninterference
import RefFrame.Proofs.Record.Progress
import RefFrame.Proofs.Record.Quantities
import RefFrame.Proofs.Record.Refusal
import RefFrame.Proofs.Record.Renormalize
import RefFrame.Proofs.Record.Restated
import RefFrame.Proofs.Record.Restore
import RefFrame.Proofs.Record.Settled
import RefFrame.Proofs.Record.Snapshot
import RefFrame.Proofs.Record.Swap
import RefFrame.Proofs.Record.Sweep
import RefFrame.Proofs.Record.UnitTurn
import RefFrame.Proofs.Record.Walk
import RefFrame.Proofs.Reference.Base
import RefFrame.Proofs.Reference.Rereading
import RefFrame.Proofs.Text.Digits
import RefFrame.Proofs.Timestamp
import RefFrame.Proofs.UtcInstant
import RefFrame.Proofs.WrittenOffset
import RefFrame.Proofs.Zone.Library
import RefFrame.Proofs.Zone.Lookup
import RefFrame.Proofs.Zone.Timeline
import RefFrame.Proofs.DatePattern.Grammar
import RefFrame.Proofs.FallibleLists
import RefFrame.Proofs.PropertyPath.Grammar
import RefFrame.Proofs.Json.Reading
import RefFrame.Proofs.Reference.TimeFrames
import RefFrame.Proofs.Geometry.Report
import RefFrame.Proofs.Json.Assignment
import RefFrame.Proofs.Zone.Identifier
import RefFrame.Proofs.Text.Utf8
import RefFrame.Proofs.DatePattern.ByteReading
import RefFrame.Proofs.DatePattern.Building
