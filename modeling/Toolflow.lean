import Toolflow.Batch.History
import Toolflow.Batch.Report
import Toolflow.Batch.Rule
import Toolflow.Batch.Step
import Toolflow.Batch.Validation
import Toolflow.Binary64.Basic
import Toolflow.Binary64.Magnitude
import Toolflow.Binary64.Reader
import Toolflow.Binary64.Shortest
import Toolflow.Cache.Key
import Toolflow.Cache.Store
import Toolflow.Calendar.Moment
import Toolflow.Calendar.Reader
import Toolflow.Condition.Evaluate
import Toolflow.Condition.Expression
import Toolflow.Condition.Reference
import Toolflow.Config.Basic
import Toolflow.Config.Environment
import Toolflow.Directive.Basic
import Toolflow.Directive.Reader
import Toolflow.Engine.Dispatch
import Toolflow.Engine.Error
import Toolflow.Engine.Run
import Toolflow.Engine.Session
import Toolflow.Engine.Submission
import Toolflow.Json.Number
import Toolflow.Json.Printer
import Toolflow.Json.Reader
import Toolflow.Json.Value
import Toolflow.Payload.Coercion
import Toolflow.Payload.Identifier
import Toolflow.Payload.Path
import Toolflow.Payload.Trades
import Toolflow.Proofs.Binary64.Decimals
import Toolflow.Proofs.Binary64.Integers
import Toolflow.Proofs.Binary64.Rounding
import Toolflow.Proofs.Calendar.Days
import Toolflow.Proofs.Calendar.Timestamp
import Toolflow.Proofs.Condition.Malformed
import Toolflow.Proofs.Condition.Presence
import Toolflow.Proofs.Condition.References
import Toolflow.Proofs.Condition.Scan
import Toolflow.Proofs.Condition.Splicing
import Toolflow.Proofs.Directive.Keys
import Toolflow.Proofs.Directive.Rendering
import Toolflow.Proofs.Directive.WellFormed
import Toolflow.Proofs.Directive.Written
import Toolflow.Proofs.Engine.Accesses
import Toolflow.Proofs.Engine.Causality
import Toolflow.Proofs.Engine.Chronicle
import Toolflow.Proofs.Engine.Consumption
import Toolflow.Proofs.Engine.Custody
import Toolflow.Proofs.Engine.Deferral
import Toolflow.Proofs.Engine.Delivery
import Toolflow.Proofs.Engine.Dispatch
import Toolflow.Proofs.Engine.Effect
import Toolflow.Proofs.Engine.Halt
import Toolflow.Proofs.Engine.Handover
import Toolflow.Proofs.Engine.Last
import Toolflow.Proofs.Engine.Operations
import Toolflow.Proofs.Engine.Preservation
import Toolflow.Proofs.Engine.Redemption
import Toolflow.Proofs.Engine.Refusal
import Toolflow.Proofs.Engine.Release
import Toolflow.Proofs.Engine.Retention
import Toolflow.Proofs.Engine.Session
import Toolflow.Proofs.Engine.Steps
import Toolflow.Proofs.Engine.Submission
import Toolflow.Proofs.Except
import Toolflow.Proofs.Json.Heredity
import Toolflow.Proofs.Json.Measures
import Toolflow.Proofs.Json.Notation
import Toolflow.Proofs.Json.Numerals
import Toolflow.Proofs.Json.Positions
import Toolflow.Proofs.Json.RoundTrip
import Toolflow.Proofs.Payload.Equality
import Toolflow.Proofs.Payload.Extraction
import Toolflow.Proofs.Payload.Heredity
import Toolflow.Proofs.Payload.Identifier
import Toolflow.Proofs.Payload.Path
import Toolflow.Proofs.Record.Arrangement
import Toolflow.Proofs.Record.Chronology
import Toolflow.Proofs.Record.Distinction
import Toolflow.Proofs.Record.Identification
import Toolflow.Proofs.Record.Order
import Toolflow.Proofs.Record.Selection
import Toolflow.Proofs.Record.Sets
import Toolflow.Proofs.Record.Sorting
import Toolflow.Proofs.Resolution.Agreement
import Toolflow.Proofs.Resolution.Envelope
import Toolflow.Proofs.Resolution.Evaluation
import Toolflow.Proofs.Resolution.Persistence
import Toolflow.Proofs.Resolution.Provenance
import Toolflow.Proofs.Resolution.Structure
import Toolflow.Proofs.Text.Parts
import Toolflow.Proofs.Wire.Batch
import Toolflow.Proofs.Wire.RoundTrip
import Toolflow.Record.Filter
import Toolflow.Record.Sets
import Toolflow.Record.Sort
import Toolflow.Resolution.Arguments
import Toolflow.Resolution.Error
import Toolflow.Resolution.Evaluate
import Toolflow.Resolution.Lookup
import Toolflow.Text.Blank
import Toolflow.Text.CharSet
import Toolflow.Text.Count
import Toolflow.Text.DecimalDigit
import Toolflow.Text.Fields
import Toolflow.Text.Quoted
import Toolflow.Text.Unprintable
import Toolflow.Text.WordChar
import Toolflow.Tool.Basic
import Toolflow.Tool.Name
import Toolflow.Tool.Outcome
import Toolflow.Tool.Registry
import Toolflow.Tool.Scripted
import Toolflow.Tool.Shape
import Toolflow.Tool.Summary
import Toolflow.Wire.Batch
import Toolflow.Wire.Config
import Toolflow.Wire.Decoder
import Toolflow.Wire.Fault
import Toolflow.Wire.Outcome
import Toolflow.Wire.Report
