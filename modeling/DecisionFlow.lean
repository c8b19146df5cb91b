import DecisionFlow.Extended
import DecisionFlow.Inspect
import DecisionFlow.Main
import DecisionFlow.Settings.Json
import DecisionFlow.Proofs.Document.Children
import DecisionFlow.Proofs.Document.Reading
import DecisionFlow.Proofs.Document.Grammar
import DecisionFlow.Proofs.Document.Canonical
import DecisionFlow.Proofs.Flow.Nodes
import DecisionFlow.Proofs.Flow.Normal
import DecisionFlow.Proofs.Flow.Tracing
import DecisionFlow.Proofs.Flow.Tally
import DecisionFlow.Proofs.Flow.Relocating
import DecisionFlow.Proofs.Flow.Replay
import DecisionFlow.Proofs.Document.Fitting
import DecisionFlow.Proofs.Document.RoundTrip
import DecisionFlow.Proofs.Flow.Places
import DecisionFlow.Proofs.Document.Locators
import DecisionFlow.Proofs.Document.Placing
import DecisionFlow.Proofs.Json.Numbers
import DecisionFlow.Proofs.Json.RoundTrip
import DecisionFlow.Proofs.Document.Reloading
import DecisionFlow.Proofs.Document.DepthLimit
import DecisionFlow.Proofs.Document.Stability
import DecisionFlow.Proofs.Flow.Numbering
import DecisionFlow.Proofs.Document.Retracing
import DecisionFlow.Proofs.Payload.Fields
import DecisionFlow.Proofs.Payload.Paths
import DecisionFlow.Proofs.Payload.Store
import DecisionFlow.Proofs.Payload.Confined
import DecisionFlow.Proofs.Builtin.Mentioned
import DecisionFlow.Proofs.Builtin.Interference
import DecisionFlow.Proofs.Json.Loading
import DecisionFlow.Proofs.Document.Positions
import DecisionFlow.Proofs.Document.Comparing
import DecisionFlow.Proofs.Document.Resemblance
import DecisionFlow.Proofs.Document.Reshaping
import DecisionFlow.Proofs.Document.Strictness
import DecisionFlow.Proofs.Document.Splicing
import DecisionFlow.Proofs.Document.Extending
import DecisionFlow.Proofs.Document.Failing
import DecisionFlow.Proofs.Document.Defects
import DecisionFlow.Proofs.Document.Flawless
import DecisionFlow.Proofs.Payload.Assigning
import DecisionFlow.Proofs.Payload.Views
import DecisionFlow.Proofs.Payload.Writes
import DecisionFlow.Proofs.Builtin.Renaming
import DecisionFlow.Proofs.Builtin.Commuting
import DecisionFlow.Proofs.Flow.Composing
import DecisionFlow.Proofs.Flow.Unnegating
import DecisionFlow.Proofs.Document.Concatenating
import DecisionFlow.Proofs.Builtin.Ending
import DecisionFlow.Proofs.Flow.Grouping
import DecisionFlow.Proofs.Document.Counting
import DecisionFlow.Proofs.Registry.Registering
import DecisionFlow.Proofs.Registry.Histories
import DecisionFlow.Proofs.Document.Visiting
import DecisionFlow.Proofs.Document.Lengthening
