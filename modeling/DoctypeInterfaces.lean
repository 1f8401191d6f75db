import DoctypeInterfaces.Change
import DoctypeInterfaces.CommandLine.Arguments
import DoctypeInterfaces.CommandLine.Execution
import DoctypeInterfaces.CommandLine.Option
import DoctypeInterfaces.Config.Basic
import DoctypeInterfaces.Config.Decode
import DoctypeInterfaces.Decimal.Shortest
import DoctypeInterfaces.Decimal.Text
import DoctypeInterfaces.Failure
import DoctypeInterfaces.Field.Kind
import DoctypeInterfaces.Field.Member
import DoctypeInterfaces.Generation
import DoctypeInterfaces.Interface.Basic
import DoctypeInterfaces.Interface.Recover
import DoctypeInterfaces.Interface.Set
import DoctypeInterfaces.Json.Error
import DoctypeInterfaces.Json.Number
import DoctypeInterfaces.Json.Record
import DoctypeInterfaces.Json.Scan
import DoctypeInterfaces.Json.Text
import DoctypeInterfaces.Json.Value
import DoctypeInterfaces.Locator
import DoctypeInterfaces.Main
import DoctypeInterfaces.Output
import DoctypeInterfaces.Path.Basic
import DoctypeInterfaces.Path.Order
import DoctypeInterfaces.Roots
import DoctypeInterfaces.Schema.Basic
import DoctypeInterfaces.Schema.Decode
import DoctypeInterfaces.Storage.Disk
import DoctypeInterfaces.Storage.Memory
import DoctypeInterfaces.Storage.Observed
import DoctypeInterfaces.Storage.Program
import DoctypeInterfaces.Text.CharClass
import DoctypeInterfaces.Text.Cased
import DoctypeInterfaces.Text.Lines
import DoctypeInterfaces.Text.Lowercase
import DoctypeInterfaces.Text.Printable
import DoctypeInterfaces.Text.Scan
import DoctypeInterfaces.Text.Utf8
import DoctypeInterfaces.Text.WordChar
import DoctypeInterfaces.Toml.Document
import DoctypeInterfaces.Toml.Scalar
import DoctypeInterfaces.Toml.Table
import DoctypeInterfaces.Toml.Text
import DoctypeInterfaces.Proofs.Generation.Ends
import DoctypeInterfaces.Proofs.Path.Components
import DoctypeInterfaces.Proofs.Locator.Walk
import DoctypeInterfaces.Proofs.Generation.Lookup
import DoctypeInterfaces.Proofs.Generation.Resolved
import DoctypeInterfaces.Proofs.Interface.Set
import DoctypeInterfaces.Proofs.Generation.Run
import DoctypeInterfaces.Proofs.Storage.Execution
import DoctypeInterfaces.Proofs.Text.Lines
import DoctypeInterfaces.Proofs.Generation.Merge
import DoctypeInterfaces.Proofs.Generation.Traversal
import DoctypeInterfaces.Proofs.Generation.Fresh
import DoctypeInterfaces.Proofs.Generation.Requested
import DoctypeInterfaces.Proofs.Interface.Recover
import DoctypeInterfaces.Proofs.Text.Utf8
import DoctypeInterfaces.Proofs.Interface.Block
import DoctypeInterfaces.Proofs.Generation.Rerun
import DoctypeInterfaces.Proofs.Interface.RoundTrip
import DoctypeInterfaces.Proofs.Interface.Reread
import DoctypeInterfaces.Proofs.Generation.Looking
import DoctypeInterfaces.Proofs.Generation.Writing
import DoctypeInterfaces.Proofs.Generation.Retention
import DoctypeInterfaces.Proofs.Generation.AllOrNothing
import DoctypeInterfaces.Proofs.Generation.UpToDate
import DoctypeInterfaces.Proofs.Interface.Headers
import DoctypeInterfaces.Proofs.Generation.Declarations
import DoctypeInterfaces.Proofs.Generation.Mishaps
import DoctypeInterfaces.Proofs.Generation.DryRun
import DoctypeInterfaces.Proofs.Generation.Accounting
import DoctypeInterfaces.Proofs.Generation.RowTypes
import DoctypeInterfaces.Proofs.CommandLine.Check
import DoctypeInterfaces.Proofs.Scheduling.Independence
import DoctypeInterfaces.Proofs.Locator.Bound
import DoctypeInterfaces.Proofs.Schema.Size
import DoctypeInterfaces.Proofs.Generation.Finishing
import DoctypeInterfaces.Proofs.Scheduling.Prompt
import DoctypeInterfaces.Proofs.Scheduling.Order
import DoctypeInterfaces.Proofs.Scheduling.Delay
import DoctypeInterfaces.Proofs.Scheduling.ChildrenFirst
import DoctypeInterfaces.Proofs.Locator.Remembering
import DoctypeInterfaces.Proofs.Locator.Search
import DoctypeInterfaces.Proofs.Path.Order
import DoctypeInterfaces.Proofs.Path.Ancestors
import DoctypeInterfaces.Proofs.Storage.Hierarchy
import DoctypeInterfaces.Proofs.Locator.First
import DoctypeInterfaces.Proofs.Json.Grammar
import DoctypeInterfaces.Proofs.Json.Text
import DoctypeInterfaces.Proofs.Json.Record
import DoctypeInterfaces.Proofs.Schema.Writing
import DoctypeInterfaces.Proofs.Path.Join
import DoctypeInterfaces.Proofs.Locator.Discovery
import DoctypeInterfaces.Proofs.Change.Shape
import DoctypeInterfaces.Proofs.Change.Recognition
import DoctypeInterfaces.Proofs.Change.Batch
import DoctypeInterfaces.Proofs.Generation.Interrupted
import DoctypeInterfaces.Proofs.Generation.FailFast
import DoctypeInterfaces.Proofs.Storage.Reaching
import DoctypeInterfaces.Proofs.Storage.Resolution
import DoctypeInterfaces.Proofs.Storage.Replacement
import DoctypeInterfaces.Proofs.Storage.Listing
import DoctypeInterfaces.Proofs.Locator.Links
import DoctypeInterfaces.Proofs.Storage.History
import DoctypeInterfaces.Proofs.Field.Member
import DoctypeInterfaces.Proofs.Config.Merge
import DoctypeInterfaces.Proofs.Interface.Lines
import DoctypeInterfaces.Proofs.Interface.Insertion
import DoctypeInterfaces.Proofs.Scheduling.Tally
