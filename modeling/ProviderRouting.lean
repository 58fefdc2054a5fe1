import ProviderRouting.Config.Basic
import ProviderRouting.Config.Yaml
import ProviderRouting.Error
import ProviderRouting.Guard
import ProviderRouting.Json.Decode
import ProviderRouting.Json.Reader
import ProviderRouting.Json.Stream
import ProviderRouting.Json.Value
import ProviderRouting.Logging.FieldValue
import ProviderRouting.Logging.Filter
import ProviderRouting.Logging.Setup
import ProviderRouting.Number.Nearest
import ProviderRouting.Number.Shortest
import ProviderRouting.Plan.Bootstrap
import ProviderRouting.Plan.Priority
import ProviderRouting.Proofs.Glob.Backtrack
import ProviderRouting.Proofs.Glob.Loop
import ProviderRouting.Proofs.Glob.Unicode
import ProviderRouting.Proofs.Plan.Apart
import ProviderRouting.Proofs.Plan.Reorder
import ProviderRouting.Proofs.Plan.Shift
import ProviderRouting.Proofs.Plan.Chain
import ProviderRouting.Proofs.Plan.Ties
import ProviderRouting.Proofs.Route.Classify
import ProviderRouting.Proofs.Route.Partitions
import ProviderRouting.Proofs.Service.Append
import ProviderRouting.Proofs.Route.Winner
import ProviderRouting.Proofs.Service.Consistency
import ProviderRouting.Proofs.Service.Defaults
import ProviderRouting.Proofs.Service.Load
import ProviderRouting.Proofs.Service.Oldest
import ProviderRouting.Proofs.Service.Operations
import ProviderRouting.Proofs.Service.Patterns
import ProviderRouting.Proofs.Service.Provision
import ProviderRouting.Proofs.Service.Reachable
import ProviderRouting.Proofs.Service.Refusals
import ProviderRouting.Proofs.Service.Removal
import ProviderRouting.Proofs.Service.Reopen
import ProviderRouting.Proofs.Service.Rollback
import ProviderRouting.Proofs.Service.Run
import ProviderRouting.Proofs.Service.Sound
import ProviderRouting.Proofs.Service.Steps
import ProviderRouting.Proofs.Store.Folders
import ProviderRouting.Proofs.Store.Import
import ProviderRouting.Proofs.Time.Rfc3339
import ProviderRouting.Proofs.Wire.Records
import ProviderRouting.Proofs.Wire.RoundTrip
import ProviderRouting.Provider.Basic
import ProviderRouting.Provider.Wire
import ProviderRouting.Requests.Files
import ProviderRouting.Requests.Labels
import ProviderRouting.Requests.Line
import ProviderRouting.Requests.Parse
import ProviderRouting.Requests.Plans
import ProviderRouting.Requests.Pure
import ProviderRouting.Requests.Reply
import ProviderRouting.Requests.Session
import ProviderRouting.Requests.Setup
import ProviderRouting.Requests.Shapes
import ProviderRouting.Route.Table
import ProviderRouting.Rule.Basic
import ProviderRouting.Rule.Input
import ProviderRouting.Rule.Wire
import ProviderRouting.Service.Open
import ProviderRouting.Service.Providers
import ProviderRouting.Service.Rules
import ProviderRouting.Service.State
import ProviderRouting.Sort
import ProviderRouting.Store.Disk
import ProviderRouting.Store.Legacy
import ProviderRouting.Store.Table
import ProviderRouting.Text.Alphanumeric
import ProviderRouting.Text.Blank
import ProviderRouting.Text.Glob
import ProviderRouting.Text.GraphemeExtend
import ProviderRouting.Text.Printable
import ProviderRouting.Text.Quoted
import ProviderRouting.Text.Ranges
import ProviderRouting.Time.Instant
import ProviderRouting.Yaml.Document
import ProviderRouting.Yaml.Event
import ProviderRouting.Yaml.Mark
import ProviderRouting.Yaml.Read
import ProviderRouting.Yaml.Scalar
import ProviderRouting.Yaml.Token
import ProviderRouting.Yaml.Tree
