import Tenancy.Attribute.Replacement
import Tenancy.Attribute.Store
import Tenancy.Chain
import Tenancy.Cli.AppSettings
import Tenancy.Cli.Arguments
import Tenancy.Cli.Help
import Tenancy.Cli.LogLevel
import Tenancy.Cli.Pattern
import Tenancy.Cli.Pattern.Flaw
import Tenancy.Cli.Run
import Tenancy.Creation
import Tenancy.Decimal.Numeral
import Tenancy.Decimal.Shortest
import Tenancy.Dict
import Tenancy.Facility
import Tenancy.Fault
import Tenancy.Http.Message
import Tenancy.Http.Status
import Tenancy.Http.Transfer
import Tenancy.Json.Basic
import Tenancy.Json.Codec
import Tenancy.Json.Document
import Tenancy.Json.Printer
import Tenancy.Json.Reader
import Tenancy.Json.Record
import Tenancy.Json.Token
import Tenancy.Layer.Overlay
import Tenancy.Layer.Variable
import Tenancy.Layer.Yaml
import Tenancy.Layer.Yaml.Cursor
import Tenancy.Layer.Yaml.Node
import Tenancy.Layer.Yaml.Scalar
import Tenancy.Layer.Yaml.Token
import Tenancy.Listener
import Tenancy.Main
import Tenancy.Matching
import Tenancy.Outside
import Tenancy.Outside.Keeping
import Tenancy.Program
import Tenancy.Proofs.Attribute.Batch
import Tenancy.Proofs.Attribute.Between
import Tenancy.Proofs.Attribute.Failure
import Tenancy.Proofs.Attribute.Idempotence
import Tenancy.Proofs.Attribute.Identity
import Tenancy.Proofs.Attribute.Invariant
import Tenancy.Proofs.Attribute.Overwriting
import Tenancy.Proofs.Attribute.Reachable
import Tenancy.Proofs.Attribute.SuppliedIds
import Tenancy.Proofs.Creation.Address
import Tenancy.Proofs.Creation.Location
import Tenancy.Proofs.Creation.Outcome
import Tenancy.Proofs.Http.Requestable
import Tenancy.Proofs.Json.Overlay
import Tenancy.Proofs.Json.Padding
import Tenancy.Proofs.Json.Reading
import Tenancy.Proofs.Listener.Fanout
import Tenancy.Proofs.Matching.Classes
import Tenancy.Proofs.Matching.Conservation
import Tenancy.Proofs.Matching.Emptying
import Tenancy.Proofs.Matching.Greedy
import Tenancy.Proofs.Matching.Scan
import Tenancy.Proofs.Matching.Shares
import Tenancy.Proofs.Matching.Slot
import Tenancy.Proofs.Matching.Turns
import Tenancy.Proofs.Program.Agreement
import Tenancy.Proofs.Program.Runs
import Tenancy.Proofs.Provider.Answers
import Tenancy.Proofs.Provider.Exchanges
import Tenancy.Proofs.Provider.Granting
import Tenancy.Proofs.Provider.Issuing
import Tenancy.Proofs.Provider.Mutations
import Tenancy.Proofs.Provider.Requests
import Tenancy.Proofs.Provider.World
import Tenancy.Proofs.Realm.Addressing
import Tenancy.Proofs.Realm.Atomicity
import Tenancy.Proofs.Realm.Discretion
import Tenancy.Proofs.Realm.Filling
import Tenancy.Proofs.Realm.Furnishing
import Tenancy.Proofs.Realm.Impersonation
import Tenancy.Proofs.Realm.Mutations
import Tenancy.Proofs.Realm.Naming
import Tenancy.Proofs.Realm.Order
import Tenancy.Proofs.Realm.Orphan
import Tenancy.Proofs.Realm.References
import Tenancy.Proofs.Realm.Retirement
import Tenancy.Proofs.Realm.Rollback
import Tenancy.Proofs.Realm.Screening
import Tenancy.Proofs.Registry.Mirroring
import Tenancy.Proofs.Registry.Requests
import Tenancy.Proofs.Registry.Server
import Tenancy.Proofs.Secret.Isolation
import Tenancy.Proofs.Secret.Stability
import Tenancy.Proofs.Service.Construction
import Tenancy.Proofs.Service.Telling
import Tenancy.Proofs.Session.Access
import Tenancy.Proofs.Session.Agreement
import Tenancy.Proofs.Session.Conduct
import Tenancy.Proofs.Settings.Partial
import Tenancy.Proofs.Settings.Template
import Tenancy.Proofs.Text.Form
import Tenancy.Proofs.Url.Joining
import Tenancy.Proofs.Url.Splitting
import Tenancy.Proofs.Uuid.Text
import Tenancy.Proofs.Wire.RoundTrip
import Tenancy.Proofs.Work.Agreement
import Tenancy.Proofs.Work.Calls
import Tenancy.Proofs.Work.Effects
import Tenancy.Proofs.Work.Log
import Tenancy.Proofs.Work.Mutations
import Tenancy.Proofs.Work.Past
import Tenancy.Proofs.Work.Tokens
import Tenancy.Provider.Call
import Tenancy.Provider.Login
import Tenancy.Provider.Rest
import Tenancy.Realm.Blueprint
import Tenancy.Realm.ClientPlan
import Tenancy.Realm.Lifecycle
import Tenancy.Realm.Provisioning
import Tenancy.RealmName
import Tenancy.Registry.Descriptor
import Tenancy.Registry.Remote
import Tenancy.Secret
import Tenancy.Service
import Tenancy.Session
import Tenancy.Settings
import Tenancy.Settings.Check
import Tenancy.Tenant
import Tenancy.Text.Excerpt
import Tenancy.Text.Form
import Tenancy.Text.Percent
import Tenancy.Text.Utf8
import Tenancy.Unicode.Combining
import Tenancy.Unicode.Composition
import Tenancy.Unicode.Direction
import Tenancy.Unicode.Folding
import Tenancy.Unicode.Joining
import Tenancy.Unicode.Letter
import Tenancy.Unicode.Normal
import Tenancy.Unicode.Runs
import Tenancy.Unicode.Visible
import Tenancy.Url.Basic
import Tenancy.Url.Charset
import Tenancy.Url.Extend
import Tenancy.Url.Host
import Tenancy.Url.Label
import Tenancy.Url.Path
import Tenancy.Url.Punycode
import Tenancy.Url.Reader
import Tenancy.Uuid
import Tenancy.Wire.Client
import Tenancy.Wire.Realm
import Tenancy.Work
