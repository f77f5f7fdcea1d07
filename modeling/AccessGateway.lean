import AccessGateway.Text.Blank
import AccessGateway.Text.Numeral
import AccessGateway.Text.Fill
import AccessGateway.Time.Timestamp
import AccessGateway.Time.Duration
import AccessGateway.Json.Reader
import AccessGateway.Json.Printer
import AccessGateway.Yaml.Node
import AccessGateway.Digest.Base64
import AccessGateway.Digest.Sha256
import AccessGateway.Digest.Pi
import AccessGateway.Digest.Bcrypt
import AccessGateway.Fault
import AccessGateway.Identity
import AccessGateway.Query.Page
import AccessGateway.Query.Wire
import AccessGateway.Query.Legacy
import AccessGateway.Query.Current
import AccessGateway.Object.User
import AccessGateway.Object.Role
import AccessGateway.Object.RoleBinding
import AccessGateway.Object.Opaque
import AccessGateway.Cluster.Snapshot
import AccessGateway.Cluster.File
import AccessGateway.Access.Authorizer
import AccessGateway.Resource.LegacyRegistry
import AccessGateway.Resource.Registry
import AccessGateway.Membership
import AccessGateway.Tenant
import AccessGateway.Credential.Program
import AccessGateway.Credential.Address
import AccessGateway.Login.Password
import AccessGateway.Login.Sessions
import AccessGateway.Login.Request
import AccessGateway.Http.Headers
import AccessGateway.Http.Response
import AccessGateway.Gateway.Basic
import AccessGateway.Gateway.Start
import AccessGateway.Settings.Load
import AccessGateway.CommandLine.Run
import AccessGateway.Main
import AccessGateway.Proofs.Lists
import AccessGateway.Proofs.Text.Numeral
import AccessGateway.Proofs.Text.Decimal
import AccessGateway.Proofs.Text.Glob
import AccessGateway.Proofs.Text.Split
import AccessGateway.Proofs.Text.Utf8
import AccessGateway.Proofs.Digest.Base64
import AccessGateway.Proofs.Json.Lexeme
import AccessGateway.Proofs.Json.Object
import AccessGateway.Proofs.Json.Overlay
import AccessGateway.Proofs.Fault
import AccessGateway.Proofs.Time.Calendar
import AccessGateway.Proofs.Time.Timestamp
import AccessGateway.Proofs.Time.Chronology
import AccessGateway.Proofs.Time.Duration
import AccessGateway.Proofs.Document
import AccessGateway.Proofs.Query.Page
import AccessGateway.Proofs.Query.Order
import AccessGateway.Proofs.Query.Parameter
import AccessGateway.Proofs.Query.Legacy
import AccessGateway.Proofs.Cluster.Store
import AccessGateway.Proofs.Cluster.Selector
import AccessGateway.Proofs.Cluster.Reload
import AccessGateway.Proofs.Cluster.Reachable
import AccessGateway.Proofs.Cluster.Growth
import AccessGateway.Proofs.Cluster.LastWins
import AccessGateway.Proofs.Cluster.Requirement
import AccessGateway.Proofs.Access.Grant
import AccessGateway.Proofs.Access.Consulted
import AccessGateway.Proofs.Access.Isolation
import AccessGateway.Proofs.Access.Reload
import AccessGateway.Proofs.Access.Monotone
import AccessGateway.Proofs.Credential.Store
import AccessGateway.Proofs.Credential.Run
import AccessGateway.Proofs.Credential.World
import AccessGateway.Proofs.Credential.Eviction
import AccessGateway.Proofs.Credential.Schedule
import AccessGateway.Proofs.Credential.Calls
import AccessGateway.Proofs.Credential.Address
import AccessGateway.Proofs.Login.Lockout
import AccessGateway.Proofs.Login.Counter
import AccessGateway.Proofs.Login.Concurrency
import AccessGateway.Proofs.Login.Parts
import AccessGateway.Proofs.Login.Outage
import AccessGateway.Proofs.Login.Expiry
import AccessGateway.Proofs.Login.Verdict
import AccessGateway.Proofs.Login.Token
import AccessGateway.Proofs.Login.Sessions
import AccessGateway.Proofs.Login.Lifecycle
import AccessGateway.Proofs.Login.Revocation
import AccessGateway.Proofs.Login.SingleLogin
import AccessGateway.Proofs.Login.Chain
import AccessGateway.Proofs.Query.Walk
import AccessGateway.Proofs.Query.LastSays
import AccessGateway.Proofs.Query.Current
import AccessGateway.Proofs.Query.Paging
import AccessGateway.Proofs.Resource.Registration
import AccessGateway.Proofs.Resource.Confined
import AccessGateway.Proofs.Resource.Agreement
import AccessGateway.Proofs.Resource.Conversion
import AccessGateway.Proofs.Membership
import AccessGateway.Proofs.Membership.Appointment
import AccessGateway.Proofs.Membership.Listing
import AccessGateway.Proofs.Membership.Templates
import AccessGateway.Proofs.Tenant
import AccessGateway.Proofs.PasswordHash
import AccessGateway.Proofs.Object.Wire
import AccessGateway.Proofs.Object.Fields
import AccessGateway.Proofs.Object.Labels
import AccessGateway.Proofs.Object.Creation
import AccessGateway.Proofs.Object.Conditions
import AccessGateway.Proofs.Gateway.Mediation
import AccessGateway.Proofs.Gateway.Credentials
import AccessGateway.Proofs.Gateway.Caller
import AccessGateway.Proofs.Gateway.Groups
import AccessGateway.Proofs.Gateway.OwnView
import AccessGateway.Proofs.Gateway.Denial
import AccessGateway.Proofs.Settings.Word
import AccessGateway.Proofs.Settings.Layers
import AccessGateway.Proofs.Settings.VariableFile
import AccessGateway.Proofs.Settings.Reading
import AccessGateway.Proofs.Settings.Secret
