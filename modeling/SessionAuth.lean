import SessionAuth.Access.Algorithm
import SessionAuth.Access.Claims
import SessionAuth.Access.Compact
import SessionAuth.Access.EmbeddedKey
import SessionAuth.Access.Header
import SessionAuth.Access.Issuer
import SessionAuth.Audit.Event
import SessionAuth.Audit.Queue
import SessionAuth.Core
import SessionAuth.Crypto.Argon2
import SessionAuth.Crypto.Blake2b
import SessionAuth.Crypto.Hmac
import SessionAuth.Crypto.Quarter
import SessionAuth.Crypto.Sha256
import SessionAuth.Decimal.Binary64
import SessionAuth.Decimal.Plain
import SessionAuth.Decimal.Shortest
import SessionAuth.Decimal.Stepwise
import SessionAuth.Encoding.Base64
import SessionAuth.Encoding.Hex
import SessionAuth.Encoding.Ranges
import SessionAuth.Encoding.Words
import SessionAuth.Failure
import SessionAuth.Fault
import SessionAuth.Flow.Basic
import SessionAuth.Flow.World
import SessionAuth.Grant
import SessionAuth.Halt
import SessionAuth.Json.Members
import SessionAuth.Json.Node
import SessionAuth.Json.Reader
import SessionAuth.Json.StringBody
import SessionAuth.Json.Value
import SessionAuth.Json.Whole
import SessionAuth.Notice
import SessionAuth.Password.Hashing
import SessionAuth.Password.Policy
import SessionAuth.Password.StoredHash
import SessionAuth.Permission.Engine
import SessionAuth.Proofs.Access.Compact
import SessionAuth.Proofs.Access.Deadline
import SessionAuth.Proofs.Access.Documents
import SessionAuth.Proofs.Access.Issuing
import SessionAuth.Proofs.Access.Ring
import SessionAuth.Proofs.Access.Rollover
import SessionAuth.Proofs.Access.Verification
import SessionAuth.Proofs.Audit.Delivery
import SessionAuth.Proofs.Encoding.Base64
import SessionAuth.Proofs.Encoding.Utf8
import SessionAuth.Proofs.Flow.Bounded
import SessionAuth.Proofs.Flow.Commitment
import SessionAuth.Proofs.Flow.Confinement
import SessionAuth.Proofs.Flow.Mirror
import SessionAuth.Proofs.Flow.Traces
import SessionAuth.Proofs.Flow.Turns
import SessionAuth.Proofs.Flow.Uninterrupted
import SessionAuth.Proofs.Json.Members
import SessionAuth.Proofs.Json.Numeral
import SessionAuth.Proofs.Json.RoundTrip
import SessionAuth.Proofs.Json.StringBody
import SessionAuth.Proofs.Password.Policy
import SessionAuth.Proofs.Password.RoundTrip
import SessionAuth.Proofs.Password.Verifier
import SessionAuth.Proofs.Permission.Decision
import SessionAuth.Proofs.Permission.LastWrite
import SessionAuth.Proofs.Refresh.Coherence
import SessionAuth.Proofs.Refresh.Effects
import SessionAuth.Proofs.Refresh.Evolution
import SessionAuth.Proofs.Refresh.Expiry
import SessionAuth.Proofs.Refresh.Filled
import SessionAuth.Proofs.Refresh.InPlace
import SessionAuth.Proofs.Refresh.Locality
import SessionAuth.Proofs.Refresh.Mirror
import SessionAuth.Proofs.Refresh.Numbering
import SessionAuth.Proofs.Refresh.Operations
import SessionAuth.Proofs.Service.Accounts
import SessionAuth.Proofs.Service.Alone
import SessionAuth.Proofs.Service.Atomicity
import SessionAuth.Proofs.Service.Backing
import SessionAuth.Proofs.Service.Barred
import SessionAuth.Proofs.Service.Basic
import SessionAuth.Proofs.Service.Conduct
import SessionAuth.Proofs.Service.Contents
import SessionAuth.Proofs.Service.Deadline
import SessionAuth.Proofs.Service.Endings
import SessionAuth.Proofs.Service.Exchanges
import SessionAuth.Proofs.Service.Freshness
import SessionAuth.Proofs.Service.HonestUse
import SessionAuth.Proofs.Service.Independence
import SessionAuth.Proofs.Service.Invariant
import SessionAuth.Proofs.Service.Lineage
import SessionAuth.Proofs.Service.Moments
import SessionAuth.Proofs.Service.Pairs
import SessionAuth.Proofs.Service.PasswordChange
import SessionAuth.Proofs.Service.Presence
import SessionAuth.Proofs.Service.Races
import SessionAuth.Proofs.Service.Refusals
import SessionAuth.Proofs.Service.Replacement
import SessionAuth.Proofs.Service.Reports
import SessionAuth.Proofs.Service.Rivals
import SessionAuth.Proofs.Service.Runs
import SessionAuth.Proofs.Service.Scripts
import SessionAuth.Proofs.Service.Secrecy
import SessionAuth.Proofs.Service.Shape
import SessionAuth.Proofs.Service.Testimony
import SessionAuth.Proofs.Service.Trail
import SessionAuth.Proofs.Service.Withdrawal
import SessionAuth.Proofs.Session.Binding
import SessionAuth.Proofs.Session.Decision
import SessionAuth.Proofs.Session.Listing
import SessionAuth.Proofs.Session.Logout
import SessionAuth.Proofs.Session.Mirror
import SessionAuth.Proofs.Session.Numbering
import SessionAuth.Proofs.Session.Sweep
import SessionAuth.Proofs.Session.Vouching
import SessionAuth.Proofs.Settings.Acceptance
import SessionAuth.Proofs.Settings.Assembly
import SessionAuth.Proofs.Settings.Validation
import SessionAuth.Proofs.Store.Calls
import SessionAuth.Proofs.Store.Folding
import SessionAuth.Proofs.Store.Identifiers
import SessionAuth.Proofs.Store.Retention
import SessionAuth.Proofs.Store.Shares
import SessionAuth.Proofs.Text.Decimal
import SessionAuth.Proofs.Text.Lowercase
import SessionAuth.Proofs.Uuid
import SessionAuth.Refresh.Record
import SessionAuth.Refresh.Secret
import SessionAuth.Refresh.Table
import SessionAuth.Registry
import SessionAuth.ServiceError
import SessionAuth.Session.Facade
import SessionAuth.Session.Rotation
import SessionAuth.Settings.Basic
import SessionAuth.Settings.DatabaseAddress
import SessionAuth.Settings.Document
import SessionAuth.Settings.Dotenv
import SessionAuth.Settings.JsonSource
import SessionAuth.Settings.Load
import SessionAuth.Settings.Reading
import SessionAuth.Settings.Toml.Document
import SessionAuth.Settings.Toml.Scalar
import SessionAuth.Settings.Toml.Text
import SessionAuth.Settings.Tree
import SessionAuth.Settings.Validation
import SessionAuth.Settings.Variables
import SessionAuth.Store.Basic
import SessionAuth.Store.Directory
import SessionAuth.Store.Shares
import SessionAuth.Subject
import SessionAuth.Text.Alphanumeric
import SessionAuth.Text.Blank
import SessionAuth.Text.Casing
import SessionAuth.Text.CharSet
import SessionAuth.Text.Escaped
import SessionAuth.Text.Lowercase
import SessionAuth.Text.LowercaseMap
import SessionAuth.Text.Split
import SessionAuth.Text.Uppercase
import SessionAuth.Time.Calendar
import SessionAuth.Time.Instant
import SessionAuth.Time.Span
import SessionAuth.Tracing.Endpoint
import SessionAuth.Uuid
