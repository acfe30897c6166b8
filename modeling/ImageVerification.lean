import ImageVerification.Address.Ip
import ImageVerification.Address.Uri
import ImageVerification.Address.Url
import ImageVerification.Api
import ImageVerification.Api.Answer
import ImageVerification.Api.Document
import ImageVerification.Api.Endpoint
import ImageVerification.Api.Rejection
import ImageVerification.Api.Router
import ImageVerification.Api.Upload
import ImageVerification.Auth.Bearer
import ImageVerification.Auth.Member
import ImageVerification.Auth.Token
import ImageVerification.Binary.Format
import ImageVerification.Binary.Number
import ImageVerification.Binary.Word
import ImageVerification.Cache.Aside
import ImageVerification.Cache.ExpiringMap
import ImageVerification.Cache.Fault
import ImageVerification.Cache.Redis
import ImageVerification.Collaborator
import ImageVerification.Config
import ImageVerification.Context
import ImageVerification.Context.Signal
import ImageVerification.Decimal.Notation
import ImageVerification.Decimal.Shortest
import ImageVerification.Encoding.Base64Url
import ImageVerification.Encoding.Hex
import ImageVerification.Encoding.Utf8
import ImageVerification.Encoding.Uuid
import ImageVerification.Event
import ImageVerification.Fault.Any
import ImageVerification.Fault.Basic
import ImageVerification.Fault.Connection
import ImageVerification.Fault.Database
import ImageVerification.Fault.Grpc
import ImageVerification.Fault.Operation
import ImageVerification.Fault.Redis
import ImageVerification.Fingerprint
import ImageVerification.Flow
import ImageVerification.Flow.Run
import ImageVerification.Hash.Sha1
import ImageVerification.Hash.Sha256
import ImageVerification.Http.HeaderLines
import ImageVerification.Http.MediaType
import ImageVerification.Http.Message
import ImageVerification.Http.Multipart
import ImageVerification.Http.Origin
import ImageVerification.Http.Percent
import ImageVerification.Http.RateLimit
import ImageVerification.Http.Wire
import ImageVerification.InMemory
import ImageVerification.Json.Basic
import ImageVerification.Json.Number
import ImageVerification.Json.Parser
import ImageVerification.Json.Pointer
import ImageVerification.Json.Text
import ImageVerification.Json.Writer
import ImageVerification.Log.Filter
import ImageVerification.Log.Line
import ImageVerification.Main
import ImageVerification.Metrics
import ImageVerification.Proofs.Api.Acceptance
import ImageVerification.Proofs.Api.Configured
import ImageVerification.Proofs.Api.Discretion
import ImageVerification.Proofs.Api.Handlers
import ImageVerification.Proofs.Api.Origins
import ImageVerification.Proofs.Api.Probes
import ImageVerification.Proofs.Api.RateLimit
import ImageVerification.Proofs.Api.Routing
import ImageVerification.Proofs.Api.Settings
import ImageVerification.Proofs.Api.Timeouts
import ImageVerification.Proofs.Api.Unauthenticated
import ImageVerification.Proofs.Api.UploadGate
import ImageVerification.Proofs.Auth.Bearer
import ImageVerification.Proofs.Auth.Claims
import ImageVerification.Proofs.Auth.Expiry
import ImageVerification.Proofs.Auth.Signed
import ImageVerification.Proofs.Binary.Arithmetic
import ImageVerification.Proofs.Binary.Rounded
import ImageVerification.Proofs.Binary.Rounding
import ImageVerification.Proofs.Cache.Expiry
import ImageVerification.Proofs.Cache.Lifetime
import ImageVerification.Proofs.Context.Racing
import ImageVerification.Proofs.Context.Signal
import ImageVerification.Proofs.Decimal.Bracket
import ImageVerification.Proofs.Decimal.Separation
import ImageVerification.Proofs.Decimal.Shortest
import ImageVerification.Proofs.Decimal.Sides
import ImageVerification.Proofs.Decimal.Single
import ImageVerification.Proofs.Flow.Asks
import ImageVerification.Proofs.Flow.Exchanges
import ImageVerification.Proofs.Flow.Interruption
import ImageVerification.Proofs.Flow.Limits
import ImageVerification.Proofs.Flow.Outcomes
import ImageVerification.Proofs.Flow.Quiet
import ImageVerification.Proofs.Flow.Running
import ImageVerification.Proofs.Flow.Steps
import ImageVerification.Proofs.Flow.Uninterrupted
import ImageVerification.Proofs.Http.Permits
import ImageVerification.Proofs.Json.Digits
import ImageVerification.Proofs.Json.Escape
import ImageVerification.Proofs.Json.Literal
import ImageVerification.Proofs.Json.Narrowing
import ImageVerification.Proofs.Json.Object
import ImageVerification.Proofs.Json.Scaling
import ImageVerification.Proofs.Retry.Attempts
import ImageVerification.Proofs.Retry.Log
import ImageVerification.Proofs.Retry.Waits
import ImageVerification.Proofs.Scoring.Messages
import ImageVerification.Proofs.Service.Coherence
import ImageVerification.Proofs.Service.Contest
import ImageVerification.Proofs.Service.Discipline
import ImageVerification.Proofs.Service.Disclosure
import ImageVerification.Proofs.Service.DurableLedger
import ImageVerification.Proofs.Service.Errands
import ImageVerification.Proofs.Service.Failures
import ImageVerification.Proofs.Service.Invariants
import ImageVerification.Proofs.Service.OneWinner
import ImageVerification.Proofs.Service.ReadBack
import ImageVerification.Proofs.Service.Runs
import ImageVerification.Proofs.Service.Standing
import ImageVerification.Proofs.Service.Turns
import ImageVerification.Proofs.Service.UsersApart
import ImageVerification.Proofs.Snapshot.Recoding
import ImageVerification.Proofs.Snapshot.RoundTrip
import ImageVerification.Proofs.Snapshot.Score
import ImageVerification.Proofs.Store.DriverFaults
import ImageVerification.Proofs.Text.Trim
import ImageVerification.Proofs.Time.Calendar
import ImageVerification.Proofs.Time.Rfc3339
import ImageVerification.Proofs.Verification.Conflicts
import ImageVerification.Proofs.Verification.DuplicateReport
import ImageVerification.Proofs.Verification.Interruption
import ImageVerification.Proofs.Verification.Log
import ImageVerification.Proofs.Verification.Lookup
import ImageVerification.Proofs.Verification.ReadThrough
import ImageVerification.Proofs.Verification.Repeats
import ImageVerification.Proofs.Verification.Saves
import ImageVerification.Proofs.Verification.Stages
import ImageVerification.Proofs.Wire.Varint
import ImageVerification.Proofs.Wire.WellFormed
import ImageVerification.Record
import ImageVerification.Redis.Reply
import ImageVerification.Retry
import ImageVerification.Scoring.Client
import ImageVerification.Scoring.Message
import ImageVerification.Scoring.Verdict
import ImageVerification.Simulation.Exchange
import ImageVerification.Simulation.Replay
import ImageVerification.Simulation.Script
import ImageVerification.Simulation.Session
import ImageVerification.Snapshot
import ImageVerification.Startup
import ImageVerification.Store.Fault
import ImageVerification.Store.Ledger
import ImageVerification.Store.Postgres
import ImageVerification.Store.Repository
import ImageVerification.Text.Blank
import ImageVerification.Text.Printable
import ImageVerification.Text.Quoted
import ImageVerification.Time.Duration
import ImageVerification.Time.Rfc3339
import ImageVerification.Time.Timestamp
import ImageVerification.Verification
import ImageVerification.Wire.Field
import ImageVerification.Wire.Varint
