import UnitOfWork.Ambient
import UnitOfWork.Binary64
import UnitOfWork.Binary64.Text
import UnitOfWork.Classification
import UnitOfWork.ConnectionString.Pairs
import UnitOfWork.ConnectionString.Rules
import UnitOfWork.ConnectionString.Validation
import UnitOfWork.ConnectionString.Verdict
import UnitOfWork.Document
import UnitOfWork.Document.Json.Reader
import UnitOfWork.Document.Json.Writer
import UnitOfWork.Document.Toml.Quoted
import UnitOfWork.Document.Toml.Reader
import UnitOfWork.Document.Toml.Scalar
import UnitOfWork.Document.Toml.Tables
import UnitOfWork.Driver.Code
import UnitOfWork.Driver.Fault
import UnitOfWork.Duration
import UnitOfWork.Duration.Text
import UnitOfWork.Handshake
import UnitOfWork.Isolation
import UnitOfWork.LayeredFailure
import UnitOfWork.Log
import UnitOfWork.Participant.Adapter
import UnitOfWork.Participant.Error
import UnitOfWork.Postgres.Participant
import UnitOfWork.Postgres.Server
import UnitOfWork.Postgres.Session
import UnitOfWork.Proofs.Binary64.Counts
import UnitOfWork.Proofs.Binary64.Rounding
import UnitOfWork.Proofs.Binary64.Text
import UnitOfWork.Proofs.Classification
import UnitOfWork.Proofs.ConnectionString.Judgement
import UnitOfWork.Proofs.ConnectionString.Layout
import UnitOfWork.Proofs.ConnectionString.Reading
import UnitOfWork.Proofs.ConnectionString.Rendering
import UnitOfWork.Proofs.Document.Json
import UnitOfWork.Proofs.Duration.Parts
import UnitOfWork.Proofs.Logic
import UnitOfWork.Proofs.Postgres.Conversation
import UnitOfWork.Proofs.Postgres.Durability
import UnitOfWork.Proofs.Postgres.Handles
import UnitOfWork.Proofs.Postgres.Holdings
import UnitOfWork.Proofs.Postgres.Interruption
import UnitOfWork.Proofs.Postgres.Rounds
import UnitOfWork.Proofs.Postgres.Sessions
import UnitOfWork.Proofs.Provider.Builtin
import UnitOfWork.Proofs.Provider.Registrations
import UnitOfWork.Proofs.Recording
import UnitOfWork.Proofs.Rehearsal.Retried
import UnitOfWork.Proofs.Rehearsal.Sessions
import UnitOfWork.Proofs.Rehearsal.Stages
import UnitOfWork.Proofs.Retry.Answered
import UnitOfWork.Proofs.Retry.Attempts
import UnitOfWork.Proofs.Retry.Blocking
import UnitOfWork.Proofs.Retry.Cancellation
import UnitOfWork.Proofs.Retry.Delays
import UnitOfWork.Proofs.Retry.Instant
import UnitOfWork.Proofs.Retry.Layered
import UnitOfWork.Proofs.Retry.Logged
import UnitOfWork.Proofs.Retry.Rehearsal
import UnitOfWork.Proofs.Retry.Rounds
import UnitOfWork.Proofs.Retry.Schedule
import UnitOfWork.Proofs.Retry.Shortening
import UnitOfWork.Proofs.Retry.Stretching
import UnitOfWork.Proofs.Retry.Transience
import UnitOfWork.Proofs.Retry.Uncancelled
import UnitOfWork.Proofs.Retry.Watched
import UnitOfWork.Proofs.Scope.Accounts
import UnitOfWork.Proofs.Scope.Attempts
import UnitOfWork.Proofs.Scope.Cancellation
import UnitOfWork.Proofs.Scope.Captured
import UnitOfWork.Proofs.Scope.Closing
import UnitOfWork.Proofs.Scope.Coherence
import UnitOfWork.Proofs.Scope.Completion
import UnitOfWork.Proofs.Scope.Desks
import UnitOfWork.Proofs.Scope.Disciplines
import UnitOfWork.Proofs.Scope.Enlisting
import UnitOfWork.Proofs.Scope.Ledger
import UnitOfWork.Proofs.Scope.Moves
import UnitOfWork.Proofs.Scope.Orderly
import UnitOfWork.Proofs.Scope.Reports
import UnitOfWork.Proofs.Scope.Resumption
import UnitOfWork.Proofs.Scope.Rounds
import UnitOfWork.Proofs.Scope.Settled
import UnitOfWork.Proofs.Scope.Shared
import UnitOfWork.Proofs.Scope.Uncancelled
import UnitOfWork.Proofs.Scope.Usage
import UnitOfWork.Proofs.Scope.Watched
import UnitOfWork.Proofs.Settings.Bounds
import UnitOfWork.Proofs.Settings.Precedence
import UnitOfWork.Proofs.Settings.Storage
import UnitOfWork.Proofs.Settings.Variables
import UnitOfWork.Proofs.Sqlite.Agreement
import UnitOfWork.Proofs.Sqlite.Connections
import UnitOfWork.Proofs.Sqlite.Contention
import UnitOfWork.Proofs.Sqlite.Ownership
import UnitOfWork.Proofs.Sqlite.Rounds
import UnitOfWork.Proofs.Sqlite.Sessions
import UnitOfWork.Proofs.Sqlite.Usage
import UnitOfWork.Proofs.Steps
import UnitOfWork.Proofs.Text.Blanks
import UnitOfWork.Proofs.Text.Bytes
import UnitOfWork.Proofs.Text.Letters
import UnitOfWork.Proofs.Text.Numerals
import UnitOfWork.Proofs.Text.Radix
import UnitOfWork.Provider.Alias
import UnitOfWork.Provider.Classifier
import UnitOfWork.Provider.Kind
import UnitOfWork.Provider.Registry
import UnitOfWork.Refusal
import UnitOfWork.Rehearsal.Retried
import UnitOfWork.Rehearsal.Session
import UnitOfWork.Rehearsal.Stage
import UnitOfWork.Retry.Backoff
import UnitOfWork.Retry.Blocking
import UnitOfWork.Retry.Jitter
import UnitOfWork.Retry.Options
import UnitOfWork.Retry.Policy
import UnitOfWork.Retry.Provider
import UnitOfWork.Retry.Rehearsal
import UnitOfWork.Retry.Sleeper
import UnitOfWork.Retry.Suspending
import UnitOfWork.Retry.Telemetry
import UnitOfWork.Scope.Attempt
import UnitOfWork.Scope.Blocking
import UnitOfWork.Scope.Desk
import UnitOfWork.Scope.Enlist
import UnitOfWork.Scope.Error
import UnitOfWork.Scope.Notice
import UnitOfWork.Scope.Record
import UnitOfWork.Scope.Suspending
import UnitOfWork.Settings.Basic
import UnitOfWork.Settings.Environment
import UnitOfWork.Settings.File
import UnitOfWork.Settings.Form
import UnitOfWork.Settings.Source
import UnitOfWork.Sqlite.Contention
import UnitOfWork.Sqlite.Database
import UnitOfWork.Sqlite.Participant
import UnitOfWork.Sqlite.Session
import UnitOfWork.Sqlite.Transactional
import UnitOfWork.Text.Blank
import UnitOfWork.Text.Formless
import UnitOfWork.Text.Numeral
import UnitOfWork.Text.Radix
import UnitOfWork.Text.Shown
