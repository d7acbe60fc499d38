import JobDesk.Binary64
import JobDesk.Bytes
import JobDesk.Calendar
import JobDesk.Client.Args
import JobDesk.Client.Call
import JobDesk.Client.Session
import JobDesk.Compression.Bits
import JobDesk.Compression.Brotli.Code
import JobDesk.Compression.Brotli.Command
import JobDesk.Compression.Brotli.Context
import JobDesk.Compression.Brotli.Part
import JobDesk.Compression.Brotli.Stretch
import JobDesk.Compression.Brotli.Text
import JobDesk.Compression.Checksum
import JobDesk.Compression.Deflate
import JobDesk.Compression.Fault
import JobDesk.Compression.Gzip
import JobDesk.Compression.PrefixCode
import JobDesk.Compression.Zlib
import JobDesk.Compression.Zstandard.BackBits
import JobDesk.Compression.Zstandard.Frame
import JobDesk.Compression.Zstandard.Literals
import JobDesk.Compression.Zstandard.Sequences
import JobDesk.Compression.Zstandard.StateCode
import JobDesk.Coordinator.Basic
import JobDesk.Coordinator.Error
import JobDesk.Coordinator.Notice
import JobDesk.Coordinator.Wait
import JobDesk.Decimal.Shortest
import JobDesk.Decimal.Style
import JobDesk.Desk.Basic
import JobDesk.Desk.Clock
import JobDesk.Directory
import JobDesk.Flexbuffer.Item
import JobDesk.Flexbuffer.Kind
import JobDesk.Flexbuffer.Reader
import JobDesk.Flexbuffer.Slot
import JobDesk.Flexbuffer.Tree
import JobDesk.Flexbuffer.Width
import JobDesk.Flexbuffer.Writer
import JobDesk.Http.ContentCoding
import JobDesk.Http.Exchange
import JobDesk.Http.Host.Address4
import JobDesk.Http.Host.Address6
import JobDesk.Http.Host.Barred
import JobDesk.Http.Host.Basic
import JobDesk.Http.Host.Direction
import JobDesk.Http.Host.Folding
import JobDesk.Http.Host.Joining
import JobDesk.Http.Host.Name
import JobDesk.Http.Host.Punycode
import JobDesk.Http.MediaType
import JobDesk.Http.Percent
import JobDesk.Http.Phrase
import JobDesk.Http.Request
import JobDesk.Http.Response
import JobDesk.Http.Service
import JobDesk.Http.Url
import JobDesk.Job.Basic
import JobDesk.Job.Report
import JobDesk.Job.Status
import JobDesk.Job.WaitingSet
import JobDesk.Json.Basic
import JobDesk.Json.Describe
import JobDesk.Json.Print
import JobDesk.Json.Read
import JobDesk.Json.Scan
import JobDesk.Json.Shape
import JobDesk.Keeper.Basic
import JobDesk.Keeper.Error
import JobDesk.Keeper.Notice
import JobDesk.Log.Filter
import JobDesk.Log.Record
import JobDesk.Main
import JobDesk.Mismatch
import JobDesk.Payload.Basic
import JobDesk.Payload.SearchConfig
import JobDesk.Payload.Typed
import JobDesk.Postgres.Pool
import JobDesk.Postgres.Reply
import JobDesk.Postgres.Repository
import JobDesk.Postgres.Statement
import JobDesk.Postgres.TableName
import JobDesk.Postgres.TablePeer
import JobDesk.Postgres.Target
import JobDesk.Proofs.Coordinator.WaitRun
import JobDesk.Proofs.Desk.Edits
import JobDesk.Proofs.Desk.Waits
import JobDesk.Proofs.Flexbuffer.Growth
import JobDesk.Proofs.Flexbuffer.Lists
import JobDesk.Proofs.Flexbuffer.Maps
import JobDesk.Proofs.Flexbuffer.Reach
import JobDesk.Proofs.Flexbuffer.Region
import JobDesk.Proofs.Flexbuffer.RoundTrip
import JobDesk.Proofs.Flexbuffer.Size
import JobDesk.Proofs.Flexbuffer.Slots
import JobDesk.Proofs.Flexbuffer.Text
import JobDesk.Proofs.Flexbuffer.Vectors
import JobDesk.Proofs.Http.Posting
import JobDesk.Proofs.Http.Task
import JobDesk.Proofs.Http.Visits
import JobDesk.Proofs.Job.WaitingSet
import JobDesk.Proofs.Json.Members
import JobDesk.Proofs.Json.Reading
import JobDesk.Proofs.Keeper.Assignment
import JobDesk.Proofs.Outcome
import JobDesk.Proofs.Payload.RoundTrip
import JobDesk.Proofs.Store.Edits
import JobDesk.Proofs.Text.Decimal
import JobDesk.Proofs.Text.Utf8
import JobDesk.Service
import JobDesk.Settings.Basic
import JobDesk.Settings.Environment
import JobDesk.Span
import JobDesk.Store.Basic
import JobDesk.Store.Error
import JobDesk.Store.Memory
import JobDesk.Text.Alphanumeric
import JobDesk.Text.Blank
import JobDesk.Text.Canonical.Basic
import JobDesk.Text.Canonical.Classes
import JobDesk.Text.Canonical.Pairs
import JobDesk.Text.Decimal
import JobDesk.Text.Hidden
import JobDesk.Text.Lossy
import JobDesk.Text.Marks
import JobDesk.Text.Pattern.Basic
import JobDesk.Text.Pattern.Bracket
import JobDesk.Text.Pattern.Escape
import JobDesk.Text.Pattern.Read
import JobDesk.Text.Quoted
import JobDesk.Text.Radix
import JobDesk.Text.Ranges
import JobDesk.Proofs.Postgres.Pools
import JobDesk.Proofs.Keeper.Teardown
import JobDesk.Proofs.Service.Ending
import JobDesk.Proofs.Desk.Races
import JobDesk.Proofs.Json.Written
import JobDesk.Proofs.Json.Fields
import JobDesk.Proofs.Client.Outcomes
import JobDesk.Proofs.Postgres.Sql
import JobDesk.Proofs.Coordinator.Simulation
import JobDesk.Proofs.Postgres.Executed
import JobDesk.Proofs.Postgres.Refinement
import JobDesk.Proofs.Desk.LifeCycle
import JobDesk.Proofs.Desk.Erasure
import JobDesk.Proofs.Http.Shutdown
import JobDesk.Proofs.Http.Failures
import JobDesk.Proofs.Store.History
import JobDesk.Proofs.Desk.OneJob
import JobDesk.Proofs.Desk.Independence
import JobDesk.Proofs.Payload.Typed
import JobDesk.Proofs.Client.Requests
import JobDesk.Proofs.Client.Conduct
import JobDesk.Proofs.Client.Meeting
import JobDesk.Proofs.Http.Cancelling
import JobDesk.Proofs.Payload.Stored
import JobDesk.Proofs.Payload.ZeroKeys
import JobDesk.Proofs.Settings.Waiting
import JobDesk.Proofs.Client.CommandLine
import JobDesk.Proofs.Postgres.Splicing
import JobDesk.Proofs.Postgres.IndexName
import JobDesk.Proofs.Http.Reading
import JobDesk.Proofs.Settings.WaitingCodes
import JobDesk.Proofs.Coordinator.Sightings
import JobDesk.Proofs.Desk.Sightings
