import SqlBackend.Main
import SqlBackend.Rehearsal
import SqlBackend.Proofs.Action
import SqlBackend.Proofs.Engine.History
import SqlBackend.Proofs.Engine.Tables
import SqlBackend.Proofs.Resync.Names
import SqlBackend.Proofs.Engine.Shelf
import SqlBackend.Proofs.Lock.Clerk
import SqlBackend.Proofs.Lock.Exclusion
import SqlBackend.Proofs.Lock.Transaction
import SqlBackend.Proofs.Resync.Outcome
import SqlBackend.Proofs.Resync.Safety
import SqlBackend.Proofs.Resync.Inverse
import SqlBackend.Proofs.Lock.Interleaving
import SqlBackend.Proofs.Engine.Rejections
import SqlBackend.Proofs.Resync.Rejection
import SqlBackend.Proofs.Engine.Versions
import SqlBackend.Proofs.Versions.Map
import SqlBackend.Proofs.Versions.Stamp
import SqlBackend.Proofs.Resync.Residue
import SqlBackend.Proofs.Engine.Indexes
import SqlBackend.Proofs.Engine.Cabinet
import SqlBackend.Proofs.Resync.LostIndexes
import SqlBackend.Proofs.Connection.Health
import SqlBackend.Proofs.Connection.LastError
import SqlBackend.Proofs.Connection.Transcript
import SqlBackend.Proofs.Resync.IndexPhase
import SqlBackend.Proofs.Resync.IndexTokens
import SqlBackend.Proofs.Connection.Logged
import SqlBackend.Proofs.Resync.BulkOperations
import SqlBackend.Proofs.Schema.Attributes
import SqlBackend.Proofs.Sends
import SqlBackend.Proofs.Session.Recorded
import SqlBackend.Proofs.Session.Requests
import SqlBackend.Proofs.Session.Route
import SqlBackend.Proofs.Session.Course
import SqlBackend.Proofs.Session.Databases
import SqlBackend.Proofs.Session.Populated
import SqlBackend.Proofs.Session.DatabaseFiles
import SqlBackend.Proofs.Lock.Closing
import SqlBackend.Proofs.Lock.Stealing
import SqlBackend.Proofs.Session.Serving
import SqlBackend.Proofs.Session.Address
import SqlBackend.Proofs.Session.Life
import SqlBackend.Proofs.Session.Settings
import SqlBackend.Proofs.Engine.Bench
import SqlBackend.Proofs.Session.Contents
import SqlBackend.Proofs.Time.Calendar
import SqlBackend.Proofs.Engine.FileTree
import SqlBackend.Proofs.Time.Layout
import SqlBackend.Proofs.Embedded.DeclaredTypes
import SqlBackend.Proofs.Embedded.Readings
import SqlBackend.Proofs.Versions.Command
import SqlBackend.Proofs.Number.Numerals
import SqlBackend.Proofs.Row.Iteration
import SqlBackend.Proofs.Schema.Specifications
import SqlBackend.Proofs.Sql.Clauses
import SqlBackend.Proofs.Embedded.Timestamps
import SqlBackend.Proofs.Row.Exactness
import SqlBackend.Proofs.Time.Literals
import SqlBackend.Proofs.Session.Modes
import SqlBackend.Proofs.SelfTest.Verdict
import SqlBackend.Proofs.Embedded.Inference
import SqlBackend.Proofs.Lock.HostNames
