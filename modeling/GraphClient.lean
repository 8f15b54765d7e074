import GraphClient.SortedMap.Lemmas
import GraphClient.Watermark.Lemmas
import GraphClient.Duration
import GraphClient.Text
import GraphClient.Context
import GraphClient.Pool.Shutdown
import GraphClient.Transaction
import GraphClient.Client.Session
import GraphClient.Message.Format
import GraphClient.Settings
import GraphClient.Toml.Document
import GraphClient.Settings.Folder
import GraphClient.Proofs.Watermark.Lattice
import GraphClient.Proofs.Plan.Course
import GraphClient.Proofs.Transaction.Conduct
import GraphClient.Proofs.Transaction.Ledger
import GraphClient.Proofs.Transaction.Learning
import GraphClient.Proofs.Transaction.Life
import GraphClient.Proofs.Transaction.Finality
import GraphClient.Proofs.Transaction.Stamp
import GraphClient.Proofs.Transaction.Tally
import GraphClient.Proofs.Client.Concurrent
import GraphClient.Proofs.Client.Book
import GraphClient.Proofs.Client.Stepping
import GraphClient.Proofs.Client.ReadYourWrites
import GraphClient.Proofs.Transaction.Verdict
import GraphClient.Proofs.Transaction.Atomicity
import GraphClient.Proofs.Plan.Service
import GraphClient.Proofs.Transaction.Release
import GraphClient.Proofs.Plan.Replay
import GraphClient.Proofs.Transaction.Sequence
import GraphClient.Proofs.Client.Company
import GraphClient.Proofs.Client.Interleaving
import GraphClient.Proofs.Transaction.Permission
import GraphClient.Proofs.Client.Deadline
import GraphClient.Proofs.Transaction.Cleanup
import GraphClient.Proofs.Client.Blocking
import GraphClient.Proofs.Transaction.Attempt
import GraphClient.Proofs.Client.Indifference
import GraphClient.Proofs.Pool.Rotation
import GraphClient.Proofs.Client.Rotation
import GraphClient.Proofs.Json.Quoted
import GraphClient.Proofs.Json.Scan
import GraphClient.Proofs.Json.Read
import GraphClient.Proofs.Json.Format
import GraphClient.Proofs.Json.Record
import GraphClient.Proofs.Json.Message
import GraphClient.Proofs.Watermark.Construction
import GraphClient.Proofs.Context.Absorption
import GraphClient.Proofs.Transaction.Trace
import GraphClient.Proofs.Pool.Closing
import GraphClient.Proofs.Settings.Building
