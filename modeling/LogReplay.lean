import LogReplay.Index.Comparison
import LogReplay.Index.Specification
import LogReplay.Replay.Replayer
import LogReplay.Session.Asking
import LogReplay.Session.Indexing
import LogReplay.Settings.Reading
import LogReplay.Telemetry
import LogReplay.Proofs.Act.Ends
import LogReplay.Proofs.Session.Retrying
import LogReplay.Proofs.Session.Acknowledged
import LogReplay.Proofs.Replay.Effects
import LogReplay.Proofs.Replay.Calls
import LogReplay.Proofs.Replay.InOrder
import LogReplay.Proofs.Replay.Waiting
import LogReplay.Proofs.Replay.ResumePoint
import LogReplay.Proofs.Act.Agreement
import LogReplay.Proofs.Session.Transient
import LogReplay.Proofs.Replay.Transparency
import LogReplay.Proofs.Session.Protocol
import LogReplay.Proofs.Transaction.Requests
import LogReplay.Proofs.Bson.RoundTrip
import LogReplay.Proofs.Bson.Extended
import LogReplay.Proofs.Bson.Compact
import LogReplay.Proofs.Entry.Literal
import LogReplay.Proofs.Transaction.Reading
import LogReplay.Proofs.Transaction.Chain
import LogReplay.Proofs.Transaction.Interleaving
import LogReplay.Proofs.Session.Inserting
import LogReplay.Proofs.Session.Concern
import LogReplay.Proofs.Session.Namespaces
import LogReplay.Proofs.Replay.Capacity
import LogReplay.Proofs.Replay.Splitting
import LogReplay.Proofs.Failure.NotMaster
import LogReplay.Proofs.Act.Halts
import LogReplay.Proofs.Session.Bounded
import LogReplay.Proofs.Replay.Interrupted
import LogReplay.Proofs.Transaction.Streaming
import LogReplay.Proofs.Session.Questions
import LogReplay.Proofs.Act.Commuting
import LogReplay.Proofs.Replay.Conservation
import LogReplay.Proofs.Session.Past
import LogReplay.Proofs.Replay.Rejection
import LogReplay.Proofs.Number.Whole
import LogReplay.Proofs.Reply.Verdict
import LogReplay.Proofs.Transaction.Placing
import LogReplay.Proofs.Entry.NormalForm
import LogReplay.Proofs.Session.Singly
import LogReplay.Proofs.Index.NormalForm
import LogReplay.Proofs.Bson.Nesting
import LogReplay.Proofs.Bson.Equality
import LogReplay.Proofs.Number.NotANumber
import LogReplay.Proofs.Index.Equivalence
import LogReplay.Proofs.Transaction.Identity
import LogReplay.Proofs.Reply.Version
import LogReplay.Proofs.Namespace.RoundTrip
