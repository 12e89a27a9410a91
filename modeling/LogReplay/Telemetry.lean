/-
Module: LogReplay.Telemetry
Purpose: The log lines and the numbers that events give rise to.
Main exports:
  Severity, Event.logLine?, Measure, Event.measures, Telemetry, Telemetry.ofEvents
-/
import LogReplay.Event
import LogReplay.Number.Double

/-!
Lines of the log are warnings and errors.  Numbers are of three kinds: a counter
adds up, a gauge keeps the latest value, and a histogram keeps every value in
order.  Each is known by a key, which is a name and the labels in braces, sorted.
-/

namespace LogReplay

open Number (Double)

inductive Severity where
  | warn
  | error
deriving DecidableEq, Repr

def Severity.name : Severity → String
  | .warn => "warn"
  | .error => "error"

/-- One number to be recorded. -/
inductive Measure where
  | counter (key : String) (amount : Nat)
  | gauge (key : String) (value : Double)
  | histogram (key : String) (value : Double)
deriving DecidableEq, Repr

/-- The name with its labels, which are sorted as texts. -/
def metricKey (name : String) (labels : List (String × String)) : String :=
  let written := (labels.map fun (label, value) => label ++ "=" ++ value).mergeSort
    fun a b => decide (a ≤ b)
  if written.isEmpty then name
  else name ++ "\x7b" ++ ",".intercalate written ++ "\x7d"

def status (succeeded : Bool) : String :=
  if succeeded then "success" else "failure"

namespace Event

/-- The line that an event leaves in the log. -/
def logLine? : Event → Option (Severity × String)
  | .retrying target _ _ =>
      some (.warn, "Reconnecting to the " ++ target ++ " after transient error")
  | .gaveUp _ _ => some (.error, "Gave up retrying")
  | .probed .stillFailing => some (.warn, "Reconnection attempt failed")
  | .probed .hopeless => some (.error, "Reconnection attempt failed with unrecoverable error")
  | .indexesSingly _ _ =>
      some (.warn, "createIndexes failed, retrying each index build individually")
  | .halfSession =>
      some (.warn,
        "Ambiguous session metadata on command entry, treating as non-transactional")
  | .purged false _ => some (.warn, "Purging a transaction that never finalized")
  | .readerAbandoned => some (.warn, "Transaction stream dropped before it was drained")
  | .probed .recovered | .probed .exhausted | .purged true _ | .commanded _ _ _ | .slept _
  | .attempted _ | .batchAttempted _ _ _ | .insertedSingly _ | .entered _ _
  | .finalized _ _ | .readerFinished _ => none

/-- The numbers that an event adds. -/
def measures : Event → List Measure
  | .commanded _ command outcome =>
      [.counter
        (metricKey "oplog_mirror_commands_total"
          [("command", (Bson.Document.firstName? command).getD ""),
           ("status", status outcome.isOk)]) 1]
  | .retrying _ operation overNetwork =>
      [.counter
        (metricKey "oplog_mirror_retries_total"
          [("operation", operation), ("kind", if overNetwork then "network" else "server")]) 1]
  | .gaveUp operation elapsed =>
      [.counter (metricKey "oplog_mirror_retries_exhausted_total" [("operation", operation)]) 1,
       .histogram
        (metricKey "oplog_mirror_retry_loop_duration_seconds" [("operation", operation)])
        (Span.seconds elapsed)]
  | .probed outcome =>
      [.counter
        (metricKey "oplog_mirror_reconnect_attempts_total"
          [("status", status (outcome == .recovered))]) 1]
  | .batchAttempted entries succeeded elapsed =>
      [.counter
        (metricKey "oplog_mirror_apply_ops_batches_total" [("status", status succeeded)]) 1] ++
      (if succeeded then [.counter "oplog_mirror_apply_ops_entries_total" entries.length]
        else []) ++
      [.histogram "oplog_mirror_apply_ops_batch_size" (.ofInt entries.length),
       .histogram "oplog_mirror_apply_ops_duration_seconds" (Span.seconds elapsed)]
  | .insertedSingly documents =>
      [.counter "oplog_mirror_duplicate_key_fallbacks_total" 1,
       .counter "oplog_mirror_duplicate_key_single_inserts_total" documents]
  | .indexesSingly collection builds =>
      [.counter (metricKey "oplog_mirror_index_fallbacks_total" [("ns", collection)]) 1,
       .counter "oplog_mirror_index_fallback_builds_total" builds]
  | .entered role live =>
      [.counter (metricKey "oplog_mirror_txn_entries_buffered_total" [("role", role.name)]) 1,
       .gauge "oplog_mirror_active_txns" (.ofInt live)]
  | .finalized committed entries =>
      let outcome := [("outcome", if committed then "commit" else "abort")]
      [.counter (metricKey "oplog_mirror_txn_finalized_total" outcome) 1,
       .histogram (metricKey "oplog_mirror_txn_entries" outcome) (.ofInt entries)]
  | .purged _ live =>
      [.counter "oplog_mirror_txn_purged_total" 1,
       .gauge "oplog_mirror_active_txns" (.ofInt live)]
  | .readerFinished operations =>
      [.counter "oplog_mirror_txn_ops_streamed_total" operations]
  | .slept _ | .attempted _ | .halfSession | .readerAbandoned => []

end Event

/-- Changes the value under a key, or adds one made from nothing. -/
def upsert {α : Type} (key : String) (f : Option α → α) :
    List (String × α) → List (String × α)
  | [] => [(key, f none)]
  | (name, value) :: rest =>
      if name = key then (name, f (some value)) :: rest else (name, value) :: upsert key f rest

/-- Totals by key. -/
structure Telemetry where
  counters : List (String × Nat)
  gauges : List (String × Double)
  histograms : List (String × List Double)
deriving DecidableEq, Repr

namespace Telemetry

def empty : Telemetry :=
  ⟨[], [], []⟩

def add (t : Telemetry) : Measure → Telemetry
  | .counter key n => { t with counters := upsert key (fun total => total.getD 0 + n) t.counters }
  | .gauge key x => { t with gauges := upsert key (fun _ => x) t.gauges }
  | .histogram key x =>
      { t with histograms := upsert key (fun values => values.getD [] ++ [x]) t.histograms }

/-- Pairs in the order of their keys. -/
def byKey {α : Type} (pairs : List (String × α)) : List (String × α) :=
  pairs.mergeSort fun a b => decide (a.1 ≤ b.1)

/-- Every list in the order of its keys. -/
def sorted (t : Telemetry) : Telemetry :=
  ⟨byKey t.counters, byKey t.gauges, byKey t.histograms⟩

/-- The numbers of a list of events. -/
def ofEvents (events : List Event) : Telemetry :=
  ((events.flatMap Event.measures).foldl add empty).sorted

end Telemetry

end LogReplay
