/-
Module: LogReplay.Settings
Purpose: What can be configured, within which bounds, and with which defaults.
Main exports:
  SessionSettings, ReplaySettings, Settings, validate, SessionSettings.policy
-/
import LogReplay.Entry
import LogReplay.Fault
import LogReplay.Retry.Policy
import LogReplay.Span.Reading

/-!
Settings come in two parts, one for the session with the database and one for the
batches of a replay.  Spans are kept as they were written and are checked by
validation; a span that cannot be read counts as its default.

The bounds of a batch leave room in a document of the largest size for what a
command needs besides the entries.
-/

namespace LogReplay

/-- Settings of a session with the database. -/
structure SessionSettings where
  minAttempts : Nat
  minReconnectAttempts : Nat
  minRetryDuration : String
  recoverSleep : String
  /-- Entries are applied even where they break a validation rule. -/
  bypassValidation : Bool
  /-- Comes before the name of a collection that is about to be dropped. -/
  dropPendingPrefix : String
  /-- The database, as messages call it. -/
  destinationName : String
  /-- The message of entries that do nothing. -/
  noopMessage : String
deriving DecidableEq, Repr

/-- Settings of the batches of a replay. -/
structure ReplaySettings where
  maxBatchOperations : Nat
  maxBatchBytes : Nat
deriving DecidableEq, Repr

structure Settings where
  session : SessionSettings
  replay : ReplaySettings
deriving DecidableEq, Repr

namespace SessionSettings

def standard : SessionSettings where
  minAttempts := 10
  minReconnectAttempts := 10
  minRetryDuration := "5m"
  recoverSleep := "5s"
  bypassValidation := true
  dropPendingPrefix := "_oplog_mirror_drop_pending_"
  destinationName := "destination"
  noopMessage := "oplog-mirror noop"

def testing : SessionSettings :=
  { standard with
    minAttempts := 3
    minReconnectAttempts := 2
    minRetryDuration := "100ms"
    recoverSleep := "10ms" }

/-- The floors of patience. -/
def policy (s : SessionSettings) : Retry.Policy where
  minAttempts := s.minAttempts
  minReconnectAttempts := s.minReconnectAttempts
  minDuration := (Span.ofText? s.minRetryDuration).getD (Span.ofSeconds 300)
  recoverSleep := (Span.ofText? s.recoverSleep).getD (Span.ofSeconds 5)

/-- The first objection to the settings, if there is one. -/
def problem? (s : SessionSettings) : Option SettingsProblem :=
  if (Span.ofText? s.minRetryDuration).isNone then
    some (.unreadableSpan .minRetryDuration s.minRetryDuration)
  else if (Span.ofText? s.recoverSleep).isNone then
    some (.unreadableSpan .recoverSleep s.recoverSleep)
  else if s.dropPendingPrefix.isEmpty then some .emptyDropPendingPrefix
  else if s.noopMessage.isEmpty then some .emptyNoopMessage
  else none

end SessionSettings

namespace ReplaySettings

def standard : ReplaySettings where
  maxBatchOperations := 1000
  maxBatchBytes := 15 * 1024 * 1024

/-- The largest number of entries that a batch may be allowed. -/
def operationsLimit : Nat :=
  100000

/-- What the command around the entries may take. -/
def headroom : Nat :=
  1024 * 1024

/-- The largest number of bytes that a batch may be allowed. -/
def bytesLimit : Nat :=
  maxDocumentSize - headroom

/-- The first objection to the settings, if there is one. -/
def problem? (s : ReplaySettings) : Option SettingsProblem :=
  if s.maxBatchOperations = 0 ∨ operationsLimit < s.maxBatchOperations then
    some (.batchOperations operationsLimit s.maxBatchOperations)
  else if s.maxBatchBytes = 0 ∨ bytesLimit < s.maxBatchBytes then
    some (.batchBytes bytesLimit s.maxBatchBytes)
  else none

end ReplaySettings

/-- An objection is a fault. -/
def SettingsProblem.check : Option SettingsProblem → Except Fault Unit
  | none => .ok ()
  | some problem => .error (.settings problem)

def SessionSettings.validate (s : SessionSettings) : Except Fault Unit :=
  SettingsProblem.check s.problem?

def ReplaySettings.validate (s : ReplaySettings) : Except Fault Unit :=
  SettingsProblem.check s.problem?

namespace Settings

def standard : Settings where
  session := .standard
  replay := .standard

def testing : Settings where
  session := .testing
  replay := .standard

/-- Both parts are in order; the first objection is reported. -/
def validate (s : Settings) : Except Fault Unit := do
  s.session.validate
  s.replay.validate

end Settings

theorem ReplaySettings.bounds_of_validate {s : ReplaySettings} (valid : s.validate = .ok ()) :
    0 < s.maxBatchOperations ∧ s.maxBatchOperations ≤ operationsLimit ∧
      0 < s.maxBatchBytes ∧ s.maxBatchBytes ≤ bytesLimit := by
  unfold validate problem? at valid
  split at valid
  · cases valid
  · split at valid
    · cases valid
    · omega

end LogReplay
