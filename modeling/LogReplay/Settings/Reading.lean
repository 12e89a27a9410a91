/-
Module: LogReplay.Settings.Reading
Purpose: Reading settings from JSON, with defaults for what is left out.
Main exports:
  Settings.ofText?, SessionSettings.ofJson?, ReplaySettings.ofJson?
-/
import LogReplay.Json
import LogReplay.Number.Basic
import LogReplay.Settings

/-!
A record is written as an object.  Fields that are not known are ignored; a known
one may not be repeated, nor be null, nor have another type.  A record may also be
written as the array of its values in the order of the fields, of which the last
ones may be left out.
-/

namespace LogReplay

namespace Json

/-- Numbers are kept below this bound. -/
def wordBound : Nat :=
  2 ^ 64

def natural? : Json → Option Nat
  | .natural n => if n < wordBound then some n else none
  | _ => none

def text? : Json → Option String
  | .string text => text
  | _ => none

def flag? : Json → Option Bool
  | .boolean flag => some flag
  | _ => none

/-- The value under a name. -/
def valueAt (name : String) : List (Option String × Json) → Option Json
  | [] => none
  | (other, value) :: rest => if other = some name then some value else valueAt name rest

/-- Every name is a text, and none of the known ones is repeated. -/
def namesAreSound (known : List String) (fields : List (Option String × Json)) : Bool :=
  fields.all (fun field => field.1.isSome) &&
    known.all fun name => (fields.map Prod.fst).count (some name) ≤ 1

/-- The value at the place that a name has among the known ones. -/
def valueInPlace (name : String) : (known : List String) → List Json → Option Json
  | _ :: _, [] => none
  | [], _ => none
  | other :: known, item :: items =>
      if other = name then some item else valueInPlace name known items

/-- The fields of a record. -/
def record? (known : List String) : Json → Option (String → Option Json)
  | .object fields =>
      if namesAreSound known fields then some fun name => valueAt name fields else none
  | .array items =>
      if items.length ≤ known.length then some fun name => valueInPlace name known items
      else none
  | _ => none

/-- A field that may be left out. -/
def field {α : Type} (values : String → Option Json) (name : String) (default : α)
    (read : Json → Option α) : Option α :=
  match values name with
  | none => some default
  | some value => read value

end Json

open Json (record? field natural? text? flag?)

/-- The names of the session settings, in order. -/
def SessionSettings.names : List String :=
  ["min_attempts", "min_reconnect_attempts", "min_retry_duration", "recover_sleep",
   "bypass_document_validation", "drop_pending_prefix", "destination_name", "noop_message"]

def SessionSettings.ofJson? (json : Json) : Option SessionSettings := do
  let values ← record? names json
  let minAttempts ← field values "min_attempts" standard.minAttempts natural?
  let minReconnectAttempts ←
    field values "min_reconnect_attempts" standard.minReconnectAttempts natural?
  let minRetryDuration ← field values "min_retry_duration" standard.minRetryDuration text?
  let recoverSleep ← field values "recover_sleep" standard.recoverSleep text?
  let bypassValidation ←
    field values "bypass_document_validation" standard.bypassValidation flag?
  let dropPendingPrefix ← field values "drop_pending_prefix" standard.dropPendingPrefix text?
  let destinationName ← field values "destination_name" standard.destinationName text?
  let noopMessage ← field values "noop_message" standard.noopMessage text?
  some
    { minAttempts, minReconnectAttempts, minRetryDuration, recoverSleep, bypassValidation,
      dropPendingPrefix, destinationName, noopMessage }

/-- The names of the replay settings, in order. -/
def ReplaySettings.names : List String :=
  ["max_batch_ops", "max_batch_bytes"]

def ReplaySettings.ofJson? (json : Json) : Option ReplaySettings := do
  let values ← record? names json
  let maxBatchOperations ← field values "max_batch_ops" standard.maxBatchOperations natural?
  let maxBatchBytes ← field values "max_batch_bytes" standard.maxBatchBytes natural?
  some { maxBatchOperations, maxBatchBytes }

def Settings.ofJson? (json : Json) : Option Settings := do
  let values ← record? ["executor", "replay"] json
  let session ← field values "executor" .standard SessionSettings.ofJson?
  let replay ← field values "replay" .standard ReplaySettings.ofJson?
  some { session, replay }

/-- Reads settings from a JSON text. -/
def Settings.ofText? (text : String) : Option Settings :=
  (Json.ofText? text).bind Settings.ofJson?

end LogReplay
