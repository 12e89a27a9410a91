/-
Module: LogReplay.Failure.Category
Purpose: What a failure means for the command that met it.
Main exports:
  Failure.code, Failure.isReconnectable, Failure.isNetwork, Failure.isDuplicateKey,
  Failure.Category, Failure.category
-/
import LogReplay.Failure

/-!
A failure is read in two steps.  First its code: that of the error itself, or
for a composite failure the code of its first write error, and of its write
concern error if there is no write error; `0` stands for "no code".  Then the
code, or the label, connection or text where there is no code, decides the
category.

The category that matters most is `reconnectable`: the primary has stepped down,
a server shuts down or a connection is lost, so the outcome of the command is
unknown and the command is worth another attempt.
-/

namespace LogReplay.Text

/-- `pattern` stands somewhere in the letters. -/
def occursInLetters (pattern : List Char) : List Char → Bool
  | [] => pattern.isEmpty
  | c :: rest => pattern.isPrefixOf (c :: rest) || occursInLetters pattern rest

/-- `pattern` stands somewhere in `text`. -/
def occursIn (pattern text : String) : Bool :=
  occursInLetters pattern.toList text.toList

/-- `pattern` stands at the end of `text`. -/
def endsWith (pattern text : String) : Bool :=
  pattern.toList.isSuffixOf text.toList

theorem occursInLetters_iff (pattern letters : List Char) :
    occursInLetters pattern letters = true ↔ pattern <:+: letters := by
  induction letters with
  | nil => simp [occursInLetters, List.isEmpty_iff]
  | cons c rest ih =>
      simp only [occursInLetters, Bool.or_eq_true, List.isPrefixOf_iff_prefix, ih,
        List.infix_cons_iff]

theorem occursIn_iff (pattern text : String) :
    occursIn pattern text = true ↔ pattern.toList <:+: text.toList :=
  occursInLetters_iff _ _

/-- A longer text still holds what it is made from. -/
theorem occursIn_append {pattern middle : String} (before after : String)
    (occurs : occursIn pattern middle = true) :
    occursIn pattern (before ++ middle ++ after) = true := by
  rw [occursIn_iff] at occurs ⊢
  simpa [List.append_assoc] using
    occurs.trans (List.infix_append before.toList middle.toList after.toList)

end LogReplay.Text

namespace LogReplay.Failure

open Text (occursIn endsWith)

/-- The code of the first write error, or else of the write concern error. -/
def partsCode (writes : List WriteError) (concern : Option WriteConcernError) : Int32 :=
  match writes, concern with
  | first :: _, _ => first.code
  | [], some e => e.code
  | [], none => 0

/-- The first code found in a failure; `0` if there is none. -/
def code : Failure → Int32
  | .command e => e.code
  | .write e => e.code
  | .writeConcern e => e.code
  | .writeException writes concern => partsCode writes concern
  | .bulkWriteException writes concern => partsCode writes concern
  | .transport _ _ => 0
  | .message _ => 0

/-- Codes of a primary that steps down or shuts down, of a lost network, and of a
read that a change of state among the replicas has killed. -/
def reconnectableCodes : List Int32 :=
  [10107, 13435, 13436, 64, 6, 7, 89, 9001, 91, 189, 11600, 11601, 11602, 136, 175]

def duplicateKeyCodes : List Int32 :=
  [11000, 11001, 12582]

/-- A connection failed: reported by the transport, by a label, or in words. -/
def isNetwork : Failure → Bool
  | .transport _ _ => true
  | .command e => e.hasLabel "NetworkError"
  | .message words =>
      words == "no reachable servers" || words == "Closed explicitly" ||
        words == "connection closed"
  | _ => false

def isWriteConcern : Failure → Bool
  | .writeConcern _ => true
  | _ => false

/-- Another attempt may succeed.  Every unmet write concern is of this kind, and
so is a "not master" that comes without a code. -/
def isReconnectable (f : Failure) : Bool :=
  f.isWriteConcern || reconnectableCodes.contains f.code ||
    (f.code == 0 && occursIn "not master" f.text) || f.isNetwork

/-- Some document has a key that is taken. -/
def isDuplicateKey : Failure → Bool
  | .command e => duplicateKeyCodes.contains e.code
  | .write e => duplicateKeyCodes.contains e.code
  | .writeException writes _ => writes.any fun e => duplicateKeyCodes.contains e.code
  | .bulkWriteException writes _ => writes.any fun e => duplicateKeyCodes.contains e.code
  | _ => false

/-- A command error with exactly this code. -/
def isCommandWithCode (expected : Int32) : Failure → Bool
  | .command e => e.code == expected
  | _ => false

def isNamespaceMissing : Failure → Bool :=
  isCommandWithCode 26

def isNamespaceExists : Failure → Bool :=
  isCommandWithCode 48

def isInvalidIndexOption : Failure → Bool :=
  isCommandWithCode 197

def isCannotCreateIndex : Failure → Bool :=
  isCommandWithCode 67

def isUnauthorized : Failure → Bool :=
  isCommandWithCode 13

def isUserNotFound : Failure → Bool :=
  isCommandWithCode 11

/-- The command does not work on views. -/
def isViewError : Failure → Bool :=
  isCommandWithCode 166

def isInvalidOptions : Failure → Bool :=
  isCommandWithCode 72

/-- The database does not know the command. -/
def isCommandNotFound : Failure → Bool
  | .command e => e.code == 59 || e.code == 13390 || occursIn "no such cmd" e.message
  | _ => false

def isCursorNotFound (f : Failure) : Bool :=
  f.code == 43 || occursIn "cursor not found" f.text

/-- The planner refused a hint. -/
def isBadHint : Failure → Bool
  | .command e => e.code == 17007 || (e.code == 2 && occursIn "bad hint" e.message)
  | _ => false

/-- Phrases that report a lost connection without a code. -/
def connectionPhrases : List String :=
  ["waiting for replication timed out",
   "could not contact primary for replica set",
   "write results unavailable from",
   "could not find host matching read preference \x7b mode: \"primary\"",
   "unable to target"]

/-- A text that speaks of a lost connection rather than of a refused write, in
letters of any case.  The phrases are plain ASCII, and no other letter has one of
theirs as its lower case form. -/
def isConnectionText (text : String) : Bool :=
  let lower := String.ofList (text.toList.map Char.toLower)
  lower == "no reachable servers" || lower == "not master" ||
    connectionPhrases.any (fun phrase => occursIn phrase lower) ||
    endsWith "connection refused" lower

def isConnectionError (f : Failure) : Bool :=
  match f with
  | .transport .endOfStream _ => true
  | f => isConnectionText f.text

/-- What a failure means. -/
inductive Category where
  | reconnectable
  | duplicateKey
  | namespaceExists
  | namespaceMissing
  | invalidIndexOption
  | cannotCreateIndex
  | other
deriving DecidableEq, Repr

def Category.name : Category → String
  | .reconnectable => "reconnectable"
  | .duplicateKey => "duplicate_key"
  | .namespaceExists => "namespace_exists"
  | .namespaceMissing => "namespace_missing"
  | .invalidIndexOption => "invalid_index_option"
  | .cannotCreateIndex => "cannot_create_index"
  | .other => "other"

/-- A failure that can be retried is that before anything else, because the next
attempt answers all other questions anew. -/
def category (f : Failure) : Category :=
  if f.isReconnectable then .reconnectable
  else if f.isDuplicateKey then .duplicateKey
  else if f.isNamespaceExists then .namespaceExists
  else if f.isNamespaceMissing then .namespaceMissing
  else if f.isInvalidIndexOption then .invalidIndexOption
  else if f.isCannotCreateIndex then .cannotCreateIndex
  else .other

theorem category_eq_reconnectable_iff (f : Failure) :
    f.category = .reconnectable ↔ f.isReconnectable = true := by
  constructor
  · intro h
    unfold category at h
    split at h
    · assumption
    · repeat' split at h
      all_goals simp at h
  · intro h
    simp [category, h]

end LogReplay.Failure
