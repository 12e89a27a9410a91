/-
Module: LogReplay.Transaction.Identity
Purpose: What makes two entries part of the same transaction.
Main exports:
  Identity, Identity.ofSession, Identity.text
-/
import LogReplay.Bson.Reading
import LogReplay.Bson.Text
import LogReplay.Fault

/-!
A transaction is known by the id of its session and its number within the
session.  The session id is kept as bytes, so that two identities are the same
exactly when their session ids are written alike: kinds, field order and every
bit of a double count.  The document is read back for display.
-/

namespace LogReplay.Transaction

open Bson (Document)

structure Identity where
  /-- The byte form of the session id; no bytes where there is no transaction. -/
  session : List UInt8
  number : Int64
deriving DecidableEq, Repr, Inhabited

namespace Identity

/-- The identity of entries that belong to no transaction. -/
def none : Identity :=
  ⟨[], 0⟩

def isNone (id : Identity) : Bool :=
  id.session.isEmpty && id.number == 0

/-- The identity of a numbered transaction, if its session id has a byte form. -/
def ofSession (session : Document) (number : Int64) : Except Fault Identity :=
  if session.isEncodable then .ok ⟨session.encode, number⟩
  else .error (.malformed .session)

/-- The session id as a document. -/
def session? (id : Identity) : Option Document :=
  if id.session.isEmpty then Option.none else Document.decode? id.session

def text (id : Identity) : String :=
  (match id.session? with
    | some session => Bson.Document.text session
    | Option.none => "<none>") ++ "#" ++ toString id.number.toInt

/-- A session id takes at least five bytes, so no transaction is without identity. -/
theorem isNone_eq_false_of_ofSession {session : Document} {number : Int64} {id : Identity}
    (made : ofSession session number = .ok id) : id.isNone = false := by
  unfold ofSession at made
  split at made
  · cases made
    have nonempty : session.encode ≠ [] := by
      intro empty
      have size := Document.length_encode session
      simp [empty, Document.wireSize] at size
    simp [isNone, List.isEmpty_iff, nonempty]
  · cases made

end Identity

end LogReplay.Transaction
