/-
Module: LogReplay.Session.Asking
Purpose: Questions that change nothing, and what a listing of collections says of a
  collection.
Main exports:
  CollectionInfo, CollectionInfo.ofDocument?, CollectionInfo.ofListing,
  Session.collectionInfo, Session.buildInfo
-/
import LogReplay.Reply.BuildInfo
import LogReplay.Session.Retrying

namespace LogReplay

open Bson

/-- A collection or view, as a listing describes it. -/
structure CollectionInfo where
  name : String
  /-- `collection` or `view`. -/
  kind : String
  options : Document
  identifier : Option Binary
deriving DecidableEq

namespace CollectionInfo

/-- The identifier that is kept apart from the options. -/
def identifier? (d : Document) : Option Binary :=
  match d.fields? "info" with
  | .ok info =>
      match Document.field? info "uuid" with
      | some (.binary b) => some b
      | _ => none
  | .error _ => none

/-- Reads a description; the name is all it needs to have. -/
def ofDocument? (d : Document) : Option CollectionInfo :=
  (d.text? "name").map fun name =>
    { name
      kind := (d.text? "type").getD "collection"
      options :=
        match d.fields? "options" with
        | .ok options => options
        | .error _ => []
      identifier := identifier? d }

def isView (info : CollectionInfo) : Bool :=
  info.kind == "view"

/-- The descriptions in the first batch of a listing. -/
def batch (reply : Document) : Except FieldProblem (List Value) := do
  let cursor ← reply.fields? "cursor"
  Document.items cursor "firstBatch"

/-- The first collection of a listing. -/
def ofListing (reply : Document) : Except Failure (Option CollectionInfo) :=
  match batch reply with
  | .ok items => .ok ((items.head?.bind Value.document?).bind ofDocument?)
  | .error problem =>
      .error (.message ("malformed listCollections reply: " ++ problem.message))

end CollectionInfo

namespace Session

variable {σ : Type}

/-- The command that lists a collection. -/
def listCommand (ns : Namespace) : Document :=
  [("listCollections", .int32 1), ("filter", .document [("name", .string ns.collection)])]

/-- What the destination says of a collection, if it exists. -/
def collectionInfo (s : Session σ) (ns : Namespace) :
    Act (World σ) Fault (Option CollectionInfo) :=
  s.retryingWrite "listCollections" fun _ => do
    let reply ← s.send ns.database (listCommand ns)
    Act.ofExcept (CollectionInfo.ofListing reply)

/-- The version of the destination. -/
def buildInfo (s : Session σ) : Act (World σ) Fault BuildInfo :=
  s.retryingRead "buildInfo" fun _ => do
    let reply ← s.send "admin" [("buildInfo", .int32 1)]
    pure (.ofDocument reply)

end Session

end LogReplay
