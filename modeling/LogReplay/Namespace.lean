/-
Module: LogReplay.Namespace
Purpose: The address of a collection: a database and a collection name.
Main exports:
  Namespace, Namespace.ofText, Namespace.text, Namespace.command
-/

/-!
A namespace is written `database.collection`.  Database names hold no dot, so
the first dot is the border and the collection may hold more of them.  A text
without a dot names a database with an empty collection, and a namespace with
an empty collection is written without a dot.
-/

namespace LogReplay

structure Namespace where
  database : String
  collection : String
deriving DecidableEq, Repr, Inhabited

namespace Namespace

/-- Splits at the first dot. -/
def ofText (text : String) : Namespace :=
  match text.toList.dropWhile (· ≠ '.') with
  | [] => ⟨text, ""⟩
  | _ :: rest => ⟨String.ofList (text.toList.takeWhile (· ≠ '.')), String.ofList rest⟩

def text (ns : Namespace) : String :=
  if ns.collection.isEmpty then ns.database
  else ns.database ++ "." ++ ns.collection

/-- The namespace in which commands on a database are logged. -/
def command (database : String) : Namespace :=
  ⟨database, "$cmd"⟩

/-- The collection that old databases kept their index specifications in. -/
def systemIndexes (database : String) : Namespace :=
  ⟨database, "system.indexes"⟩

/-- The stored functions of a database, a collection that cannot be dropped
under its own name. -/
def isStoredFunctions (ns : Namespace) : Bool :=
  ns.collection == "system.js"

theorem text_command (database : String) : (command database).text = database ++ ".$cmd" := by
  change database ++ "." ++ "$cmd" = _
  rw [String.append_assoc]
  rfl

theorem text_systemIndexes (database : String) :
    (systemIndexes database).text = database ++ ".system.indexes" := by
  change database ++ "." ++ "system.indexes" = _
  rw [String.append_assoc]
  rfl

end Namespace

end LogReplay
