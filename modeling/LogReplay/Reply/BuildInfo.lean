/-
Module: LogReplay.Reply.BuildInfo
Purpose: The version of a database, and whether it is recent enough.
Main exports:
  BuildInfo, BuildInfo.ofDocument, BuildInfo.isAtLeast
-/
import LogReplay.Number.Basic
import LogReplay.Reply.Lifting

/-!
A version is a list of numbers.  Where the reply has no such list, it is read from
the dotted text, up to the first part that is no number.
-/

namespace LogReplay

open Bson

structure BuildInfo where
  version : String
  numbers : List Int32
deriving DecidableEq, Repr

namespace BuildInfo

/-- The parts of a text between its dots. -/
def splitAtDots : List Char → List (List Char)
  | [] => [[]]
  | c :: rest =>
      if c = '.' then [] :: splitAtDots rest
      else
        match splitAtDots rest with
        | [] => [[c]]
        | part :: parts => (c :: part) :: parts

/-- A decimal number of 32 bits with an optional sign. -/
def number? (letters : List Char) : Option Int32 :=
  (Number.whole? letters).bind Number.int32?

/-- The leading parts that are numbers. -/
def leadingNumbers : List (List Char) → List Int32
  | [] => []
  | part :: rest =>
      match number? part with
      | some n => n :: leadingNumbers rest
      | none => []

def ofDocument (reply : Document) : BuildInfo :=
  let version := Reply.textAt reply "version"
  { version
    numbers :=
      match reply.items "versionArray" with
      | .ok parts => parts.filterMap Reply.int?
      | .error _ => leadingNumbers (splitAtDots version.toList) }

/-- The numbers reach the wanted ones: at the first difference they are greater, and
they do not end before the wanted ones do. -/
def reaches : List Int32 → List Int32 → Bool
  | _, [] => true
  | [], _ :: _ => false
  | found :: rest, want :: wants => if found = want then reaches rest wants else want < found

/-- The version is the wanted one or a later one. -/
def isAtLeast (info : BuildInfo) (target : List Int32) : Bool :=
  reaches info.numbers target

end BuildInfo

end LogReplay
