/-
Module: LogReplay.Proofs.Transaction.Placing
Purpose: The table by which entries are placed, and all that placing looks at.
Main exports:
  TakesPart, Row, Refused, Alike, Placement.ofEntry_congr, Placement.follows_table
-/
import LogReplay.Transaction.Placement

/-!
An entry takes part in a transaction if it is a command of one of three names, with a
session id and a number.  Its command, its link to an earlier entry and two flags then select
a row of the table, and the row has the role.  Everything else is placed outside of all
transactions.

Only an entry that takes part can be refused: for a session id without a byte form, or for
a flag of an `applyOps` entry that is neither null nor a truth value.  The session id is
looked at first, and the flags in their order.

Two entries that are alike in what the table mentions have the same place, whatever else is in
them.
-/

namespace LogReplay.Transaction

open Bson

/-! ## What the table mentions -/

def transactionCommands : List String :=
  ["applyOps", "commitTransaction", "abortTransaction"]

/-- The entry is a command of a transaction, with a session id and a number. -/
structure TakesPart (e : Entry) (command : String) (session : Document) (number : Int64) :
    Prop where
  operation : e.operation = "c"
  named : e.commandName? = some command
  known : command ∈ transactionCommands
  session : e.session = some session
  number : e.transactionNumber = some number

/-- There is a link, and it has a timestamp.  The term does not matter. -/
def IsLinked (e : Entry) : Prop :=
  ∃ link, e.previous = some link ∧ link.timestamp ≠ .zero

/-- A flag says that more is to come before the commit. -/
def IsUnfinished (e : Entry) : Prop :=
  e.body.field? "partialTxn" = some (.boolean true) ∨
    e.body.field? "prepare" = some (.boolean true)

/-- The flag is there with a value of this kind, which is neither null nor a truth value. -/
def Garbles (e : Entry) (flag : String) (found : Kind) : Prop :=
  ∃ value, e.body.field? flag = some value ∧ value.kind = found ∧
    found ≠ .null ∧ found ≠ .boolean

/-- The rows of the table. -/
inductive Row (e : Entry) : (command : String) → Role → Prop where
  | single (first : ¬ IsLinked e) (finished : ¬ IsUnfinished e) : Row e "applyOps" .single
  | firstOfMany (first : ¬ IsLinked e) (unfinished : IsUnfinished e) :
      Row e "applyOps" .firstOfMany
  | continuation (linked : IsLinked e) (unfinished : IsUnfinished e) :
      Row e "applyOps" .continuation
  | lastOfMany (linked : IsLinked e) (finished : ¬ IsUnfinished e) :
      Row e "applyOps" .finalCommit
  | commit : Row e "commitTransaction" .finalCommit
  | abort : Row e "abortTransaction" .finalAbort

/-- Why an entry that takes part is refused: the first problem that it has. -/
inductive Refused (e : Entry) : Fault → Prop where
  | session {command : String} {session : Document} {number : Int64}
      (part : TakesPart e command session number) (formless : session.isEncodable = false) :
      Refused e (.malformed .session)
  | partialFlag {session : Document} {number : Int64} {found : Kind}
      (part : TakesPart e "applyOps" session number) (encodable : session.isEncodable = true)
      (garbles : Garbles e "partialTxn" found) :
      Refused e (.malformed (.flag "partialTxn" found))
  | preparedFlag {session : Document} {number : Int64} {found : Kind}
      (part : TakesPart e "applyOps" session number) (encodable : session.isEncodable = true)
      (clear : ∀ found, ¬ Garbles e "partialTxn" found) (garbles : Garbles e "prepare" found) :
      Refused e (.malformed (.flag "prepare" found))

/-! ## Reading links and flags -/

section

variable {e : Entry} {key : String}

theorem hasPrevious_eq_true_iff : e.hasPrevious = true ↔ IsLinked e := by
  rw [Entry.hasPrevious, IsLinked]
  cases e.previous with
  | none => simp
  | some link => simp [BackLink.isEmpty, Timestamp.isZero]

/-- A flag is refused exactly if it is garbled, by its name and kind. -/
theorem readFlag_eq_error_iff {fault : Fault} :
    readFlag e.body key = .error fault ↔
      ∃ found, Garbles e key found ∧ .malformed (.flag key found) = fault := by
  unfold readFlag Garbles
  cases e.body.field? key with
  | none => simp
  | some value => cases value <;> simp [Value.kind, and_assoc]

/-- A flag that is not garbled is true only where it says so. -/
theorem readFlag_eq_ok_iff {flag : Bool} :
    readFlag e.body key = .ok flag ↔
      (∀ found, ¬ Garbles e key found) ∧
        (flag = true ↔ e.body.field? key = some (.boolean true)) := by
  unfold readFlag Garbles
  cases e.body.field? key with
  | none => cases flag <;> simp
  | some value => cases value <;> cases flag <;> simp [Value.kind]

theorem exists_readFlag_of_clear (clear : ∀ found, ¬ Garbles e key found) :
    ∃ flag, readFlag e.body key = .ok flag := by
  cases read : readFlag e.body key with
  | ok flag => exact ⟨flag, rfl⟩
  | error fault =>
      obtain ⟨found, garbles, -⟩ := readFlag_eq_error_iff.mp read
      exact absurd garbles (clear found)

end

/-! ## Entries that take part -/

theorem exists_ofName?_iff {name : String} :
    (∃ command, Command.ofName? name = some command) ↔ name ∈ transactionCommands := by
  simp only [Command.ofName?, transactionCommands, List.mem_cons, List.not_mem_nil, or_false]
  split
  · simp [*]
  split
  · simp [*]
  split <;> simp [*]

section

variable {e : Entry} {name : String} {session : Document} {number : Int64}

theorem TakesPart.command?_eq (part : TakesPart e name session number) {command : Command}
    (known : Command.ofName? name = some command) : Placement.command? e = some command := by
  rw [Placement.command?, Entry.isCommand, part.operation, if_pos (by rfl), part.named]
  exact known

/-- Without a byte form of the session id the command does not matter. -/
theorem TakesPart.ofEntry_of_formless (part : TakesPart e name session number)
    (formless : session.isEncodable = false) :
    Placement.ofEntry e = .error (.malformed .session) := by
  obtain ⟨command, known⟩ := exists_ofName?_iff.mpr part.known
  have refused : Identity.ofSession session number = .error (.malformed .session) := by
    rw [Identity.ofSession, formless]
    rfl
  rw [Placement.ofEntry, part.command?_eq known, part.session, part.number]
  dsimp only
  rw [refused]
  rfl

theorem ofSession_of_encodable (encodable : session.isEncodable = true) :
    Identity.ofSession session number = .ok ⟨session.encode, number⟩ := by
  rw [Identity.ofSession, if_pos encodable]

theorem TakesPart.ofEntry_applyOps (part : TakesPart e "applyOps" session number)
    (encodable : session.isEncodable = true) :
    Placement.ofEntry e =
      (readFlag e.body "partialTxn").bind fun isPartial =>
        (readFlag e.body "prepare").map fun isPrepared =>
          .ofApplyOps ⟨session.encode, number⟩ e.hasPrevious (isPartial || isPrepared) := by
  rw [Placement.ofEntry, part.command?_eq (by rfl : _ = some .applyOps), part.session, part.number]
  dsimp only
  rw [ofSession_of_encodable encodable]
  rfl

/-- What becomes of an `applyOps` entry with a session id that has a byte form: the first flag
that is garbled is refused, and otherwise the flags are read. -/
theorem TakesPart.applyOps_cases (part : TakesPart e "applyOps" session number)
    (encodable : session.isEncodable = true) :
    (∃ found, Garbles e "partialTxn" found ∧
      Placement.ofEntry e = .error (.malformed (.flag "partialTxn" found))) ∨
    ((∀ found, ¬ Garbles e "partialTxn" found) ∧ ∃ found, Garbles e "prepare" found ∧
      Placement.ofEntry e = .error (.malformed (.flag "prepare" found))) ∨
    ∃ unfinished, (unfinished = true ↔ IsUnfinished e) ∧
      Placement.ofEntry e =
        .ok (.ofApplyOps ⟨session.encode, number⟩ e.hasPrevious unfinished) := by
  rw [part.ofEntry_applyOps encodable]
  cases first : readFlag e.body "partialTxn" with
  | error fault =>
      obtain ⟨found, garbles, rfl⟩ := readFlag_eq_error_iff.mp first
      exact .inl ⟨found, garbles, rfl⟩
  | ok isPartial =>
      have partly := readFlag_eq_ok_iff.mp first
      cases second : readFlag e.body "prepare" with
      | error fault =>
          obtain ⟨found, garbles, rfl⟩ := readFlag_eq_error_iff.mp second
          exact .inr (.inl ⟨partly.1, found, garbles, rfl⟩)
      | ok isPrepared =>
          refine .inr (.inr ⟨isPartial || isPrepared, ?_, rfl⟩)
          rw [Bool.or_eq_true, partly.2, (readFlag_eq_ok_iff.mp second).2, IsUnfinished]

theorem TakesPart.ofEntry_commit (part : TakesPart e "commitTransaction" session number)
    (encodable : session.isEncodable = true) :
    Placement.ofEntry e = .ok ⟨⟨session.encode, number⟩, .finalCommit, e.hasPrevious⟩ := by
  rw [Placement.ofEntry, part.command?_eq (by rfl : _ = some .commit), part.session, part.number]
  dsimp only
  rw [ofSession_of_encodable encodable]
  rfl

theorem TakesPart.ofEntry_abort (part : TakesPart e "abortTransaction" session number)
    (encodable : session.isEncodable = true) :
    Placement.ofEntry e = .ok ⟨⟨session.encode, number⟩, .finalAbort, e.hasPrevious⟩ := by
  rw [Placement.ofEntry, part.command?_eq (by rfl : _ = some .abort), part.session, part.number]
  dsimp only
  rw [ofSession_of_encodable encodable]
  rfl

/-- Whatever does not take part is outside. -/
theorem takesPart_or_outside (e : Entry) :
    (∃ name session number, TakesPart e name session number) ∨
      Placement.ofEntry e = .ok .outside := by
  rw [Placement.ofEntry]
  split
  · next command session number isCommand known numbered =>
    left
    rw [Placement.command?] at isCommand
    split at isCommand
    · next operation =>
      obtain ⟨name, named, isKnown⟩ := Option.bind_eq_some_iff.mp isCommand
      exact ⟨name, session, number, eq_of_beq operation, named,
        exists_ofName?_iff.mp ⟨command, isKnown⟩, known, numbered⟩
    · cases isCommand
  · exact .inr rfl

theorem TakesPart.name_eq (part : TakesPart e name session number) :
    name = "applyOps" ∨ name = "commitTransaction" ∨ name = "abortTransaction" := by
  have known := part.known
  simpa only [transactionCommands, List.mem_cons, List.not_mem_nil, or_false] using known

/-! ## Refusals -/

/-- An entry is refused for the first problem that it has, if it takes part. -/
theorem ofEntry_eq_error_iff {fault : Fault} :
    Placement.ofEntry e = .error fault ↔ Refused e fault := by
  constructor
  · intro failed
    rcases takesPart_or_outside e with ⟨name, session, number, part⟩ | outside
    · cases encodable : session.isEncodable with
      | false =>
          rw [part.ofEntry_of_formless encodable] at failed
          cases failed
          exact .session part encodable
      | true =>
          rcases part.name_eq with rfl | rfl | rfl
          · rcases part.applyOps_cases encodable with
              ⟨_, garbles, ends⟩ | ⟨clear, _, garbles, ends⟩ | ⟨_, -, ends⟩ <;>
              rw [ends] at failed <;> cases failed
            · exact .partialFlag part encodable garbles
            · exact .preparedFlag part encodable clear garbles
          · rw [part.ofEntry_commit encodable] at failed
            cases failed
          · rw [part.ofEntry_abort encodable] at failed
            cases failed
    · rw [outside] at failed
      cases failed
  · intro refused
    cases refused with
    | session part formless => exact part.ofEntry_of_formless formless
    | partialFlag part encodable garbles =>
        rw [part.ofEntry_applyOps encodable, readFlag_eq_error_iff.mpr ⟨_, garbles, rfl⟩]
        rfl
    | preparedFlag part encodable clear garbles =>
        obtain ⟨isPartial, first⟩ := exists_readFlag_of_clear clear
        rw [part.ofEntry_applyOps encodable, first,
          readFlag_eq_error_iff.mpr ⟨_, garbles, rfl⟩]
        rfl

/-- Refusals are of two kinds. -/
theorem exists_refused_iff :
    (∃ fault, Refused e fault) ↔
      ∃ command session number, TakesPart e command session number ∧
        (session.isEncodable = false ∨ command = "applyOps" ∧
          ∃ flag ∈ ["partialTxn", "prepare"], ∃ found, Garbles e flag found) := by
  constructor
  · rintro ⟨fault, refused⟩
    cases refused with
    | session part formless => exact ⟨_, _, _, part, .inl formless⟩
    | partialFlag part _ garbles =>
        exact ⟨_, _, _, part, .inr ⟨rfl, _, List.mem_cons_self, _, garbles⟩⟩
    | preparedFlag part _ _ garbles =>
        exact ⟨_, _, _, part,
          .inr ⟨rfl, _, List.mem_cons_of_mem _ List.mem_cons_self, _, garbles⟩⟩
  · rintro ⟨command, session, number, part, formless | ⟨rfl, flag, member, found, garbles⟩⟩
    · exact ⟨_, .session part formless⟩
    cases encodable : session.isEncodable with
    | false => exact ⟨_, .session part encodable⟩
    | true =>
        by_cases clear : ∃ found, Garbles e "partialTxn" found
        · obtain ⟨found, garbles⟩ := clear
          exact ⟨_, .partialFlag part encodable garbles⟩
        · rw [not_exists] at clear
          rw [List.mem_cons, List.mem_singleton] at member
          rcases member with rfl | rfl
          · exact absurd garbles (clear found)
          · exact ⟨_, .preparedFlag part encodable clear garbles⟩

/-! ## Places -/

/-- Where an entry that takes part and is not refused stands. -/
structure Stands (e : Entry) (command : String) (session : Document) (number : Int64)
    (p : Placement) : Prop where
  row : Row e command p.role
  identity : p.identity = ⟨session.encode, number⟩
  spans : p.spansEntries = true ↔ IsLinked e ∨ command = "applyOps" ∧ IsUnfinished e

theorem stands_ofApplyOps {linked unfinished : Bool} (isLinked : linked = true ↔ IsLinked e)
    (isUnfinished : unfinished = true ↔ IsUnfinished e) :
    Stands e "applyOps" session number
      (.ofApplyOps ⟨session.encode, number⟩ linked unfinished) := by
  cases linked <;> cases unfinished
  all_goals
    simp only [Bool.false_eq_true, false_iff, true_iff] at isLinked isUnfinished
  · exact ⟨.single isLinked isUnfinished, rfl, by simp [Placement.ofApplyOps, *]⟩
  · exact ⟨.firstOfMany isLinked isUnfinished, rfl, by simp [Placement.ofApplyOps, *]⟩
  · exact ⟨.lastOfMany isLinked isUnfinished, rfl, by simp [Placement.ofApplyOps, *]⟩
  · exact ⟨.continuation isLinked isUnfinished, rfl, by simp [Placement.ofApplyOps, *]⟩

theorem TakesPart.stands {p : Placement} (part : TakesPart e name session number)
    (placed : Placement.ofEntry e = .ok p) : Stands e name session number p := by
  have encodable : session.isEncodable = true := by
    cases formless : session.isEncodable with
    | true => rfl
    | false =>
        rw [part.ofEntry_of_formless formless] at placed
        cases placed
  rcases part.name_eq with rfl | rfl | rfl
  · rcases part.applyOps_cases encodable with
      ⟨_, -, ends⟩ | ⟨-, _, -, ends⟩ | ⟨unfinished, isUnfinished, ends⟩ <;>
      rw [ends] at placed <;> cases placed
    exact stands_ofApplyOps hasPrevious_eq_true_iff isUnfinished
  · rw [part.ofEntry_commit encodable] at placed
    cases placed
    exact ⟨.commit, rfl, by simp [hasPrevious_eq_true_iff]⟩
  · rw [part.ofEntry_abort encodable] at placed
    cases placed
    exact ⟨.abort, rfl, by simp [hasPrevious_eq_true_iff]⟩

end

/-! ## What placing looks at -/

/-- Two entries agree in all that the table mentions.  A flag that is missing reads like one
that is null or false. -/
structure Alike (e f : Entry) : Prop where
  operation : e.operation = f.operation
  command : e.commandName? = f.commandName?
  partialFlag : readFlag e.body "partialTxn" = readFlag f.body "partialTxn"
  preparedFlag : readFlag e.body "prepare" = readFlag f.body "prepare"
  session : e.session = f.session
  number : e.transactionNumber = f.transactionNumber
  linked : IsLinked e ↔ IsLinked f

theorem Placement.ofEntry_congr {e f : Entry} (alike : Alike e f) : ofEntry e = ofEntry f := by
  have commands : command? e = command? f := by
    rw [command?, command?, Entry.isCommand, Entry.isCommand, alike.operation, alike.command]
  have links : e.hasPrevious = f.hasPrevious := by
    rw [Bool.eq_iff_iff, hasPrevious_eq_true_iff, hasPrevious_eq_true_iff]
    exact alike.linked
  simp only [ofEntry, commands, alike.session, alike.number, alike.partialFlag,
    alike.preparedFlag, links]

/-- All the questions that can be asked of a place, answered. -/
def Placement.answers (p : Placement) : List Bool :=
  [p.isTransactional, p.spansEntries, p.isFirst, p.isFinal, p.isCommit, p.isAbort]

/-- An entry is placed as the table says, or refused. -/
structure FollowsTable (e : Entry) : Prop where
  fails_iff : (∃ fault, Placement.ofEntry e = .error fault) ↔
    ∃ command session number, TakesPart e command session number ∧
      (session.isEncodable = false ∨ command = "applyOps" ∧
        ∃ flag ∈ ["partialTxn", "prepare"], ∃ found, Garbles e flag found)
  refused : ∀ fault, Placement.ofEntry e = .error fault ↔ Refused e fault
  /-- Without one of the conditions there is no transaction, and nothing is true of it. -/
  outside :
    (e.operation ≠ "c" ∨ (∀ command ∈ transactionCommands, e.commandName? ≠ some command) ∨
      e.session = none ∨ e.transactionNumber = none) →
    ∃ p, Placement.ofEntry e = .ok p ∧ p.role = .outside ∧ p.identity = ⟨[], 0⟩ ∧
      true ∉ p.answers
  inside : ∀ command session number p, TakesPart e command session number →
    Placement.ofEntry e = .ok p → Stands e command session number p
  /-- Nothing else is looked at. -/
  alike : ∀ f, Alike e f → Placement.ofEntry f = Placement.ofEntry e

/-- Placing an entry is looking it up in the table. -/
theorem Placement.follows_table (e : Entry) : FollowsTable e where
  fails_iff := by
    rw [← exists_refused_iff]
    exact exists_congr fun fault => ofEntry_eq_error_iff
  refused := fun fault => ofEntry_eq_error_iff
  outside := by
    intro missing
    rcases takesPart_or_outside e with ⟨name, session, number, part⟩ | placed
    · rcases missing with operation | unknown | sessionless | numberless
      · exact absurd part.operation operation
      · exact absurd part.named (unknown name part.known)
      · exact nomatch part.session.symm.trans sessionless
      · exact nomatch part.number.symm.trans numberless
    · exact ⟨_, placed, rfl, rfl, by decide⟩
  inside := fun _ _ _ _ part placed => part.stands placed
  alike := fun _ alike => (ofEntry_congr alike).symm

end LogReplay.Transaction
