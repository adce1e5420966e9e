import DiveSchool.Database.Tables

/-!
# `DiveSchool.Database.Session` — statements and transactions

A statement is carried out as a whole or refused; a refused one changes no row. A transaction keeps its
changes only if its commit is carried out: whatever ends it otherwise, the rows are as they were before
it began.

## Contents
- **State.** `StatementKind`, `Schema` and `Database`.
- **Statements.** `Database.carryOut`.
- **Sessions.** `Session`, statements in sequence until one fails; `Session.statement`, `Session.read`.
- **Transactions.** `Ending` and `Session.transaction`.
-/

namespace DiveSchool

/-! ## State -/

/-- What sort of statement it is. -/
inductive StatementKind where
  | start
  | setTimeout
  | lock
  | select
  | insert
  | update
  | commit
  | bookingInsert
  | bookingSelect
  | bookingDelete
  deriving DecidableEq, Repr, Inhabited

/-- Whether a statement works on a table. -/
def StatementKind.needsTables : StatementKind → Bool
  | start | setTimeout | commit => false
  | _ => true

/-- Whether the tables exist, and whether it is on record that the migrations made them. -/
structure Schema where
  exists? : Bool := true
  recorded : Bool := false
  deriving DecidableEq, Repr, Inhabited

/-- A database as one session sees it. -/
structure Database where
  tables : Tables
  schema : Schema := {}
  /-- The offerings whose rows another session has locked. -/
  locked : List OfferingId := []
  /-- The statements that will fail and with which state, the next ones first. -/
  faults : List (StatementKind × String) := []
  isOpen : Bool := true

namespace Database

instance : Inhabited Database := ⟨{ tables := .empty }⟩

/-! ## Statements -/

/-- The state with which a statement is to fail, and the database with one such fault less. -/
def takeFault (kind : StatementKind) (db : Database) : Option (String × Database) :=
  (db.faults.find? (·.1 = kind)).map fun fault =>
    (fault.2, { db with faults := db.faults.eraseP (·.1 = kind) })

/-- Carry a statement out on the tables, or refuse it. -/
def carryOut {α : Type} (kind : StatementKind) (act : Tables → Except Refusal (α × Tables))
    (db : Database) : Except Refusal α × Database :=
  if !db.isOpen then (.error .closed, db)
  else match db.takeFault kind with
    | some (code, db) => (.error (.state code), db)
    | none =>
      if kind.needsTables && !db.schema.exists? then (.error .tableMissing, db)
      else match act db.tables with
        | .error refusal => (.error refusal, db)
        | .ok (a, tables) => (.ok a, { db with tables })

end Database

/-! ## Sessions -/

/-- Statements in sequence; the first failure ends it. -/
abbrev Session (α : Type) := ExceptT Failure (StateM Database) α

namespace Session

variable {α : Type}

/-- A refusal as a failure of the database. -/
def broken (context : String) (r : Refusal) : Failure := ⟨.database, context, some r.text⟩

/-- A refusal of a statement that waits for a lock: a time-out says that the database is busy. -/
def busyOrBroken (context : String) (r : Refusal) : Failure :=
  if r = .lockTimedOut then
    ⟨.serviceUnavailable, s!"{context}: lock wait timed out", some r.text⟩
  else broken context r

/-- Carry out a statement, and say what its refusal means. -/
def statement (kind : StatementKind) (failure : Refusal → Failure)
    (act : Tables → Except Refusal (α × Tables)) : Session α := fun db =>
  match db.carryOut kind act with
  | (.ok a, db) => (.ok a, db)
  | (.error refusal, db) => (.error (failure refusal), db)

/-- Carry out a statement that only reads. -/
def read (kind : StatementKind) (context : String) (view : Tables → α) : Session α :=
  statement kind (broken context) fun t => .ok (view t, t)

/-- A statement on the session itself. -/
def control (kind : StatementKind) (failure : Refusal → Failure) : Session Unit :=
  statement kind failure fun t => .ok ((), t)

/-! ## Transactions -/

/-- How the work of a transaction ends when no statement failed. -/
inductive Ending (α : Type) where
  /-- Keep the changes. -/
  | keep (a : α)
  /-- Leave without a commit. -/
  | leave (a : α)

/-- The transaction could not be started. -/
def notStarted (r : Refusal) : Failure :=
  ⟨.serviceUnavailable, "Failed to start transaction", some r.text⟩

/-- Put the rows back as they were. -/
def restored (before after : Database) : Database := { after with tables := before.tables }

/-- Finish the work of a transaction that began on `before`. -/
def finish (before : Database) (work : Session (Ending α)) : Session α := fun db =>
  match work db with
  | (.error failure, after) => (.error failure, restored before after)
  | (.ok (.leave a), after) => (.ok a, restored before after)
  | (.ok (.keep a), after) =>
    match control .commit (broken "Failed to commit transaction") after with
    | (.ok (), after) => (.ok a, after)
    | (.error failure, after) => (.error failure, restored before after)

/-- Work in a transaction with a bounded wait for locks. -/
def transaction (work : Session (Ending α)) : Session α := fun before =>
  (do
    control .start notStarted
    finish before do
      control .setTimeout (broken "Failed to set lock timeout")
      work : Session α) before

end Session

end DiveSchool
