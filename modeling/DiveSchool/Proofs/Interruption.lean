import DiveSchool.Proofs.Session

/-!
# `DiveSchool.Proofs.Interruption` — sessions that any statement may break off

Nothing is assumed of the database here: statements may be made to fail, rows may be locked elsewhere, the
tables may be missing, and there may be no connection. Whether a statement will be refused can still be
read off the database beforehand, and a refusal changes no row and ends the session. So a session comes to
few things, and `Session.Ends` says which, again with one rule for each way to build a session.

## Contents
- **Refused statements.** `Database.refusal?` and `Database.rowRefusal?`.
- **Sessions.** `Session.Ends` and its rules; `ends_transaction`: the rows are kept or put back.
- **Locked rows.** One rule for the lock of a row, and one for writing it.
-/

namespace DiveSchool

/-! ## Refused statements -/

namespace Database

variable {α : Type} {db : Database} {id : OfferingId} {kind : StatementKind} {r : Refusal}

/-- Why a statement will be refused whatever it is to do: there is no connection, it is to fail, or it
    needs tables and there are none. -/
def refusal? (db : Database) (kind : StatementKind) : Option Refusal :=
  if !db.isOpen then some .closed
  else match db.faults.find? (·.1 = kind) with
    | some fault => some (.state fault.2)
    | none => if kind.needsTables && !db.schema.exists? then some .tableMissing else none

/-- Why a statement about the row of an offering will be refused: the lock also if another session has it. -/
def rowRefusal? (db : Database) (id : OfferingId) (kind : StatementKind) : Option Refusal :=
  match db.refusal? kind with
  | some r => some r
  | none =>
    if kind = .lock ∧ db.tables.offerings.contains id ∧ db.locked.contains id then some .lockTimedOut
    else none

/-- A statement that is refused changes no row. -/
theorem carryOut_of_refused (h : db.refusal? kind = some r) (act : Tables → Except Refusal (α × Tables)) :
    (db.carryOut kind act).1 = .error r ∧ (db.carryOut kind act).2.tables = db.tables := by
  unfold refusal? at h
  unfold carryOut takeFault
  cases hopen : db.isOpen with
  | false =>
      simp only [hopen, Bool.not_false, if_true, Option.some.injEq] at h
      simp [h]
  | true =>
      cases hfault : db.faults.find? (·.1 = kind) with
      | some fault =>
          simp only [hopen, hfault, Bool.not_true, Bool.false_eq_true, if_false, Option.some.injEq] at h
          simp [h]
      | none =>
          simp only [hopen, hfault, Bool.not_true, Bool.false_eq_true, if_false] at h
          split at h
          · next hmissing =>
              cases h
              simp [hmissing]
          · cases h

/-- A statement that is not refused is carried out, or refused by the constraints. -/
theorem carryOut_of_accepted (h : db.refusal? kind = none) (act : Tables → Except Refusal (α × Tables)) :
    db.carryOut kind act = match act db.tables with
      | .error refusal => (.error refusal, db)
      | .ok (a, t) => (.ok a, { db with tables := t }) := by
  unfold refusal? at h
  unfold carryOut takeFault
  cases hopen : db.isOpen with
  | false => simp [hopen] at h
  | true =>
      cases hfault : db.faults.find? (·.1 = kind) with
      | some fault => simp [hopen, hfault] at h
      | none =>
          simp only [hopen, hfault, Bool.not_true, Bool.false_eq_true, if_false] at h
          split at h
          · cases h
          · next hmade =>
              rcases act db.tables with refusal | ⟨a, t⟩
              · simp only [Option.map_none, hmade, Bool.not_true, Bool.false_eq_true, if_false]
              · simp only [Option.map_none, hmade, Bool.not_true, Bool.false_eq_true, if_false]

theorem rowRefusal?_of_refusal? (h : db.refusal? kind = some r) : db.rowRefusal? id kind = some r := by
  simp only [rowRefusal?, h]

theorem rowRefusal?_of_ne_lock (hkind : kind ≠ .lock) : db.rowRefusal? id kind = db.refusal? kind := by
  unfold rowRefusal?
  cases db.refusal? kind with
  | some r => rfl
  | none => simp [hkind]

end Database

/-! ## Sessions -/

namespace Session

variable {α β : Type} {db : Database} {Q : Except Failure α → Tables → Prop}

/-- On this database a session ends in a result and in tables that `Q` accepts. Unless it fails, nothing
    but the tables has changed. -/
def Ends (s : Session α) (Q : Except Failure α → Tables → Prop) (db : Database) : Prop :=
  Q (s db).1 (s db).2.tables ∧ ∀ a, (s db).1 = .ok a → (s db).2 = { db with tables := (s db).2.tables }

theorem Ends.of_eq {s : Session α} {x : Except Failure α} {t : Tables}
    (h : s db = (x, { db with tables := t })) (hQ : Q x t) : s.Ends Q db := by
  constructor
  · rw [h]
    exact hQ
  · intro a _
    rw [h]

theorem Ends.of_failed {s : Session α} {e : Failure} (h : (s db).1 = .error e)
    (hQ : Q (.error e) (s db).2.tables) : s.Ends Q db := by
  constructor
  · rw [h]
    exact hQ
  · intro a ha
    rw [h] at ha
    cases ha

theorem ends_pure {a : α} (h : Q (.ok a) db.tables) : (pure a : Session α).Ends Q db :=
  Ends.of_eq rfl h

/-- A check that does not concern the database. -/
theorem ends_lift {x : Except Failure α} (h : Q x db.tables) : (liftM x : Session α).Ends Q db := by
  cases x with
  | error e => exact Ends.of_failed rfl h
  | ok a => exact Ends.of_eq rfl h

/-- **One session after another**: a failure of the first ends both. -/
theorem ends_bind {s : Session β} {f : β → Session α}
    (h : s.Ends (fun x t => match x with
      | .ok b => (f b).Ends Q { db with tables := t }
      | .error e => Q (.error e) t) db) : (s >>= f).Ends Q db := by
  obtain ⟨hQ, hkept⟩ := h
  have hbind := bind_apply s f db
  rcases hs : s db with ⟨x, after⟩
  rw [hs] at hQ hkept hbind
  cases x with
  | error e =>
      refine Ends.of_failed (e := e) ?_ ?_
      · rw [hbind]
      · rw [hbind]
        exact hQ
  | ok b =>
      -- the second session starts where the first one has left off
      have hafter : after = { db with tables := after.tables } := hkept b rfl
      have hnext : (s >>= f) db = f b { db with tables := after.tables } := by
        rw [hbind]
        exact congrArg (f b) hafter
      unfold Ends
      rw [hnext]
      exact hQ

/-- **A statement** is refused, or the constraints decide. -/
theorem ends_statement {kind : StatementKind} {failure : Refusal → Failure}
    {act : Tables → Except Refusal (α × Tables)}
    (hrefused : ∀ r, db.refusal? kind = some r → Q (.error (failure r)) db.tables)
    (haccepted : db.refusal? kind = none → match act db.tables with
      | .error r => Q (.error (failure r)) db.tables
      | .ok (a, t) => Q (.ok a) t) : (statement kind failure act).Ends Q db := by
  cases h : db.refusal? kind with
  | some r =>
      obtain ⟨herror, hsame⟩ := Database.carryOut_of_refused h act
      rcases hcarried : db.carryOut kind act with ⟨x, after⟩
      rw [hcarried] at herror hsame
      subst herror
      have hs : statement kind failure act db = (.error (failure r), after) := by
        simp only [statement, hcarried]
      refine Ends.of_failed (e := failure r) ?_ ?_
      · rw [hs]
      · rw [hs, hsame]
        exact hrefused r h
  | none =>
      have hcarried := Database.carryOut_of_accepted h act
      have hQ := haccepted h
      cases hact : act db.tables with
      | error r =>
          rw [hact] at hcarried hQ
          refine Ends.of_failed (e := failure r) ?_ ?_ <;> simp only [statement, hcarried]
          exact hQ
      | ok result =>
          rw [hact] at hcarried hQ
          refine Ends.of_eq (x := .ok result.1) (t := result.2) ?_ hQ
          simp only [statement, hcarried]

theorem ends_control {kind : StatementKind} {failure : Refusal → Failure}
    {Q : Except Failure Unit → Tables → Prop}
    (hrefused : ∀ r, db.refusal? kind = some r → Q (.error (failure r)) db.tables)
    (haccepted : db.refusal? kind = none → Q (.ok ()) db.tables) : (control kind failure).Ends Q db :=
  ends_statement hrefused haccepted

/-- The refusals do not depend on the rows. -/
theorem refusal?_withTables (db : Database) (t : Tables) (kind : StatementKind) :
    ({ db with tables := t } : Database).refusal? kind = db.refusal? kind := rfl

/-- **A transaction** keeps what its work has changed only if the commit is carried out. -/
theorem ends_transaction {work : Session (Ending α)}
    (hstart : ∀ r, db.refusal? .start = some r → Q (.error (notStarted r)) db.tables)
    (htimeout : db.refusal? .start = none → ∀ r, db.refusal? .setTimeout = some r →
      Q (.error (broken "Failed to set lock timeout" r)) db.tables)
    (hwork : db.refusal? .start = none → db.refusal? .setTimeout = none →
      work.Ends (fun x t => match x with
        | .ok (.keep a) => match db.refusal? .commit with
          | some r => Q (.error (broken "Failed to commit transaction" r)) db.tables
          | none => Q (.ok a) t
        | .ok (.leave a) => Q (.ok a) db.tables
        | .error e => Q (.error e) db.tables) db) : (transaction work).Ends Q db := by
  refine ends_bind (ends_control hstart fun hstarted => ?_)
  show (finish db _).Ends Q db
  -- the work of the transaction: its first statement bounds the wait
  have hbody : (do
      control .setTimeout (broken "Failed to set lock timeout")
      work : Session (Ending α)).Ends (fun x t => match x with
        | .ok (.keep a) => match db.refusal? .commit with
          | some r => Q (.error (broken "Failed to commit transaction" r)) db.tables
          | none => Q (.ok a) t
        | .ok (.leave a) => Q (.ok a) db.tables
        | .error e => Q (.error e) db.tables) db := by
    refine ends_bind (ends_control ?_ ?_)
    · intro r hr
      exact htimeout hstarted r hr
    · intro hset
      exact hwork hstarted hset
  obtain ⟨hQ, hkept⟩ := hbody
  generalize (do
      control .setTimeout (broken "Failed to set lock timeout")
      work : Session (Ending α)) = body at hQ hkept ⊢
  rcases hs : body db with ⟨x, after⟩
  rw [hs] at hQ hkept
  rcases x with e | (a | a)
  · -- a statement was refused, or a check failed: the rows are put back
    refine Ends.of_failed (e := e) ?_ ?_ <;> simp only [finish, hs]
    exact hQ
  · -- the changes are to be kept
    have hafter : after = { db with tables := after.tables } := hkept _ rfl
    have hcommit := refusal?_withTables db after.tables .commit
    rw [← hafter] at hcommit
    cases hrefusal : db.refusal? .commit with
    | some r =>
        rw [hrefusal] at hcommit
        simp only [hrefusal] at hQ
        obtain ⟨herror, -⟩ := Database.carryOut_of_refused hcommit fun t => .ok ((), t)
        rcases hcarried : after.carryOut .commit (fun t => .ok ((), t)) with ⟨y, last⟩
        rw [hcarried] at herror
        subst herror
        refine Ends.of_failed (e := broken "Failed to commit transaction" r) ?_ ?_ <;>
          simp only [finish, hs, control, statement, hcarried]
        exact hQ
    | none =>
        rw [hrefusal] at hcommit
        simp only [hrefusal] at hQ
        have hcarried := Database.carryOut_of_accepted hcommit fun t => .ok ((), t)
        refine Ends.of_eq (x := .ok a) (t := after.tables) ?_ hQ
        simp only [finish, hs, control, statement, hcarried]
        rw [← hafter]
  · -- nothing is to be kept
    have hafter : after = { db with tables := after.tables } := hkept _ rfl
    refine Ends.of_eq (x := .ok a) (t := db.tables) ?_ hQ
    simp only [finish, hs, restored]
    rw [hafter]

end Session

/-! ## Locked rows -/

namespace Database

variable {db : Database} {id : OfferingId}

/-- **The lock** is refused, or the row is read. -/
theorem ends_lockOffering {Q : Except Failure (Option Offering) → Tables → Prop}
    (hrefused : ∀ r, db.rowRefusal? id .lock = some r →
      Q (.error (Session.busyOrBroken "Failed to lock offering" r)) db.tables)
    (hlocked : db.rowRefusal? id .lock = none → Q (.ok (db.tables.offerings.get? id)) db.tables) :
    (lockOffering id).Ends Q db := by
  unfold lockOffering
  refine Session.ends_statement (fun r hr => hrefused r (rowRefusal?_of_refusal? hr)) fun hnone => ?_
  unfold rowRefusal? at hrefused hlocked
  simp only [hnone, Table.contains] at hrefused hlocked
  cases ho : db.tables.offerings.get? id with
  | none =>
      simp only [ho, Option.isSome_none, Bool.false_eq_true, false_and, and_false, if_false] at hlocked
      exact hlocked trivial
  | some o =>
      cases hheld : db.locked.contains id with
      | true =>
          simp only [ho, hheld, Option.isSome_some, and_self, if_true] at hrefused
          exact hrefused _ rfl
      | false =>
          simp only [ho, hheld, Bool.false_eq_true, and_false, if_false] at hlocked
          exact hlocked trivial

/-- **Writing** the locked row is refused, or the row is as it was written. -/
theorem ends_writeLocked {context : String} {o : Offering} {Q : Except Failure Offering → Tables → Prop}
    (ho : o.WithinCapacity)
    (hrefused : ∀ r, db.refusal? .update = some r → Q (.error (Session.busyOrBroken context r)) db.tables)
    (hwritten : db.refusal? .update = none → Q (.ok o.stored) (db.tables.put o.stored)) :
    (writeLocked context o).Ends Q db := by
  refine Session.ends_statement hrefused fun hnone => ?_
  rw [replaceOffering_eq ho]
  exact hwritten hnone

end Database

end DiveSchool
