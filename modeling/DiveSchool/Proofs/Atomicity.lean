import DiveSchool.Proofs.Interruption

/-!
# `DiveSchool.Proofs.Atomicity` — the change of a row is made as a whole or not at all

A change of the capacity or of the counter takes five statements: it starts a transaction, bounds the wait
for locks, locks the row, writes it and commits. Any of them may be refused, for whatever reason, and the
locked row may not allow the change. The three changes are of one form, so what they can come to is said
once. How long a session waits for a lock only decides whether the lock is refused, so that every length
of the wait is covered.

## Contents
- **Changes.** `RowChange`, the common form, and the three changes.
- **Faults.** `RowFault`, what a refused statement is reported as.
- **Outcomes.** `RowChange.Outcome`, what a change comes to on any database with sound tables.
- **Main result.** `row_changes_are_atomic`; `timeout_beside_the_lock`, time-outs of no lock.
-/

namespace DiveSchool

/-! ## Changes -/

namespace Offering

variable {o : Offering} {capacity : Int32}

/-- A check that a row within its capacity passes leaves the decision to what comes after it. -/
theorem WithinCapacity.map_check (ho : o.WithinCapacity) (allowed : Bool) :
    (o.checkInvariant.map fun _ => allowed) = .ok allowed := by
  rw [checkInvariant_eq_ok_iff.mpr ho]
  rfl

/-- The checks of a new capacity decide alone. -/
theorem of_map_checkCapacity {x : Except Failure Bool}
    (h : (o.checkCapacity capacity).map (fun _ => true) = x) :
    (x = .ok true ∧ o.checkCapacity capacity = .ok ()) ∨
      ∃ e, x = .error e ∧ o.checkCapacity capacity = .error e := by
  cases hcheck : o.checkCapacity capacity with
  | ok _ =>
      rw [hcheck] at h
      exact .inl ⟨h.symm, rfl⟩
  | error e =>
      rw [hcheck] at h
      exact .inr ⟨e, h.symm, rfl⟩

theorem isFull_of_isBookable (h : o.isBookable = true) : o.isFull = false := by
  have hfree : (!o.isFull) = true := (Bool.and_eq_true_iff.mp h).2
  simpa using hfree

theorem not_le_zero_iff : (!decide (o.bookings ≤ 0)) = true ↔ 0 < o.bookings.toInt := by
  rw [Bool.not_eq_true', decide_eq_false_iff_not, Int32.not_le, Int32.lt_iff_toInt_lt, Int32.toInt_zero]

/-- A stored row that is written over keeps the moment of its creation. -/
theorem stored_rewritten (ho : o.stored = o) (now : Timestamp) (capacity bookings : Int32) :
    ({ o with capacity, bookings, updatedAt := now } : Offering).stored =
      { o with capacity, bookings, updatedAt := now.toMicroseconds } := by
  have hcreated : o.createdAt.toMicroseconds = o.createdAt := congrArg Offering.createdAt ho
  simp only [stored, hcreated]

theorem not_isTransient_of_checkCapacity {e : Failure} (h : o.checkCapacity capacity = .error e) :
    e.isTransient = false := by
  have hkind := kind_of_checkCapacity h
  unfold Failure.isTransient
  rw [hkind]
  rfl

end Offering

/-- A change of a row under its lock: what is asked of the locked row, and what it becomes. Every part of
    it respects the invariant of the row. -/
structure RowChange (α : Type) where
  /-- What a refusal to write the row says. -/
  context : String
  /-- The result if there is no such row. -/
  absent : α
  /-- Whether the locked row allows the change. -/
  examine : Offering → Except Failure Bool
  /-- The result if it does not. -/
  rejected : Offering → α
  becomes : Offering → Offering
  /-- A check of the row as it was written. -/
  recheck : Offering → Except Failure Unit
  /-- The result with the row as it was written. -/
  applied : Offering → α
  becomes_id : ∀ o, (becomes o).id = o.id
  becomes_within : ∀ o, o.WithinCapacity → examine o = .ok true → (becomes o).WithinCapacity
  recheck_within : ∀ o, o.WithinCapacity → recheck o = .ok ()

namespace RowChange

open Database Session

variable {α : Type}

/-- The change as a session. -/
def session (c : RowChange α) (id : OfferingId) : Session α :=
  transaction do
    match ← lockOffering id with
    | none => return .leave c.absent
    | some o =>
      if ← c.examine o then
        let row ← writeLocked c.context (c.becomes o)
        c.recheck row
        return .keep (c.applied row)
      else return .leave (c.rejected o)

/-- Setting the capacity. -/
def resizing (now : Timestamp) (capacity : Int32) : RowChange (Option Offering) where
  context := "Failed to update capacity"
  absent := none
  examine o := (o.checkCapacity capacity).map fun _ => true
  rejected _ := none
  becomes o := { o with capacity, updatedAt := now }
  recheck _ := .ok ()
  applied := some
  becomes_id _ := rfl
  becomes_within o ho hexamine := by
    rcases Offering.of_map_checkCapacity hexamine with ⟨-, hcheck⟩ | ⟨e, he, -⟩
    · exact Offering.withinCapacity_of_checkCapacity ho hcheck
    · cases he
  recheck_within _ _ := rfl

/-- Taking a spot. -/
def taking (now : Timestamp) : RowChange CounterChange where
  context := "Failed to increment bookings"
  absent := .notFound
  examine o := o.checkInvariant.map fun _ => o.isBookable
  rejected := .rejected
  becomes o := o.taken now
  recheck := Offering.checkInvariant
  applied := .applied
  becomes_id _ := rfl
  becomes_within o ho hexamine := by
    have hbookable : o.isBookable = true := Except.ok.inj ((ho.map_check _).symm.trans hexamine)
    exact ho.taken (Offering.isFull_of_isBookable hbookable)
  recheck_within _ ho := Offering.checkInvariant_eq_ok_iff.mpr ho

/-- Freeing a spot. -/
def vacating (now : Timestamp) : RowChange CounterChange where
  context := "Failed to decrement bookings"
  absent := .notFound
  examine o := o.checkInvariant.map fun _ => !decide (o.bookings ≤ 0)
  rejected := .rejected
  becomes o := o.vacated now
  recheck := Offering.checkInvariant
  applied := .applied
  becomes_id _ := rfl
  becomes_within o ho hexamine := by
    have hbooked : (!decide (o.bookings ≤ 0)) = true := Except.ok.inj ((ho.map_check _).symm.trans hexamine)
    exact ho.vacated (Offering.not_le_zero_iff.mp hbooked)
  recheck_within _ ho := Offering.checkInvariant_eq_ok_iff.mpr ho

theorem session_resizing (now : Timestamp) (id : OfferingId) (capacity : Int32) :
    (resizing now capacity).session id = setCapacity now id capacity := by
  unfold session setCapacity
  congr 1
  congr 1
  funext found
  cases found with
  | none => rfl
  | some o =>
      simp only [resizing]
      cases o.checkCapacity capacity with
      | error e => rfl
      | ok _ => rfl

theorem session_taking (now : Timestamp) (id : OfferingId) :
    (taking now).session id = increment now id := by
  unfold session increment
  congr 1
  congr 1
  funext found
  cases found with
  | none => rfl
  | some o =>
      simp only [taking]
      cases o.checkInvariant with
      | error e => rfl
      | ok _ => cases o.isBookable <;> rfl

theorem session_vacating (now : Timestamp) (id : OfferingId) :
    (vacating now).session id = decrement now id := by
  unfold session decrement
  congr 1
  congr 1
  funext found
  cases found with
  | none => rfl
  | some o =>
      simp only [vacating]
      cases o.checkInvariant with
      | error e => rfl
      | ok _ => by_cases hempty : o.bookings ≤ 0 <;> simp [hempty] <;> rfl

end RowChange

/-! ## Faults -/

/-- What a refused statement of a change is reported as. -/
inductive RowFault (context : String) : StatementKind → Refusal → Failure → Prop
  | start {r : Refusal} : RowFault context .start r (Session.notStarted r)
  | setTimeout {r : Refusal} :
      RowFault context .setTimeout r (Session.broken "Failed to set lock timeout" r)
  | lock {r : Refusal} : RowFault context .lock r (Session.busyOrBroken "Failed to lock offering" r)
  | update {r : Refusal} : RowFault context .update r (Session.busyOrBroken context r)
  | commit {r : Refusal} : RowFault context .commit r (Session.broken "Failed to commit transaction" r)

/-- Whether a refusal says that the service is busy: the transaction did not start, or the row could not be
    locked or written in time. -/
def StatementKind.busy (kind : StatementKind) (r : Refusal) : Prop :=
  kind = .start ∨ ((kind = .lock ∨ kind = .update) ∧ r = .lockTimedOut)

instance (kind : StatementKind) (r : Refusal) : Decidable (kind.busy r) := by
  unfold StatementKind.busy
  infer_instance

namespace RowFault

variable {context : String} {kind : StatementKind} {r : Refusal} {e : Failure}

theorem kind_busyOrBroken (context : String) (r : Refusal) :
    (Session.busyOrBroken context r).kind = if r = .lockTimedOut then .serviceUnavailable else .database := by
  unfold Session.busyOrBroken
  split <;> rfl

/-- **The kind of a fault**: the service is unavailable if it is busy, otherwise the database has failed. -/
theorem kind_eq (h : RowFault context kind r e) :
    e.kind = if kind.busy r then .serviceUnavailable else .database := by
  cases h with
  | start => rfl
  | setTimeout => rfl
  | lock => simp [kind_busyOrBroken, StatementKind.busy]
  | update => simp [kind_busyOrBroken, StatementKind.busy]
  | commit => rfl

theorem isTransient (h : RowFault context kind r e) : e.isTransient = true := by
  have hkind := h.kind_eq
  unfold Failure.isTransient
  split at hkind <;> rw [hkind] <;> rfl

end RowFault

/-! ## Outcomes -/

namespace Database

/-- The statements of a change, in order. -/
def rowStatements : List StatementKind := [.start, .setTimeout, .lock, .update, .commit]

/-- The statements up to the lock. -/
def lockStatements : List StatementKind := [.start, .setTimeout, .lock]

/-- None of these statements will be refused. -/
def Accepts (db : Database) (id : OfferingId) (kinds : List StatementKind) : Prop :=
  ∀ kind ∈ kinds, db.rowRefusal? id kind = none

end Database

namespace RowChange

open Database Session

variable {α : Type} {db : Database} {id : OfferingId}

/-- What a change can come to, and the tables afterwards. -/
inductive Outcome (c : RowChange α) (db : Database) (id : OfferingId) :
    Except Failure α → Tables → Prop
  /-- A statement was refused. -/
  | refused {kind : StatementKind} {r : Refusal} {e : Failure} (h : db.rowRefusal? id kind = some r)
      (hfault : RowFault c.context kind r e) : Outcome c db id (.error e) db.tables
  /-- There is no such row. -/
  | absent (haccepts : db.Accepts id lockStatements) (h : db.tables.offerings.get? id = none) :
      Outcome c db id (.ok c.absent) db.tables
  /-- The locked row did not pass a check. -/
  | invalid {o : Offering} {e : Failure} (haccepts : db.Accepts id lockStatements)
      (h : db.tables.offerings.get? id = some o) (hexamine : c.examine o = .error e) :
      Outcome c db id (.error e) db.tables
  /-- The locked row did not allow the change. -/
  | rejected {o : Offering} (haccepts : db.Accepts id lockStatements)
      (h : db.tables.offerings.get? id = some o) (hexamine : c.examine o = .ok false) :
      Outcome c db id (.ok (c.rejected o)) db.tables
  /-- The row was written and the change committed. -/
  | applied {o : Offering} (haccepts : db.Accepts id rowStatements)
      (h : db.tables.offerings.get? id = some o) (hexamine : c.examine o = .ok true) :
      Outcome c db id (.ok (c.applied (c.becomes o).stored)) (db.tables.put (c.becomes o).stored)

theorem accepts_lockStatements (hstart : db.refusal? .start = none)
    (htimeout : db.refusal? .setTimeout = none) (hlock : db.rowRefusal? id .lock = none) :
    db.Accepts id lockStatements := by
  intro kind hkind
  simp only [lockStatements, List.mem_cons, List.not_mem_nil, or_false] at hkind
  rcases hkind with rfl | rfl | rfl
  · rw [rowRefusal?_of_ne_lock (by decide)]
    exact hstart
  · rw [rowRefusal?_of_ne_lock (by decide)]
    exact htimeout
  · exact hlock

theorem accepts_rowStatements (hlocks : db.Accepts id lockStatements) (hupdate : db.refusal? .update = none)
    (hcommit : db.refusal? .commit = none) : db.Accepts id rowStatements := by
  intro kind hkind
  rcases List.mem_append.mp (show kind ∈ lockStatements ++ [.update, .commit] from hkind) with h | h
  · exact hlocks kind h
  · simp only [List.mem_cons, List.not_mem_nil, or_false] at h
    rcases h with rfl | rfl
    · rw [rowRefusal?_of_ne_lock (by decide)]
      exact hupdate
    · rw [rowRefusal?_of_ne_lock (by decide)]
      exact hcommit

/-- **A change of a row** comes to one of these outcomes, whatever the database refuses. -/
theorem ends_session (c : RowChange α) (ht : db.tables.Sound) (id : OfferingId) :
    (c.session id).Ends (c.Outcome db id) db := by
  refine ends_transaction ?_ ?_ ?_
  · intro r hr
    exact .refused (rowRefusal?_of_refusal? hr) .start
  · intro _ r hr
    exact .refused (rowRefusal?_of_refusal? hr) .setTimeout
  · intro hstart htimeout
    refine ends_bind (ends_lockOffering ?_ ?_)
    · intro r hr
      exact .refused hr .lock
    · intro hlock
      have hlocks : db.Accepts id lockStatements := accepts_lockStatements hstart htimeout hlock
      cases ho : db.tables.offerings.get? id with
      | none => exact ends_pure (.absent hlocks ho)
      | some o =>
          have hwithin : o.WithinCapacity := ht.counters id o ho
          refine ends_bind (ends_lift ?_)
          cases hexamine : c.examine o with
          | error e => exact .invalid hlocks ho hexamine
          | ok allowed =>
              cases allowed with
              | false => exact ends_pure (.rejected hlocks ho hexamine)
              | true =>
                  have hbecomes := c.becomes_within o hwithin hexamine
                  refine ends_bind (ends_writeLocked hbecomes ?_ ?_)
                  · intro r hr
                    exact .refused (rowRefusal?_of_refusal? hr) .update
                  · intro hupdate
                    -- the row as it was written passes the last check
                    have hrecheck : c.recheck (c.becomes o).stored = .ok () := c.recheck_within _ hbecomes
                    refine ends_bind (ends_lift ?_)
                    rw [hrecheck]
                    refine ends_pure ?_
                    cases hcommit : db.refusal? .commit with
                    | some r => exact .refused (rowRefusal?_of_refusal? hcommit) .commit
                    | none => exact .applied (accepts_rowStatements hlocks hupdate hcommit) ho hexamine

end RowChange

/-! ## Main result -/

/-- A change of the row of an offering that is made as a whole or not at all. `view` reads a result as that
    of a change, `permits` says which rows allow it, `becomes` what it makes of a row, and `invalid` with
    what a check refuses a row. -/
structure Session.Atomic {α : Type} (s : Session α) (db : Database) (id : OfferingId)
    (view : α → Database.CounterChange) (permits : Offering → Prop) (becomes : Offering → Offering → Prop)
    (invalid : Offering → Failure → Prop) : Prop where
  /-- Whoever is given the changed row has seen it committed: no statement was refused, the row before
      allowed the change, and the row returned is now the stored one. -/
  applied : ∀ a row, (s db).1 = .ok a → view a = .applied row →
    db.Accepts id Database.rowStatements ∧
    (∃ o, db.tables.offerings.get? id = some o ∧ permits o ∧ becomes o row) ∧
    (s db).2.tables = db.tables.put row ∧ (s db).2.tables.offerings.get? id = some row
  /-- A row that does not allow the change is returned as it is, and stays so. -/
  rejected : ∀ a o, (s db).1 = .ok a → view a = .rejected o →
    db.Accepts id Database.lockStatements ∧ db.tables.offerings.get? id = some o ∧ ¬ permits o ∧
    (s db).2.tables = db.tables
  /-- Where there is no row nothing changes. -/
  notFound : ∀ a, (s db).1 = .ok a → view a = .notFound →
    db.Accepts id Database.lockStatements ∧ db.tables.offerings.get? id = none ∧
    (s db).2.tables = db.tables
  /-- A failure changes nothing. It comes from a check of the row, and then trying again does not help, or
      from a refused statement, and then it may; its kind is that of the statement and the refusal. -/
  failed : ∀ e, (s db).1 = .error e → (s db).2.tables = db.tables ∧
    ((∃ o, db.tables.offerings.get? id = some o ∧ invalid o e ∧ e.isTransient = false) ∨
      ∃ kind ∈ Database.rowStatements, ∃ r, db.rowRefusal? id kind = some r ∧ e.isTransient = true ∧
        e.kind = if kind.busy r then .serviceUnavailable else .database)

namespace RowChange

open Database

variable {α : Type} {db : Database} {id : OfferingId}

theorem mem_of_rowFault {context : String} {kind : StatementKind} {r : Refusal} {e : Failure}
    (h : RowFault context kind r e) : kind ∈ rowStatements := by
  cases h <;> decide

/-- A change is atomic if its results can be told apart and its checks do not fail for a passing reason. -/
theorem atomic_session (c : RowChange α) (ht : db.tables.Sound) {view : α → CounterChange}
    {permits : Offering → Prop} {becomes : Offering → Offering → Prop} {invalid : Offering → Failure → Prop}
    (habsent : view c.absent = .notFound) (happlied : ∀ row, view (c.applied row) = .applied row)
    (hrejected : ∀ o, db.tables.offerings.get? id = some o → c.examine o = .ok false →
      view (c.rejected o) = .rejected o ∧ ¬ permits o)
    (hallowed : ∀ o, db.tables.offerings.get? id = some o → c.examine o = .ok true →
      permits o ∧ becomes o (c.becomes o).stored)
    (hinvalid : ∀ o e, db.tables.offerings.get? id = some o → c.examine o = .error e →
      invalid o e ∧ e.isTransient = false) :
    (c.session id).Atomic db id view permits becomes invalid := by
  obtain ⟨houtcome, -⟩ := c.ends_session ht id
  generalize hresult : (c.session id db).1 = x at houtcome
  generalize htables : (c.session id db).2.tables = t at houtcome
  constructor
  case applied =>
    intro a row ha hview
    rw [hresult] at ha
    rw [htables]
    cases houtcome with
    | refused => cases ha
    | invalid => cases ha
    | absent => cases ha; cases habsent.symm.trans hview
    | rejected _ ho hexamine => cases ha; cases (hrejected _ ho hexamine).1.symm.trans hview
    | @applied o haccepts ho hexamine =>
        cases ha
        cases (happlied _).symm.trans hview
        have hid : (c.becomes o).stored.id = o.id := c.becomes_id o
        exact ⟨haccepts, ⟨o, ho, hallowed o ho hexamine⟩, rfl, ht.get?_put_self ho hid⟩
  case rejected =>
    intro a o ha hview
    rw [hresult] at ha
    rw [htables]
    cases houtcome with
    | refused => cases ha
    | invalid => cases ha
    | absent => cases ha; cases habsent.symm.trans hview
    | rejected haccepts ho hexamine =>
        cases ha
        obtain ⟨hsame, hforbids⟩ := hrejected _ ho hexamine
        cases hsame.symm.trans hview
        exact ⟨haccepts, ho, hforbids, rfl⟩
    | applied => cases ha; cases (happlied _).symm.trans hview
  case notFound =>
    intro a ha hview
    rw [hresult] at ha
    rw [htables]
    cases houtcome with
    | refused => cases ha
    | invalid => cases ha
    | absent haccepts ho => exact ⟨haccepts, ho, rfl⟩
    | rejected _ ho hexamine => cases ha; cases (hrejected _ ho hexamine).1.symm.trans hview
    | applied => cases ha; cases (happlied _).symm.trans hview
  case failed =>
    intro e he
    rw [hresult] at he
    rw [htables]
    cases houtcome with
    | refused h hfault =>
        cases he
        exact ⟨rfl, .inr ⟨_, mem_of_rowFault hfault, _, h, hfault.isTransient, hfault.kind_eq⟩⟩
    | invalid _ ho hexamine =>
        cases he
        exact ⟨rfl, .inl ⟨_, ho, hinvalid _ e ho hexamine⟩⟩
    | absent => cases he
    | rejected => cases he
    | applied => cases he

end RowChange

namespace Database

/-- The result of a change of capacity, which no row rejects. -/
def CounterChange.ofRow? : Option Offering → CounterChange
  | some o => .applied o
  | none => .notFound

/-- The row after a change of its counter. -/
def Counted (now : Timestamp) (difference : Int) (o row : Offering) : Prop :=
  row = { o with bookings := row.bookings, updatedAt := now.toMicroseconds } ∧
    row.bookings.toInt = o.bookings.toInt + difference

variable {db : Database} (ht : db.tables.Sound) (hrows : db.tables.Rounded) (now : Timestamp)
  (id : OfferingId)
include ht hrows

theorem atomic_setCapacity (capacity : Int32) :
    (setCapacity now id capacity).Atomic db id CounterChange.ofRow?
      (fun o => o.checkCapacity capacity = .ok ())
      (fun o row => row = { o with capacity, updatedAt := now.toMicroseconds })
      (fun o e => o.checkCapacity capacity = .error e) := by
  rw [← RowChange.session_resizing]
  refine RowChange.atomic_session _ ht rfl (fun _ => rfl) ?_ ?_ ?_
  · intro o _ hexamine
    -- a capacity that does not fit is a failure, never a rejection
    rcases Offering.of_map_checkCapacity hexamine with ⟨h, -⟩ | ⟨_, h, -⟩ <;> cases h
  · intro o ho hexamine
    rcases Offering.of_map_checkCapacity hexamine with ⟨-, hcheck⟩ | ⟨_, h, -⟩
    · exact ⟨hcheck, Offering.stored_rewritten (hrows id o ho) now capacity o.bookings⟩
    · cases h
  · intro o e _ hexamine
    rcases Offering.of_map_checkCapacity hexamine with ⟨h, -⟩ | ⟨e', h, hcheck⟩
    · cases h
    · cases h
      exact ⟨hcheck, Offering.not_isTransient_of_checkCapacity hcheck⟩

theorem atomic_increment :
    (increment now id).Atomic db id (fun change => change) (fun o => o.isBookable = true) (Counted now 1)
      (fun _ _ => False) := by
  have hexamined : ∀ o, db.tables.offerings.get? id = some o →
      (RowChange.taking now).examine o = .ok o.isBookable :=
    fun o ho => (ht.counters id o ho).map_check _
  rw [← RowChange.session_taking]
  refine RowChange.atomic_session _ ht rfl (fun _ => rfl) ?_ ?_ ?_
  · intro o ho hexamine
    have hbookable : o.isBookable = false := Except.ok.inj ((hexamined o ho).symm.trans hexamine)
    exact ⟨rfl, by rw [hbookable]; decide⟩
  · intro o ho hexamine
    have hbookable : o.isBookable = true := Except.ok.inj ((hexamined o ho).symm.trans hexamine)
    have hfree := Offering.isFull_of_isBookable hbookable
    have hrow := Offering.stored_rewritten (hrows id o ho) now o.capacity (o.bookings + 1)
    exact ⟨hbookable, hrow, Offering.toInt_bookings_add_one hfree⟩
  · intro o e ho hexamine
    cases (hexamined o ho).symm.trans hexamine

theorem atomic_decrement :
    (decrement now id).Atomic db id (fun change => change) (fun o => 0 < o.bookings.toInt) (Counted now (-1))
      (fun _ _ => False) := by
  have hexamined : ∀ o, db.tables.offerings.get? id = some o →
      (RowChange.vacating now).examine o = .ok (!decide (o.bookings ≤ 0)) :=
    fun o ho => (ht.counters id o ho).map_check _
  rw [← RowChange.session_vacating]
  refine RowChange.atomic_session _ ht rfl (fun _ => rfl) ?_ ?_ ?_
  · intro o ho hexamine
    have hempty : (!decide (o.bookings ≤ 0)) = false := Except.ok.inj ((hexamined o ho).symm.trans hexamine)
    exact ⟨rfl, fun hbooked => by rw [Offering.not_le_zero_iff.mpr hbooked] at hempty; cases hempty⟩
  · intro o ho hexamine
    have hnonempty : (!decide (o.bookings ≤ 0)) = true :=
      Except.ok.inj ((hexamined o ho).symm.trans hexamine)
    have hbooked := Offering.not_le_zero_iff.mp hnonempty
    have hrow := Offering.stored_rewritten (hrows id o ho) now o.capacity (o.bookings - 1)
    exact ⟨hbooked, hrow, Offering.toInt_bookings_sub_one hbooked⟩
  · intro o e ho hexamine
    cases (hexamined o ho).symm.trans hexamine

end Database

open Database in
/-- **Changes of a row are atomic.** On tables that meet their constraints, for every id and capacity, and
    whichever statements are refused and for whatever reason: setting the capacity, taking a spot and
    freeing one change the stored row exactly if they return it. It differs from the row before in the
    moment of the change and in the capacity asked for, or by one booking more or less. Whatever else they
    return, no row has changed. A refused statement is always reported as transient, as an unavailable
    service if the transaction did not start or the row could not be locked or written in time and as a
    failure of the database otherwise; a capacity that does not fit is never transient. -/
theorem row_changes_are_atomic {db : Database} (ht : db.tables.Sound) (hrows : db.tables.Rounded)
    (now : Timestamp) (id : OfferingId) :
    (∀ capacity, (setCapacity now id capacity).Atomic db id CounterChange.ofRow?
      (fun o => o.checkCapacity capacity = .ok ())
      (fun o row => row = { o with capacity, updatedAt := now.toMicroseconds })
      (fun o e => o.checkCapacity capacity = .error e)) ∧
    (increment now id).Atomic db id (fun change => change) (fun o => o.isBookable = true) (Counted now 1)
      (fun _ _ => False) ∧
    (decrement now id).Atomic db id (fun change => change) (fun o => 0 < o.bookings.toInt)
      (Counted now (-1)) (fun _ _ => False) :=
  ⟨atomic_setCapacity ht hrows now id, atomic_increment ht hrows now id, atomic_decrement ht hrows now id⟩

namespace LockTimeout

/-- A trip with two spots. -/
def trip : Offering := Offering.trip ⟨7⟩ ⟨0, 0⟩ "Reef" 2 none

/-- The tables with it. -/
def tables : Tables := Tables.empty.put trip

theorem sound_tables : tables.Sound := Tables.sound_empty.put (o := trip) (by decide)

theorem rounded_tables : tables.Rounded := by
  intro id o ho
  change (Tables.empty.put trip).offerings.get? id = some o at ho
  rw [Tables.get?_put] at ho
  split at ho
  · cases ho
    rfl
  · cases ho

/-- The row of the trip is locked by another session. -/
def contended : Database := { tables, locked := [⟨7⟩] }

/-- One statement will be told that a lock was not to be had in time. -/
def timingOut (kind : StatementKind) : Database := { tables, faults := [(kind, "55P03")] }

/-- Only one statement is refused, with the state of a time-out, and the attempt to take a spot fails as if
    the database had failed. -/
def CountsAsFailure (kind : StatementKind) : Prop :=
  (timingOut kind).rowRefusal? ⟨7⟩ kind = some .lockTimedOut ∧
    (∀ kind' ∈ Database.rowStatements, kind' ≠ kind → (timingOut kind).rowRefusal? ⟨7⟩ kind' = none) ∧
    ∃ e, (Database.increment ⟨1, 0⟩ ⟨7⟩ (timingOut kind)).1 = .error e ∧ e.kind = .database

end LockTimeout

open LockTimeout Database in
/-- While the row of the trip is locked elsewhere no spot is taken, and the service is busy. -/
theorem busy_while_locked :
    contended.tables.Sound ∧ contended.tables.Rounded ∧
    (increment ⟨1, 0⟩ ⟨7⟩).Atomic contended ⟨7⟩ (fun change => change) (fun o => o.isBookable = true)
      (Counted ⟨1, 0⟩ 1) (fun _ _ => False) ∧
    ∃ e, (increment ⟨1, 0⟩ ⟨7⟩ contended).1 = .error e ∧ e.kind = .serviceUnavailable := by
  refine ⟨sound_tables, rounded_tables, ?_, ⟨_, rfl, rfl⟩⟩
  exact (row_changes_are_atomic sound_tables rounded_tables ⟨1, 0⟩ ⟨7⟩).2.1

open LockTimeout Database in
/-- A refusal with the state of a time-out does not always say that the service is busy: if it comes before
    the row is asked for, or after it was written, it counts as a failure of the database. -/
theorem timeout_beside_the_lock : CountsAsFailure .setTimeout ∧ CountsAsFailure .commit := by
  constructor
  · exact ⟨rfl, by decide, _, rfl, rfl⟩
  · exact ⟨rfl, by decide, _, rfl, rfl⟩

end DiveSchool
