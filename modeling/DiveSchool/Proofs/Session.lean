import DiveSchool.Database.Bookings
import DiveSchool.Database.Offerings
import DiveSchool.Proofs.Counter

/-!
# `DiveSchool.Proofs.Session` — sessions with a database that nothing disturbs

A database that is open, has its tables, and in which no row is locked and no statement fails by itself
answers by its constraints alone, and all that a session changes is the rows. So a session can be followed
on the two tables: `Session.Meets` says what it comes to, with one rule for each way to build a session
and one for each operation on the tables. On sound tables none of the checks of a transaction fails.

## Contents
- **Ready databases.** `Database.Ready`.
- **Sessions.** `Session.Meets` and its rules.
- **Transactions.** `meets_transaction`: the rows are kept or put back.
- **Tables.** `Tables.put`, `Tables.add`, `Tables.drop`, what they leave of `Tables.Sound`, and
  `Tables.Rounded`.
- **Operations.** One rule for each operation on the tables.
-/

namespace DiveSchool

/-! ## Ready databases -/

namespace Database

/-- A database that carries out whatever its constraints allow. -/
structure Ready (db : Database) : Prop where
  opened : db.isOpen = true
  made : db.schema.exists? = true
  unlocked : db.locked = []
  faultless : db.faults = []

variable {α : Type} {db : Database}

theorem Ready.withTables (h : db.Ready) (t : Tables) : ({ db with tables := t } : Database).Ready :=
  ⟨h.opened, h.made, h.unlocked, h.faultless⟩

/-- **A statement** is carried out or refused by the constraints. -/
theorem Ready.carryOut_eq (h : db.Ready) (kind : StatementKind)
    (act : Tables → Except Refusal (α × Tables)) :
    db.carryOut kind act = match act db.tables with
      | .error refusal => (.error refusal, db)
      | .ok (a, t) => (.ok a, { db with tables := t }) := by
  have hfault : db.takeFault kind = none := by simp [takeFault, h.faultless]
  cases hact : act db.tables <;>
    simp only [carryOut, h.opened, h.made, hfault, hact, Bool.not_true, Bool.and_false, Bool.false_eq_true,
      if_false]

end Database

/-! ## Sessions -/

namespace Session

variable {α β : Type} {t : Tables} {Q : Except Failure α → Tables → Prop}

theorem bind_apply (s : Session α) (f : α → Session β) (db : Database) :
    (s >>= f) db = match s db with
      | (.ok a, db') => f a db'
      | (.error e, db') => (.error e, db') := by
  change (ExceptT.bindCont f (s db).1) (s db).2 = _
  rcases s db with ⟨_ | _, _⟩ <;> rfl

/-- On a ready database with these tables a session ends in a result and in tables that `Q` accepts, and
    nothing but the tables changes. -/
def Meets (s : Session α) (Q : Except Failure α → Tables → Prop) (t : Tables) : Prop :=
  ∀ db : Database, db.Ready → db.tables = t →
    ∃ x t', s db = (x, { db with tables := t' }) ∧ Q x t'

theorem Meets.mono {s : Session α} {Q' : Except Failure α → Tables → Prop} (h : s.Meets Q t)
    (hQ : ∀ x t', Q x t' → Q' x t') : s.Meets Q' t := by
  intro db hdb ht
  obtain ⟨x, t', hs, hx⟩ := h db hdb ht
  exact ⟨x, t', hs, hQ x t' hx⟩

theorem meets_pure {a : α} (h : Q (.ok a) t) : (pure a : Session α).Meets Q t := by
  rintro db - rfl
  exact ⟨_, _, rfl, h⟩

theorem meets_throw {e : Failure} (h : Q (.error e) t) : (throw e : Session α).Meets Q t := by
  rintro db - rfl
  exact ⟨_, _, rfl, h⟩

/-- A check that does not concern the database. -/
theorem meets_lift {x : Except Failure α} (h : Q x t) : (liftM x : Session α).Meets Q t := by
  rintro db - rfl
  cases x <;> exact ⟨_, _, rfl, h⟩

/-- **One session after another**: a failure of the first ends both. -/
theorem meets_bind {s : Session β} {f : β → Session α}
    (h : s.Meets (fun x t' => match x with
      | .ok b => (f b).Meets Q t'
      | .error e => Q (.error e) t') t) : (s >>= f).Meets Q t := by
  intro db hdb ht
  obtain ⟨x, t', hs, hx⟩ := h db hdb ht
  rw [bind_apply, hs]
  cases x with
  | error e => exact ⟨_, _, rfl, hx⟩
  | ok b => exact hx _ (hdb.withTables t') rfl

/-- A check that passes may be left out. -/
theorem meets_check {x : Except Failure Unit} {s : Session α} (hx : x = .ok ()) (h : s.Meets Q t) :
    (liftM x >>= fun _ => s : Session α).Meets Q t := by
  subst hx
  exact meets_bind (meets_lift h)

theorem meets_statement {kind : StatementKind} {failure : Refusal → Failure}
    {act : Tables → Except Refusal (α × Tables)}
    (h : match act t with
      | .error refusal => Q (.error (failure refusal)) t
      | .ok (a, t') => Q (.ok a) t') : (statement kind failure act).Meets Q t := by
  rintro db hdb rfl
  simp only [statement, hdb.carryOut_eq kind act]
  cases hact : act db.tables with
  | error refusal =>
      rw [hact] at h
      exact ⟨_, _, rfl, h⟩
  | ok after =>
      rw [hact] at h
      exact ⟨_, _, rfl, h⟩

theorem meets_read {kind : StatementKind} {context : String} {view : Tables → α}
    (h : Q (.ok (view t)) t) : (read kind context view).Meets Q t :=
  meets_statement h

/-! ## Transactions -/

theorem control_eq {db : Database} (h : db.Ready) (kind : StatementKind) (failure : Refusal → Failure) :
    control kind failure db = (.ok (), db) := by
  simp only [control, statement, h.carryOut_eq kind]

theorem meets_control {kind : StatementKind} {failure : Refusal → Failure}
    {Q : Except Failure Unit → Tables → Prop} (h : Q (.ok ()) t) : (control kind failure).Meets Q t :=
  meets_statement h

/-- **A transaction** keeps what its work has changed or puts the rows back. -/
theorem meets_transaction {work : Session (Ending α)}
    (h : work.Meets (fun x t' => match x with
      | .ok (.keep a) => Q (.ok a) t'
      | .ok (.leave a) => Q (.ok a) t
      | .error e => Q (.error e) t) t) : (transaction work).Meets Q t := by
  rintro before hbefore rfl
  refine meets_bind (meets_control ?_) before hbefore rfl
  -- the work goes on with the database as it was when the transaction began
  intro db hdb ht
  have hwork : (do
      control .setTimeout (broken "Failed to set lock timeout")
      work : Session (Ending α)).Meets _ before.tables := meets_bind (meets_control h)
  obtain ⟨x, t', hs, hx⟩ := hwork db hdb ht
  simp only [finish, hs]
  rcases x with e | (a | a)
  · exact ⟨_, _, rfl, hx⟩
  · simp only [control_eq (hdb.withTables t')]
    exact ⟨_, _, rfl, hx⟩
  · exact ⟨_, _, rfl, hx⟩

end Session

/-! ## Tables -/

namespace Tables

variable {t : Tables} {now : Timestamp} {id : OfferingId} {o : Offering} {b : Booking}

/-- Write an offering under its id. -/
def put (t : Tables) (o : Offering) : Tables := { t with offerings := t.offerings.insert o.id o }

/-- Write a booking under its reference. -/
def add (t : Tables) (b : Booking) : Tables :=
  { t with bookings := t.bookings.insert b.reference b.stored }

/-- Take the booking with a reference out. -/
def drop (t : Tables) (reference : String) : Tables :=
  { t with bookings := t.bookings.erase reference }

theorem get?_put (t : Tables) (o : Offering) (id : OfferingId) :
    (t.put o).offerings.get? id = if id = o.id then some o else t.offerings.get? id :=
  Table.get?_insert t.offerings o.id id o

@[simp] theorem bookings_put (t : Tables) (o : Offering) : (t.put o).bookings = t.bookings := rfl

@[simp] theorem offerings_add (t : Tables) (b : Booking) : (t.add b).offerings = t.offerings := rfl

@[simp] theorem offerings_drop (t : Tables) (reference : String) :
    (t.drop reference).offerings = t.offerings := rfl

theorem drop_of_absent {reference : String} (h : t.bookings.get? reference = none) :
    t.drop reference = t := by
  rw [drop, Table.erase_of_get?_eq_none h]

/-- Every row is as a row keeps it, in whole microseconds. -/
def Rounded (t : Tables) : Prop := ∀ id o, t.offerings.get? id = some o → o.stored = o

theorem sound_empty : empty.Sound := by
  have hnone : ∀ id, empty.offerings.get? id = none := fun _ => rfl
  have hnothing : ∀ reference, empty.bookings.get? reference = none := fun _ => rfl
  constructor
  · intro id o h
    cases (hnone id).symm.trans h
  · intro id o h
    cases (hnone id).symm.trans h
  · intro r b h
    cases (hnothing r).symm.trans h
  · intro r b h
    cases (hnothing r).symm.trans h

/-- What is stored after an offering has been written over is that offering or was stored before. -/
theorem Sound.get?_put (ht : t.Sound) (h : t.offerings.get? id = some o) {o' : Offering}
    (hid : o'.id = o.id) (id' : OfferingId) :
    (t.put o').offerings.get? id' = if id' = id then some o' else t.offerings.get? id' := by
  rw [Tables.get?_put, hid, ht.ids id o h]

theorem Sound.get?_put_self (ht : t.Sound) (h : t.offerings.get? id = some o) {o' : Offering}
    (hid : o'.id = o.id) : (t.put o').offerings.get? id = some o' := by
  rw [ht.get?_put h hid, if_pos rfl]

theorem Sound.get?_put_of_ne (ht : t.Sound) (h : t.offerings.get? id = some o) {o' : Offering}
    (hid : o'.id = o.id) {id' : OfferingId} (hne : id' ≠ id) :
    (t.put o').offerings.get? id' = t.offerings.get? id' := by
  rw [ht.get?_put h hid, if_neg hne]

/-- Writing an offering within its capacity keeps every constraint. -/
theorem Sound.put (ht : t.Sound) (ho : o.WithinCapacity) : (t.put o).Sound where
  counters id o' h := by
    rw [Tables.get?_put] at h
    split at h
    · cases h
      exact ho
    · exact ht.counters id o' h
  ids id o' h := by
    rw [Tables.get?_put] at h
    split at h
    · next hid =>
        cases h
        exact hid.symm
    · exact ht.ids id o' h
  references := ht.references
  offered r b h := by
    rw [Tables.get?_put]
    split
    · rfl
    · exact ht.offered r b h

theorem Sound.put_taken (ht : t.Sound) (h : t.offerings.get? id = some o) (hfree : o.isFull = false) :
    (t.put (o.taken now).stored).Sound :=
  ht.put (show (o.taken now).WithinCapacity from (ht.counters id o h).taken hfree)

theorem Sound.put_vacated (ht : t.Sound) (h : t.offerings.get? id = some o)
    (hbooked : 0 < o.bookings.toInt) : (t.put (o.vacated now).stored).Sound :=
  ht.put (show (o.vacated now).WithinCapacity from (ht.counters id o h).vacated hbooked)

theorem Sound.put_resized (ht : t.Sound) (h : t.offerings.get? id = some o) {capacity : Int32}
    (hcheck : o.checkCapacity capacity = .ok ()) :
    (t.put ({ o with capacity, updatedAt := now } : Offering).stored).Sound :=
  ht.put (show ({ o with capacity, updatedAt := now } : Offering).WithinCapacity from
    Offering.withinCapacity_of_checkCapacity (ht.counters id o h) hcheck)

theorem Sound.put_moved (ht : t.Sound) (h : t.offerings.get? id = some o) {status : Status} :
    (t.put ({ o with status, updatedAt := now } : Offering).stored).Sound :=
  ht.put (show ({ o with status, updatedAt := now } : Offering).WithinCapacity from ht.counters id o h)

/-- The row whose spot was taken a moment ago shows it. -/
theorem Sound.get?_put_taken (ht : t.Sound) (h : t.offerings.get? id = some o) :
    (t.put (o.taken now).stored).offerings.get? id = some (o.taken now).stored :=
  ht.get?_put_self h rfl

theorem Sound.booked_taken (ht : t.Sound) (h : t.offerings.get? id = some o) (hfree : o.isFull = false) :
    0 < (o.taken now).stored.bookings.toInt := by
  have hadd := Offering.toInt_bookings_add_one hfree
  have hnonneg := (Offering.withinCapacity_iff.mp (ht.counters id o h)).2.1
  show 0 < (o.bookings + 1).toInt
  omega

/-- Writing a booking of an offering that is there keeps every constraint. -/
theorem Sound.add (ht : t.Sound) (ho : t.offerings.get? b.offeringId = some o) : (t.add b).Sound where
  counters := ht.counters
  ids := ht.ids
  references r b' h := by
    rw [Tables.add, Table.get?_insert] at h
    split at h
    · next hr =>
        cases h
        exact hr.symm
    · exact ht.references r b' h
  offered r b' h := by
    rw [Tables.add, Table.get?_insert] at h
    split at h
    · cases h
      show (t.offerings.get? b.offeringId).isSome = true
      rw [ho]
      rfl
    · exact ht.offered r b' h

theorem Sound.drop (ht : t.Sound) (reference : String) : (t.drop reference).Sound where
  counters := ht.counters
  ids := ht.ids
  references r b h := by
    rw [Tables.drop, Table.get?_erase] at h
    split at h
    · cases h
    · exact ht.references r b h
  offered r b h := by
    rw [Tables.drop, Table.get?_erase] at h
    split at h
    · cases h
    · exact ht.offered r b h

/-- The offering of a booking is there. -/
theorem Sound.offering (ht : t.Sound) {reference : String} (h : t.bookings.get? reference = some b) :
    ∃ o, t.offerings.get? b.offeringId = some o :=
  Option.isSome_iff_exists.mp (ht.offered reference b h)

theorem Sound.check (ht : t.Sound) (h : t.offerings.get? id = some o) : o.checkInvariant = .ok () :=
  Offering.checkInvariant_eq_ok_iff.mpr (ht.counters id o h)

end Tables

/-! ## Operations -/

namespace Database

open Session

variable {t : Tables} {now : Timestamp} {id : OfferingId} {o : Offering}

theorem meets_findOffering {Q : Except Failure (Option Offering) → Tables → Prop}
    (h : Q (.ok (t.offerings.get? id)) t) : (findOffering id).Meets Q t :=
  meets_read h

theorem meets_lockOffering {Q : Except Failure (Option Offering) → Tables → Prop}
    (h : Q (.ok (t.offerings.get? id)) t) : (lockOffering id).Meets Q t := by
  rintro db hdb rfl
  refine meets_statement ?_ db hdb rfl
  cases ho : db.tables.offerings.get? id with
  | none => rwa [ho] at h
  | some o =>
      rw [ho] at h
      simpa only [hdb.unlocked, List.contains_nil, Bool.false_eq_true, if_false] using h

theorem replaceOffering_eq (ho : o.WithinCapacity) :
    t.replaceOffering o = .ok (o.stored, t.put o.stored) := by
  rw [Tables.replaceOffering, if_pos ho]
  rfl

theorem meets_writeLocked {context : String} {Q : Except Failure Offering → Tables → Prop}
    (ho : o.WithinCapacity) (h : Q (.ok o.stored) (t.put o.stored)) :
    (writeLocked context o).Meets Q t := by
  refine meets_statement ?_
  rw [replaceOffering_eq ho]
  exact h

/-- **Creating** an offering writes it down unless its id is in use. -/
theorem meets_createOffering {Q : Except Failure Offering → Tables → Prop} (ho : o.WithinCapacity)
    (htaken : ∀ o', t.offerings.get? o.id = some o' →
      Q (.error (broken "Failed to create offering" .keyTaken)) t)
    (hnew : t.offerings.get? o.id = none → Q (.ok o.stored) (t.put o.stored)) :
    (createOffering o).Meets Q t := by
  refine meets_check (Offering.checkInvariant_eq_ok_iff.mpr ho) (meets_statement ?_)
  cases hused : t.offerings.get? o.id with
  | some o' =>
      simp only [Tables.insertOffering, Table.contains, hused, Option.isSome_some, if_true]
      exact htaken o' hused
  | none =>
      simp only [Tables.insertOffering, Table.contains, hused, Option.isSome_none, Bool.false_eq_true,
        if_false, replaceOffering_eq ho]
      exact hnew hused

/-- **Changing a status** writes the offering over with it. -/
theorem meets_setStatus {status : Status} {Q : Except Failure (Option Offering) → Tables → Prop}
    (ht : t.Sound) (habsent : t.offerings.get? id = none → Q (.ok none) t)
    (hchanged : ∀ o, t.offerings.get? id = some o →
      let o' := ({ o with status, updatedAt := now } : Offering).stored
      Q (.ok (some o')) (t.put o')) : (setStatus now id status).Meets Q t := by
  refine meets_statement ?_
  unfold Tables.changeOffering
  cases ho : t.offerings.get? id with
  | none => exact habsent ho
  | some o =>
      have hwithin : ({ o with status, updatedAt := now } : Offering).WithinCapacity := ht.counters id o ho
      simp only [replaceOffering_eq hwithin]
      exact hchanged o ho

/-- **Changing a capacity** writes the offering over with it, if it passes the checks. -/
theorem meets_setCapacity {capacity : Int32} {Q : Except Failure (Option Offering) → Tables → Prop}
    (ht : t.Sound) (habsent : t.offerings.get? id = none → Q (.ok none) t)
    (hrefused : ∀ o e, t.offerings.get? id = some o → o.checkCapacity capacity = .error e → Q (.error e) t)
    (hchanged : ∀ o, t.offerings.get? id = some o → o.checkCapacity capacity = .ok () →
      let o' := ({ o with capacity, updatedAt := now } : Offering).stored
      Q (.ok (some o')) (t.put o')) : (setCapacity now id capacity).Meets Q t := by
  refine meets_transaction (meets_bind (meets_lockOffering ?_))
  cases ho : t.offerings.get? id with
  | none => exact meets_pure (habsent ho)
  | some o =>
      cases hcheck : o.checkCapacity capacity with
      | error e => exact meets_bind (meets_lift (hcheck ▸ hrefused o e ho hcheck))
      | ok _ =>
          refine meets_check hcheck (meets_bind (meets_writeLocked ?_ (meets_pure (hchanged o ho hcheck))))
          exact Offering.withinCapacity_of_checkCapacity (ht.counters id o ho) hcheck

/-- **Taking a spot** of sound tables is rejected or carried out. -/
theorem meets_increment {Q : Except Failure CounterChange → Tables → Prop} (ht : t.Sound)
    (habsent : t.offerings.get? id = none → Q (.ok .notFound) t)
    (hrejected : ∀ o, t.offerings.get? id = some o → o.isBookable = false → Q (.ok (.rejected o)) t)
    (happlied : ∀ o, t.offerings.get? id = some o → o.isBookable = true →
      Q (.ok (.applied (o.taken now).stored)) (t.put (o.taken now).stored)) :
    (increment now id).Meets Q t := by
  refine meets_transaction (meets_bind (meets_lockOffering ?_))
  cases ho : t.offerings.get? id with
  | none => exact meets_pure (habsent ho)
  | some o =>
      refine meets_check (ht.check ho) ?_
      cases hbookable : o.isBookable with
      | false => exact meets_pure (hrejected o ho hbookable)
      | true =>
          have hfree : o.isFull = false := by
            simpa using (Bool.and_eq_true_iff.mp hbookable).2
          have hwithin : (o.taken now).WithinCapacity := (ht.counters id o ho).taken hfree
          have hcheck : (o.taken now).stored.checkInvariant = .ok () :=
            Offering.checkInvariant_eq_ok_iff.mpr hwithin
          refine meets_bind (meets_writeLocked hwithin (meets_check hcheck (meets_pure ?_)))
          exact happlied o ho hbookable

/-- **Freeing a spot** of sound tables is rejected or carried out. -/
theorem meets_decrement {Q : Except Failure CounterChange → Tables → Prop} (ht : t.Sound)
    (habsent : t.offerings.get? id = none → Q (.ok .notFound) t)
    (hrejected : ∀ o, t.offerings.get? id = some o → o.bookings.toInt = 0 → Q (.ok (.rejected o)) t)
    (happlied : ∀ o, t.offerings.get? id = some o → 0 < o.bookings.toInt →
      Q (.ok (.applied (o.vacated now).stored)) (t.put (o.vacated now).stored)) :
    (decrement now id).Meets Q t := by
  refine meets_transaction (meets_bind (meets_lockOffering ?_))
  cases ho : t.offerings.get? id with
  | none => exact meets_pure (habsent ho)
  | some o =>
      refine meets_check (ht.check ho) ?_
      obtain ⟨_, hnonneg, _⟩ := Offering.withinCapacity_iff.mp (ht.counters id o ho)
      by_cases hempty : o.bookings ≤ 0
      · simp only [hempty, if_true]
        rw [Int32.le_iff_toInt_le, Int32.toInt_zero] at hempty
        exact meets_pure (hrejected o ho (by omega))
      · have hbooked : 0 < o.bookings.toInt := by
          rwa [Int32.not_le, Int32.lt_iff_toInt_lt, Int32.toInt_zero] at hempty
        have hwithin : (o.vacated now).WithinCapacity := (ht.counters id o ho).vacated hbooked
        have hcheck : (o.vacated now).stored.checkInvariant = .ok () :=
          Offering.checkInvariant_eq_ok_iff.mpr hwithin
        simp only [hempty, if_false]
        refine meets_bind (meets_writeLocked hwithin (meets_check hcheck (meets_pure ?_)))
        exact happlied o ho hbooked

/-- **Storing a booking** is refused if its reference is taken or its offering is not there. -/
theorem meets_storeBooking {b : Booking} {Q : Except Failure Bool → Tables → Prop}
    (htaken : ∀ b', t.bookings.get? b.reference = some b' → Q (.ok false) t)
    (horphan : t.bookings.get? b.reference = none → t.offerings.get? b.offeringId = none →
      ∀ e, Q (.error e) t)
    (hstored : ∀ o, t.bookings.get? b.reference = none → t.offerings.get? b.offeringId = some o →
      Q (.ok true) (t.add b)) : (storeBooking b).Meets Q t := by
  refine meets_statement ?_
  unfold Tables.insertBooking
  cases hused : t.bookings.get? b.reference with
  | some b' =>
      simp only [Table.contains, hused, Option.isSome_some, if_true]
      exact htaken b' hused
  | none =>
      cases ho : t.offerings.get? b.offeringId with
      | none =>
          simp only [Table.contains, hused, ho, Option.isSome_none, Bool.false_eq_true, if_false]
          exact horphan hused ho _
      | some o =>
          simp only [Table.contains, hused, ho, Option.isSome_none, Option.isSome_some, Bool.false_eq_true,
            if_false, if_true]
          exact hstored o hused ho

theorem meets_removeBooking {reference : String} {Q : Except Failure (Option Booking) → Tables → Prop}
    (h : Q (.ok (t.bookings.get? reference)) (t.drop reference)) :
    (removeBooking reference).Meets Q t :=
  meets_statement h

end Database

end DiveSchool
