import DiveSchool.Proofs.Counter

/-!
# `DiveSchool.Proofs.Row` — operations as functions of one row

An operation on an offering reads the row under one id and writes at most that row. So what it answers and
what it leaves under that id are functions of the row, wherever the row is kept, and the moments in a row
decide nothing: rows that differ in their moments alone are answered alike.

## Contents
- **Moments.** `Offering.timeless`, an offering without its moments.
- **Outcomes.** `Reservation.of`, `Freeing.of`, `Offering.resized` and `Offering.moved`: what each
  operation makes of a row. All of them commute with `timeless`.
- **Rows afterwards.** `rowAfter`: the row is the one in the outcome.
- **Memory.** `Memory.ByRow`: every operation of a sound ledger is of this form.
-/

namespace DiveSchool

/-! ## Moments -/

namespace Offering

/-- The offering without its moments. -/
def timeless (o : Offering) : Offering := { o with createdAt := default, updatedAt := default }

variable {o o' : Offering}

/-- Rows that differ in their moments alone agree on whatever does not show them. -/
theorem eq_of_timeless {β : Type} (f : Offering → β) (h : o.timeless = o'.timeless)
    (hf : ∀ o, f o.timeless = f o := by exact fun _ => rfl) : f o = f o' := by
  rw [← hf o, h, hf o']

theorem withinCapacity_of_timeless (h : o.timeless = o'.timeless) (ho : o.WithinCapacity) :
    o'.WithinCapacity := by
  rwa [eq_of_timeless WithinCapacity h] at ho

/-! ## Outcomes -/

/-- The offering with another capacity, if it passes the checks. -/
def resized (now : Timestamp) (capacity : Int32) (o : Offering) : Except Failure Offering :=
  (o.checkCapacity capacity).map fun _ => { o with capacity, updatedAt := now }

/-- The offering with another status. -/
def moved (now : Timestamp) (status : Status) (o : Offering) : Offering :=
  { o with status, updatedAt := now }

theorem timeless_resized (now : Timestamp) (capacity : Int32) (o : Offering) :
    (o.resized now capacity).map timeless = o.timeless.resized default capacity := by
  have hcheck : o.timeless.checkCapacity capacity = o.checkCapacity capacity := rfl
  rw [resized, resized, hcheck]
  cases o.checkCapacity capacity <;> rfl

end Offering

namespace Reservation

/-- What an attempt to take a spot comes to, by the row. -/
def of (now : Timestamp) : Option Offering → Reservation
  | none => notFound
  | some o =>
    if o.status ≠ .published then notBookable o
    else if o.isFull then full o
    else reserved (o.taken now)

/-- The outcome without moments. -/
def timeless : Reservation → Reservation
  | reserved o => reserved o.timeless
  | full o => full o.timeless
  | notBookable o => notBookable o.timeless
  | notFound => notFound

/-- The offering in the outcome. -/
def row? : Reservation → Option Offering
  | reserved o | full o | notBookable o => some o
  | notFound => none

theorem timeless_of (now : Timestamp) (row : Option Offering) :
    (of now row).timeless = of default (row.map Offering.timeless) := by
  cases row with
  | none => rfl
  | some o =>
      have hstatus : o.timeless.status = o.status := rfl
      have hfull : o.timeless.isFull = o.isFull := rfl
      simp only [of, Option.map_some, hstatus, hfull]
      split
      · rfl
      · split <;> rfl

theorem row?_timeless (x : Reservation) : x.timeless.row? = x.row?.map Offering.timeless := by
  cases x <;> rfl

end Reservation

namespace Freeing

/-- What an attempt to free a spot comes to, by the row. -/
def of (now : Timestamp) : Option Offering → Freeing
  | none => notFound
  | some o => if o.bookings.toInt = 0 then empty o else released (o.vacated now)

/-- The outcome without moments. -/
def timeless : Freeing → Freeing
  | released o => released o.timeless
  | empty o => empty o.timeless
  | notFound => notFound

/-- The offering in the outcome. -/
def row? : Freeing → Option Offering
  | released o | empty o => some o
  | notFound => none

theorem timeless_of (now : Timestamp) (row : Option Offering) :
    (of now row).timeless = of default (row.map Offering.timeless) := by
  cases row with
  | none => rfl
  | some o =>
      have hbookings : o.timeless.bookings = o.bookings := rfl
      simp only [of, Option.map_some, hbookings]
      split <;> rfl

theorem row?_timeless (x : Freeing) : x.timeless.row? = x.row?.map Offering.timeless := by
  cases x <;> rfl

end Freeing

/-! ## Rows afterwards -/

/-- The row after an operation: a failure leaves it as it was, and otherwise it is in the outcome. -/
def rowAfter {α : Type} (row? : α → Option Offering) (before : Option Offering) :
    Except Failure α → Option Offering
  | .error _ => before
  | .ok a => row? a

/-- Rows that were alike are alike after outcomes that are. -/
theorem rowAfter_timeless {α : Type} {row? : α → Option Offering} {timeless : α → α}
    (hrow : ∀ a, row? (timeless a) = (row? a).map Offering.timeless) {before before' : Option Offering}
    (hbefore : before.map Offering.timeless = before'.map Offering.timeless) {x y : Except Failure α}
    (h : x.map timeless = y.map timeless) :
    (rowAfter row? before x).map Offering.timeless = (rowAfter row? before' y).map Offering.timeless := by
  rcases x with e | a <;> rcases y with e' | a'
  · exact hbefore
  · cases h
  · cases h
  · have hsame : timeless a = timeless a' := Except.ok.inj h
    simp only [rowAfter, ← hrow, hsame]

/-! ## Memory -/

namespace Memory

variable {m : Memory} {now : Timestamp} {id : OfferingId} {o : Offering} {α : Type}

/-- An operation on the offering with an id answers by its row, unless the lock is held, and leaves the row
    that is in the answer. -/
structure ByRow (m : Memory) (id : OfferingId) (f : Option Offering → Except Failure α)
    (row? : α → Option Offering) (reply : Reply Memory (Except Failure α)) : Prop where
  answer : reply.answer = (m.find id).answer.bind f
  row : reply.state.offerings.get? id = rowAfter row? (m.offerings.get? id) reply.answer

/-- What is stored after a change of the offering under its own id. -/
theorem Sound.get?_put_self (hm : m.Sound) (h : m.offerings.get? id = some o) {o' : Offering}
    (hid : o'.id = o.id) : (m.put o').offerings.get? id = some o' := by
  rw [hm.get?_put h o' hid, if_pos rfl]

theorem underLock_of_free {absent : Except Failure α} {body : Offering → Reply Memory (Except Failure α)}
    (ho : m.offerings.get? id = some o) (hheld : id ∉ m.held) :
    m.underLock id absent body = body o := by
  simp only [underLock, ho, List.contains_iff_mem, hheld, if_false]

/-- Without the offering and under a held lock nothing depends on the operation, so all of them are by row
    that are so under a free lock. -/
theorem byRow_underLock {absent : Except Failure α} {body : Offering → Reply Memory (Except Failure α)}
    {f : Option Offering → Except Failure α} {row? : α → Option Offering} (habsent : absent = f none)
    (hnone : rowAfter row? none (f none) = none)
    (hfree : ∀ o, m.offerings.get? id = some o → id ∉ m.held →
      (m.underLock id absent body).answer = f (some o) ∧
      (m.underLock id absent body).state.offerings.get? id = rowAfter row? (some o) (f (some o))) :
    m.ByRow id f row? (m.underLock id absent body) := by
  cases ho : m.offerings.get? id with
  | none =>
      constructor
      · simp only [underLock, find, ho, habsent, Except.bind]
      · simp only [underLock, ho, habsent, hnone]
  | some o =>
      by_cases hheld : id ∈ m.held
      · constructor
        · simp only [underLock, find, ho, List.contains_iff_mem, hheld, if_true, Except.bind]
        · simp only [underLock, ho, List.contains_iff_mem, hheld, if_true, rowAfter]
      · obtain ⟨hanswer, hrow⟩ := hfree o ho hheld
        constructor
        · rw [hanswer, find_eq ho hheld]
          rfl
        · rw [hrow, hanswer, ho]

theorem byRow_find (m : Memory) (id : OfferingId) :
    m.ByRow id (fun row => .ok row) (fun row => row) (m.find id) := by
  refine byRow_underLock rfl rfl fun o ho hheld => ?_
  rw [underLock_of_free ho hheld]
  exact ⟨rfl, ho⟩

theorem Sound.byRow_reserve (hm : m.Sound) (now : Timestamp) (id : OfferingId) :
    m.ByRow id (fun row => .ok (.of now row)) Reservation.row? (m.reserve now id) := by
  refine byRow_underLock rfl rfl fun o ho hheld => ?_
  have hstep := hm.reserveStep now id
  change (m.reserve now id).answer = _ ∧ (m.reserve now id).state.offerings.get? id = _
  generalize m.reserve now id = reply at hstep
  cases hstep with
  | absent hnone => cases ho.symm.trans hnone
  | locked _ hlocked => exact absurd hlocked hheld
  | closed ho' hstatus =>
      cases ho.symm.trans ho'
      simp only [Reservation.of, ne_eq, hstatus, not_false_eq_true, if_true]
      exact ⟨trivial, ho⟩
  | full ho' hstatus hfull =>
      cases ho.symm.trans ho'
      simp only [Reservation.of, hstatus, hfull, ne_eq, not_true_eq_false, if_false, if_true]
      exact ⟨trivial, ho⟩
  | reserved ho' hstatus hfree =>
      cases ho.symm.trans ho'
      simp only [Reservation.of, hstatus, hfree, ne_eq, not_true_eq_false, Bool.false_eq_true, if_false]
      exact ⟨trivial, hm.get?_put_self ho rfl⟩

theorem Sound.byRow_release (hm : m.Sound) (now : Timestamp) (id : OfferingId) :
    m.ByRow id (fun row => .ok (.of now row)) Freeing.row? (m.release now id) := by
  refine byRow_underLock rfl rfl fun o ho hheld => ?_
  change (m.release now id).answer = _ ∧ (m.release now id).state.offerings.get? id = _
  simp only [hm.release_eq ho hheld, Freeing.of]
  split
  · exact ⟨rfl, ho⟩
  · exact ⟨rfl, hm.get?_put_self ho rfl⟩

/-- What a change of capacity comes to, by the row. -/
def resizing (now : Timestamp) (id : OfferingId) (capacity : Int32) :
    Option Offering → Except Failure Offering
  | none => .error (Offering.unknown id)
  | some o => o.resized now capacity

/-- What a change of status comes to, by the row. -/
def moving (now : Timestamp) (id : OfferingId) (status : Status) :
    Option Offering → Except Failure Offering
  | none => .error (Offering.unknown id)
  | some o => .ok (o.moved now status)

theorem timeless_resizing (now : Timestamp) (id : OfferingId) (capacity : Int32)
    (row : Option Offering) : (resizing now id capacity row).map Offering.timeless =
      resizing default id capacity (row.map Offering.timeless) := by
  cases row with
  | none => rfl
  | some o => exact Offering.timeless_resized now capacity o

theorem timeless_moving (now : Timestamp) (id : OfferingId) (status : Status) (row : Option Offering) :
    (moving now id status row).map Offering.timeless =
      moving default id status (row.map Offering.timeless) := by
  cases row <;> rfl

theorem Sound.byRow_setCapacity (hm : m.Sound) (now : Timestamp) (id : OfferingId) (capacity : Int32) :
    m.ByRow id (resizing now id capacity) some (m.setCapacity now id capacity) := by
  refine byRow_underLock rfl rfl fun o ho hheld => ?_
  change (m.setCapacity now id capacity).answer = _ ∧
    (m.setCapacity now id capacity).state.offerings.get? id = _
  have hstep := hm.capacityStep now id capacity
  generalize m.setCapacity now id capacity = reply at hstep
  cases hstep with
  | absent hnone => cases ho.symm.trans hnone
  | locked _ hlocked => exact absurd hlocked hheld
  | refused ho' hcheck =>
      cases ho.symm.trans ho'
      simp only [resizing, Offering.resized, hcheck, Except.map]
      exact ⟨trivial, ho⟩
  | changed ho' hcheck =>
      cases ho.symm.trans ho'
      simp only [resizing, Offering.resized, hcheck, Except.map]
      exact ⟨trivial, hm.get?_put_self ho rfl⟩

theorem Sound.byRow_setStatus (hm : m.Sound) (now : Timestamp) (id : OfferingId) (status : Status) :
    m.ByRow id (moving now id status) some (m.setStatus now id status) := by
  refine byRow_underLock rfl rfl fun o ho hheld => ?_
  change (m.setStatus now id status).answer = _ ∧
    (m.setStatus now id status).state.offerings.get? id = _
  have hstep := statusStep m now id status
  generalize m.setStatus now id status = reply at hstep
  cases hstep with
  | absent hnone => cases ho.symm.trans hnone
  | locked _ hlocked => exact absurd hlocked hheld
  | changed ho' =>
      cases ho.symm.trans ho'
      exact ⟨rfl, hm.get?_put_self ho rfl⟩

/-- What the addition of an offering comes to, by the row under its id. -/
def adding (o : Offering) (row : Option Offering) : Except Failure Unit :=
  match o.checkInvariant with
  | .error e => .error e
  | .ok () => if row.isSome then .error (Offering.duplicate o.id) else .ok ()

theorem answer_insert (m : Memory) (o : Offering) :
    (m.insert o).answer = adding o (m.offerings.get? o.id) := by
  have hcheck : m.checkNew o = adding o (m.offerings.get? o.id) := rfl
  rw [← hcheck, insert]
  cases m.checkNew o <;> rfl

theorem row_insert (m : Memory) (o : Offering) : (m.insert o).state.offerings.get? o.id =
    rowAfter (fun _ => some o) (m.offerings.get? o.id) (m.insert o).answer := by
  unfold insert
  cases m.checkNew o with
  | error e => rfl
  | ok _ => exact Table.get?_insert_self m.offerings o.id o

end Memory

end DiveSchool
