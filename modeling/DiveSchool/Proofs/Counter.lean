import DiveSchool.Ledger.Memory

/-!
# `DiveSchool.Proofs.Counter` — what one operation does to a counter

The counter of an offering is a 32-bit number. On an offering within its capacity the arithmetic on it is
that of the integers, and every operation of the ledger in memory does one of few things, written down
here as one relation per operation (`FindStep`, `ReserveStep`, `ReleaseStep`, `CapacityStep` and so on).
The checks of the invariant that the operations make do not occur in these relations: in a sound ledger
they never fail.

## Contents
- **Counting.** `Offering.taken`, `Offering.vacated`, and the integers behind the counters.
- **Sound ledgers.** `Memory.Sound`.
- **Steps.** What each operation of a sound ledger answers and leaves behind.
- **Free locks.** Where the lock is free, the three operations on a counter are equations.
-/

namespace DiveSchool

/-! ## Counting -/

namespace Offering

variable {o : Offering} {now : Timestamp}

/-- The offering with one more spot booked. -/
def taken (o : Offering) (now : Timestamp) : Offering :=
  { o with bookings := o.bookings + 1, updatedAt := now }

/-- The offering with one spot less booked. -/
def vacated (o : Offering) (now : Timestamp) : Offering :=
  { o with bookings := o.bookings - 1, updatedAt := now }

theorem withinCapacity_iff : o.WithinCapacity ↔
    1 ≤ o.capacity.toInt ∧ 0 ≤ o.bookings.toInt ∧ o.bookings.toInt ≤ o.capacity.toInt := by
  simp only [WithinCapacity, Int32.le_iff_toInt_le, Int32.toInt_one, Int32.toInt_zero]

theorem isFull_iff : o.isFull = true ↔ o.capacity.toInt ≤ o.bookings.toInt := by
  simp only [isFull, decide_eq_true_eq, Int32.le_iff_toInt_le]

theorem isFull_eq_false_iff : o.isFull = false ↔ o.bookings.toInt < o.capacity.toInt := by
  rw [← Bool.not_eq_true, isFull_iff, Int.not_le]

/-- Taking a spot that is free does not overflow. -/
theorem toInt_bookings_add_one (h : o.isFull = false) :
    (o.bookings + 1).toInt = o.bookings.toInt + 1 := by
  have hlt := isFull_eq_false_iff.mp h
  have hlow := o.bookings.le_toInt
  have hhigh := o.capacity.toInt_lt
  rw [Int32.toInt_add, Int32.toInt_one]
  exact Int.bmod_eq_of_le (by omega) (by omega)

/-- Freeing a spot that is booked does not overflow. -/
theorem toInt_bookings_sub_one (h : 0 < o.bookings.toInt) :
    (o.bookings - 1).toInt = o.bookings.toInt - 1 := by
  have hhigh := o.bookings.toInt_lt
  rw [Int32.toInt_sub, Int32.toInt_one]
  exact Int.bmod_eq_of_le (by omega) (by omega)

/-- Counting the free spots does not overflow. -/
theorem WithinCapacity.toInt_sub (h : o.WithinCapacity) :
    (o.capacity - o.bookings).toInt = o.capacity.toInt - o.bookings.toInt := by
  obtain ⟨_, hb, hle⟩ := withinCapacity_iff.mp h
  have hhigh := o.capacity.toInt_lt
  rw [Int32.toInt_sub]
  exact Int.bmod_eq_of_le (by omega) (by omega)

theorem WithinCapacity.toInt_available (h : o.WithinCapacity) :
    o.available.toInt = o.capacity.toInt - o.bookings.toInt := by
  obtain ⟨_, _, hle⟩ := withinCapacity_iff.mp h
  have hfree : ¬ o.capacity - o.bookings < 0 := by
    rw [Int32.lt_iff_toInt_lt, h.toInt_sub, Int32.toInt_zero]
    omega
  simp only [available, hfree, if_false, h.toInt_sub]

theorem WithinCapacity.taken (h : o.WithinCapacity) (hfree : o.isFull = false) :
    (o.taken now).WithinCapacity := by
  obtain ⟨hc, hb, _⟩ := withinCapacity_iff.mp h
  have hlt := isFull_eq_false_iff.mp hfree
  have hadd := toInt_bookings_add_one hfree
  refine withinCapacity_iff.mpr ⟨hc, ?_, ?_⟩ <;> simp only [Offering.taken] <;> omega

theorem WithinCapacity.vacated (h : o.WithinCapacity) (hbooked : 0 < o.bookings.toInt) :
    (o.vacated now).WithinCapacity := by
  obtain ⟨hc, hb, hle⟩ := withinCapacity_iff.mp h
  have hsub := toInt_bookings_sub_one hbooked
  refine withinCapacity_iff.mpr ⟨hc, ?_, ?_⟩ <;> simp only [Offering.vacated] <;> omega

theorem increment?_of_free (h : o.isFull = false) : o.increment? now = some (o.taken now) := by
  simp only [increment?, h]
  rfl

theorem decrement?_of_booked (h : 0 < o.bookings.toInt) :
    o.decrement? now = some (o.vacated now) := by
  have hpos : ¬ o.bookings ≤ 0 := by
    rw [Int32.le_iff_toInt_le, Int32.toInt_zero]
    omega
  simp only [decrement?, hpos, if_false]
  rfl

theorem decrement?_of_empty (h : o.bookings.toInt ≤ 0) : o.decrement? now = none := by
  rw [← Int32.toInt_zero, ← Int32.le_iff_toInt_le] at h
  simp only [decrement?, h, if_true]

/-- A change of capacity that passes the checks keeps the offering within it. -/
theorem withinCapacity_of_checkCapacity {capacity : Int32} (h : o.WithinCapacity)
    (hcheck : o.checkCapacity capacity = .ok ()) :
    ({ o with capacity, updatedAt := now } : Offering).WithinCapacity := by
  unfold checkCapacity at hcheck
  split at hcheck
  · cases hcheck
  · next hsmall =>
      split at hcheck
      · cases hcheck
      · split at hcheck
        · cases hcheck
        · next hfew => exact ⟨Int32.not_lt.mp hsmall, h.2.1, Int32.not_lt.mp hfew⟩

/-- The checks of a new capacity refuse it as invalid, not as a broken invariant. -/
theorem kind_of_checkCapacity {capacity : Int32} {e : Failure}
    (hcheck : o.checkCapacity capacity = .error e) : e.kind = .validation := by
  unfold checkCapacity checkKindCapacity at hcheck
  split at hcheck
  · cases hcheck; rfl
  · split at hcheck
    · next e' hkind =>
        cases hcheck
        split at hkind
        · split at hkind <;> cases hkind
          rfl
        · cases hkind
    · split at hcheck <;> cases hcheck
      rfl

end Offering

/-! ## Sound ledgers -/

namespace Memory

variable {m : Memory} {now : Timestamp} {id : OfferingId} {o : Offering}

/-- Every offering is stored under its own id and within its capacity. -/
def Sound (m : Memory) : Prop :=
  ∀ id o, m.offerings.get? id = some o → o.id = id ∧ o.WithinCapacity

theorem sound_empty (lockTimeout : Nat) (records : Table String Booking) :
    Sound { empty lockTimeout with records } := by
  intro id o h
  cases h

theorem get?_put (o : Offering) (id : OfferingId) :
    (m.put o).offerings.get? id = if id = o.id then some o else m.offerings.get? id :=
  Table.get?_insert m.offerings o.id id o

theorem Sound.put (hm : m.Sound) (ho : o.WithinCapacity) : (m.put o).Sound := by
  intro id o' h
  rw [get?_put] at h
  split at h
  · next hid => cases h; exact ⟨hid.symm, ho⟩
  · exact hm id o' h

/-- What is stored after a change of one offering. -/
theorem Sound.get?_put (hm : m.Sound) (h : m.offerings.get? id = some o) (o' : Offering)
    (hid : o'.id = o.id) (id' : OfferingId) :
    (m.put o').offerings.get? id' = if id' = id then some o' else m.offerings.get? id' := by
  rw [Memory.get?_put, hid, (hm id o h).1]

theorem Sound.get?_put_of_ne (hm : m.Sound) {o' : Offering} {id' : OfferingId}
    (h : m.offerings.get? id = some o) (hid : o'.id = o.id) (hne : id' ≠ id) :
    (m.put o').offerings.get? id' = m.offerings.get? id' := by
  rw [hm.get?_put h o' hid, if_neg hne]

/-- What is stored after a change of one offering is that offering or was stored before. -/
theorem Sound.of_get?_put (hm : m.Sound) {o' o'' : Offering} {id' : OfferingId}
    (h : m.offerings.get? id' = some o') (ho : (m.put o'').offerings.get? id = some o)
    (hid : o''.id = o'.id) :
    (id = id' ∧ o = o'') ∨ (id ≠ id' ∧ m.offerings.get? id = some o) := by
  rw [hm.get?_put h o'' hid] at ho
  split at ho
  · next hsame => exact Or.inl ⟨hsame, (Option.some.inj ho).symm⟩
  · next hne => exact Or.inr ⟨hne, ho⟩

theorem Sound.check (hm : m.Sound) (h : m.offerings.get? id = some o) :
    o.checkInvariant = .ok () := Offering.checkInvariant_eq_ok_iff.mpr (hm id o h).2

/-! ## Steps -/

/-- What a look-up can come to. -/
inductive FindStep (m : Memory) (id : OfferingId) :
    Reply Memory (Except Failure (Option Offering)) → Prop
  | absent (h : m.offerings.get? id = none) : FindStep m id ⟨.ok none, m, []⟩
  | locked {o : Offering} (h : m.offerings.get? id = some o) (hheld : id ∈ m.held) :
      FindStep m id ⟨.error timedOut, m, [.lockTimedOut m.lockTimeout]⟩
  | found {o : Offering} (h : m.offerings.get? id = some o) : FindStep m id ⟨.ok (some o), m, []⟩

/-- What an attempt to take a spot can come to. -/
inductive ReserveStep (m : Memory) (now : Timestamp) (id : OfferingId) :
    Reply Memory (Except Failure Reservation) → Prop
  | absent (h : m.offerings.get? id = none) : ReserveStep m now id ⟨.ok .notFound, m, []⟩
  | locked {o : Offering} (h : m.offerings.get? id = some o) (hheld : id ∈ m.held) :
      ReserveStep m now id ⟨.error timedOut, m, [.lockTimedOut m.lockTimeout]⟩
  | closed {o : Offering} (h : m.offerings.get? id = some o) (hstatus : o.status ≠ .published) :
      ReserveStep m now id ⟨.ok (.notBookable o), m, []⟩
  | full {o : Offering} (h : m.offerings.get? id = some o) (hstatus : o.status = .published)
      (hfull : o.isFull = true) : ReserveStep m now id ⟨.ok (.full o), m, [.raceLost id]⟩
  | reserved {o : Offering} (h : m.offerings.get? id = some o) (hstatus : o.status = .published)
      (hfree : o.isFull = false) :
      ReserveStep m now id ⟨.ok (.reserved (o.taken now)), m.put (o.taken now), []⟩

/-- What an attempt to free a spot can come to. -/
inductive ReleaseStep (m : Memory) (now : Timestamp) (id : OfferingId) :
    Reply Memory (Except Failure Freeing) → Prop
  | absent (h : m.offerings.get? id = none) : ReleaseStep m now id ⟨.ok .notFound, m, []⟩
  | locked {o : Offering} (h : m.offerings.get? id = some o) (hheld : id ∈ m.held) :
      ReleaseStep m now id ⟨.error timedOut, m, [.lockTimedOut m.lockTimeout]⟩
  | empty {o : Offering} (h : m.offerings.get? id = some o) (hempty : o.bookings.toInt = 0) :
      ReleaseStep m now id ⟨.ok (.empty o), m, []⟩
  | released {o : Offering} (h : m.offerings.get? id = some o) (hbooked : 0 < o.bookings.toInt) :
      ReleaseStep m now id ⟨.ok (.released (o.vacated now)), m.put (o.vacated now), []⟩

/-- What a change of capacity can come to. -/
inductive CapacityStep (m : Memory) (now : Timestamp) (id : OfferingId) (capacity : Int32) :
    Reply Memory (Except Failure Offering) → Prop
  | absent (h : m.offerings.get? id = none) :
      CapacityStep m now id capacity ⟨.error (Offering.unknown id), m, []⟩
  | locked {o : Offering} (h : m.offerings.get? id = some o) (hheld : id ∈ m.held) :
      CapacityStep m now id capacity ⟨.error timedOut, m, [.lockTimedOut m.lockTimeout]⟩
  | refused {o : Offering} {e : Failure} (h : m.offerings.get? id = some o)
      (hcheck : o.checkCapacity capacity = .error e) :
      CapacityStep m now id capacity ⟨.error e, m, []⟩
  | changed {o : Offering} (h : m.offerings.get? id = some o)
      (hcheck : o.checkCapacity capacity = .ok ()) :
      CapacityStep m now id capacity ⟨.ok { o with capacity, updatedAt := now },
        m.put { o with capacity, updatedAt := now }, [.capacityUpdated id capacity]⟩

/-- What a change of status can come to. -/
inductive StatusStep (m : Memory) (now : Timestamp) (id : OfferingId) (status : Status) :
    Reply Memory (Except Failure Offering) → Prop
  | absent (h : m.offerings.get? id = none) :
      StatusStep m now id status ⟨.error (Offering.unknown id), m, []⟩
  | locked {o : Offering} (h : m.offerings.get? id = some o) (hheld : id ∈ m.held) :
      StatusStep m now id status ⟨.error timedOut, m, [.lockTimedOut m.lockTimeout]⟩
  | changed {o : Offering} (h : m.offerings.get? id = some o) :
      StatusStep m now id status ⟨.ok { o with status, updatedAt := now },
        m.put { o with status, updatedAt := now }, [.statusUpdated id status]⟩

/-- What the addition of an offering can come to. -/
inductive AddStep (m : Memory) (o : Offering) : Reply Memory (Except Failure Unit) → Prop
  | refused {e : Failure} : AddStep m o ⟨.error e, m, []⟩
  | added (hnew : m.offerings.get? o.id = none) (ho : o.WithinCapacity) :
      AddStep m o ⟨.ok (), m.put o, [.offeringAdded o.id o.name o.capacity]⟩

theorem findStep (m : Memory) (id : OfferingId) : FindStep m id (m.find id) := by
  unfold find underLock
  cases h : m.offerings.get? id with
  | none => exact .absent h
  | some o =>
      by_cases hheld : m.held.contains id = true
      · simp only [hheld, if_true]
        exact .locked h (List.contains_iff_mem.mp hheld)
      · simp only [hheld]
        exact .found h

theorem Sound.reserveStep (hm : m.Sound) (now : Timestamp) (id : OfferingId) :
    ReserveStep m now id (m.reserve now id) := by
  unfold reserve underLock
  cases h : m.offerings.get? id with
  | none => exact .absent h
  | some o =>
      by_cases hheld : m.held.contains id = true
      · simp only [hheld, if_true]
        exact .locked h (List.contains_iff_mem.mp hheld)
      · simp only [hheld, hm.check h]
        by_cases hstatus : o.status = .published
        · have hopen : (!o.status.acceptsBookings) = false := by
            simp [Status.acceptsBookings, hstatus]
          cases hfull : o.isFull with
          | true =>
              simp only [hopen, Offering.increment?, hfull, if_true]
              exact .full h hstatus hfull
          | false =>
              have hok : (o.taken now).checkInvariant = .ok () :=
                Offering.checkInvariant_eq_ok_iff.mpr ((hm id o h).2.taken hfull)
              simp only [hopen, Offering.increment?_of_free hfull, hok]
              exact .reserved h hstatus hfull
        · have hclosed : (!o.status.acceptsBookings) = true := by
            simp [Status.acceptsBookings, hstatus]
          simp only [hclosed, if_true]
          exact .closed h hstatus

theorem Sound.releaseStep (hm : m.Sound) (now : Timestamp) (id : OfferingId) :
    ReleaseStep m now id (m.release now id) := by
  unfold release underLock
  cases h : m.offerings.get? id with
  | none => exact .absent h
  | some o =>
      by_cases hheld : m.held.contains id = true
      · simp only [hheld, if_true]
        exact .locked h (List.contains_iff_mem.mp hheld)
      · simp only [hheld, hm.check h]
        obtain ⟨_, hb, _⟩ := Offering.withinCapacity_iff.mp (hm id o h).2
        by_cases hempty : o.bookings.toInt = 0
        · simp only [Offering.decrement?_of_empty (Int.le_of_eq hempty)]
          exact .empty h hempty
        · have hbooked : 0 < o.bookings.toInt := by omega
          have hok : (o.vacated now).checkInvariant = .ok () :=
            Offering.checkInvariant_eq_ok_iff.mpr ((hm id o h).2.vacated hbooked)
          simp only [Offering.decrement?_of_booked hbooked, hok]
          exact .released h hbooked

theorem Sound.capacityStep (hm : m.Sound) (now : Timestamp) (id : OfferingId) (capacity : Int32) :
    CapacityStep m now id capacity (m.setCapacity now id capacity) := by
  unfold setCapacity underLock
  cases h : m.offerings.get? id with
  | none => exact .absent h
  | some o =>
      by_cases hheld : m.held.contains id = true
      · simp only [hheld, if_true]
        exact .locked h (List.contains_iff_mem.mp hheld)
      · simp only [hheld]
        cases hcheck : o.checkCapacity capacity with
        | error e => exact .refused h hcheck
        | ok _ =>
            have hok : ({ o with capacity, updatedAt := now } : Offering).checkInvariant = .ok () :=
              Offering.checkInvariant_eq_ok_iff.mpr
                (Offering.withinCapacity_of_checkCapacity (hm id o h).2 hcheck)
            simp only [hok]
            exact .changed h hcheck

theorem statusStep (m : Memory) (now : Timestamp) (id : OfferingId) (status : Status) :
    StatusStep m now id status (m.setStatus now id status) := by
  unfold setStatus underLock
  cases h : m.offerings.get? id with
  | none => exact .absent h
  | some o =>
      by_cases hheld : m.held.contains id = true
      · simp only [hheld, if_true]
        exact .locked h (List.contains_iff_mem.mp hheld)
      · simp only [hheld]
        exact .changed h

theorem addStep (m : Memory) (o : Offering) : AddStep m o (m.insert o) := by
  unfold insert
  cases hcheck : m.checkNew o with
  | error e => exact .refused
  | ok _ =>
      unfold checkNew at hcheck
      split at hcheck
      · cases hcheck
      · next ho =>
          split at hcheck
          · cases hcheck
          · next hnew =>
              exact .added (by simpa [Table.contains] using hnew)
                (Offering.checkInvariant_eq_ok_iff.mp ho)

/-! ## Free locks -/

/-- A look-up under a free lock shows what is stored. -/
theorem find_eq (ho : m.offerings.get? id = some o) (hheld : id ∉ m.held) :
    m.find id = ⟨.ok (some o), m, []⟩ := by
  have hstep := findStep m id
  generalize m.find id = reply at hstep
  cases hstep with
  | absent hnone => cases ho.symm.trans hnone
  | locked _ hlocked => exact absurd hlocked hheld
  | found ho' => cases ho.symm.trans ho'; rfl

/-- Under a free lock, a spot of an open offering is given if there is one. -/
theorem Sound.reserve_eq (hm : m.Sound) (ho : m.offerings.get? id = some o) (hheld : id ∉ m.held)
    (hopen : o.status = .published) :
    m.reserve now id = if o.isFull then ⟨.ok (.full o), m, [.raceLost id]⟩
      else ⟨.ok (.reserved (o.taken now)), m.put (o.taken now), []⟩ := by
  have hstep := hm.reserveStep now id
  generalize m.reserve now id = reply at hstep
  cases hstep with
  | absent hnone => cases ho.symm.trans hnone
  | locked _ hlocked => exact absurd hlocked hheld
  | closed ho' hstatus => cases ho.symm.trans ho'; exact absurd hopen hstatus
  | full ho' _ hfull => cases ho.symm.trans ho'; rw [if_pos hfull]
  | reserved ho' _ hfree => cases ho.symm.trans ho'; simp only [hfree]; rfl

/-- Under a free lock, a spot is freed if one is booked. -/
theorem Sound.release_eq (hm : m.Sound) (ho : m.offerings.get? id = some o) (hheld : id ∉ m.held) :
    m.release now id = if o.bookings.toInt = 0 then ⟨.ok (.empty o), m, []⟩
      else ⟨.ok (.released (o.vacated now)), m.put (o.vacated now), []⟩ := by
  have hstep := hm.releaseStep now id
  generalize m.release now id = reply at hstep
  cases hstep with
  | absent hnone => cases ho.symm.trans hnone
  | locked _ hlocked => exact absurd hlocked hheld
  | empty ho' hempty => cases ho.symm.trans ho'; rw [if_pos hempty]
  | released ho' hbooked => cases ho.symm.trans ho'; rw [if_neg (Int.ne_of_gt hbooked)]

end Memory

end DiveSchool
