import DiveSchool.Proofs.Effect

/-!
# `DiveSchool.Proofs.Capacity` — no run ever overbooks

Whatever clients, the catalogue, faults and locks do at the same time, every offering in the ledger stays
within its capacity. So the checks of the invariant that the operations make never fail, no sum or
difference overflows, and every counter that a client is shown adds up.

## Contents
- **Consequences in a sound ledger.** `Offering.CountsExactly`, `Memory.NeverInternal`.
- **Snapshots.** `sightings`: a call only sees offerings within capacity, so what it shows is exact.
- **Main result.** `capacity_invariant`.
-/

namespace DiveSchool

/-! ## Consequences in a sound ledger -/

/-- Every sum and difference that is formed on the counter is that of the integers. -/
structure Offering.CountsExactly (o : Offering) : Prop where
  taken : o.isFull = false → (o.bookings + 1).toInt = o.bookings.toInt + 1
  vacated : 0 < o.bookings → (o.bookings - 1).toInt = o.bookings.toInt - 1
  difference : (o.capacity - o.bookings).toInt = o.capacity.toInt - o.bookings.toInt

theorem Offering.WithinCapacity.countsExactly {o : Offering} (h : o.WithinCapacity) :
    o.CountsExactly where
  taken := toInt_bookings_add_one
  vacated hbooked := toInt_bookings_sub_one (by
    rwa [Int32.lt_iff_toInt_lt, Int32.toInt_zero] at hbooked)
  difference := h.toInt_sub

namespace Memory

variable {m : Memory}

/-- No operation, made at any time on any offering, finds an invariant broken. -/
structure NeverInternal (m : Memory) : Prop where
  reserve : ∀ now id e, (m.reserve now id).answer = .error e → e.kind ≠ .internal
  release : ∀ now id e, (m.release now id).answer = .error e → e.kind ≠ .internal
  setCapacity : ∀ now id capacity e,
    (m.setCapacity now id capacity).answer = .error e → e.kind ≠ .internal

theorem Sound.neverInternal (hm : m.Sound) : m.NeverInternal where
  reserve now id e he := by
    have hstep := hm.reserveStep now id
    generalize m.reserve now id = reply at hstep he
    cases hstep <;> cases he
    decide
  release now id e he := by
    have hstep := hm.releaseStep now id
    generalize m.release now id = reply at hstep he
    cases hstep <;> cases he
    decide
  setCapacity now id capacity e he := by
    have hstep := hm.capacityStep now id capacity
    generalize m.setCapacity now id capacity = reply at hstep he
    cases hstep with
    | absent _ => cases he; simp [Offering.unknown]
    | locked _ _ => cases he; decide
    | refused _ hcheck => cases he; simp [Offering.kind_of_checkCapacity hcheck]
    | changed _ _ => cases he

end Memory

/-! ## Snapshots -/

/-- The free spots that a snapshot shows are its capacity less its bookings. -/
def Snapshot.Exact (s : Snapshot) : Prop := s.available.toInt = s.capacity.toInt - s.bookings.toInt

/-- An offering that comes with an answer is within its capacity. -/
def Sighted : (r : Request) → r.Answer → Prop
  | .find _, .ok (some o) => o.WithinCapacity
  | .release _, .ok (.released o) => o.WithinCapacity
  | _, _ => True

/-- A call may do what it likes; if all it sees is within capacity, all it shows is exact. -/
def sightings : Charter Unit where
  protocol _ := { start := (), may := fun _ _ => True, heard := fun _ => Sighted, next := fun _ _ _ => () }
  ends _ _ e := ∀ s, e.snapshot? = some s → s.Exact

theorem Offering.WithinCapacity.exact {o : Offering} (h : o.WithinCapacity) : o.snapshot.Exact :=
  h.toInt_available

theorem exact_of_freed {id : OfferingId} {x : Except Failure Freeing}
    (h : Sighted (.release id) x) {s : Snapshot}
    (hs : (Ending.freed (Desk.freed id x)).snapshot? = some s) : s.Exact := by
  rcases x with cause | (o | _ | _) <;> cases hs
  exact Offering.WithinCapacity.exact h

/-- An answer of a sound ledger shows offerings within capacity only. -/
theorem sighted_respond {w : World Memory} (hm : w.state.Sound) (fault : Option Failure)
    (r : Request) : Sighted r (respond fault r w).1 := by
  have heffect := hm.requestEffect fault r
  generalize (respond fault r w).1 = x, (respond fault r w).2.state = m' at heffect ⊢
  cases heffect with
  | nothing hx =>
      cases r with
      | find id => rcases x with cause | (_ | o) <;> first | exact trivial | exact hx.elim
      | release id => rcases x with cause | (o | _ | _) <;> first | exact trivial | exact hx.elim
      | _ => exact trivial
  | looked ho => exact (hm _ _ ho).2
  | freed ho hbooked => exact (hm _ _ ho).2.vacated hbooked
  | _ => exact trivial

/-- **Every call** keeps to it: what it shows, it has seen. -/
theorem grants_sightings (d : Desk) (c : Call) : sightings.Grants d c := by
  have hledger : (sightings.protocol c).LedgerOnly := by
    constructor <;> intros <;> exact fun _ => ⟨trivial, fun _ => rfl⟩
  cases c with
  | book now id holder =>
      exact Procedure.follows_bind.mpr
        (Procedure.follows_of_forall (fun _ _ => trivial) fun _ _ _ hs => nomatch hs)
  | bookRecorded now id holder =>
      exact Procedure.follows_bind.mpr
        (Procedure.follows_of_forall (fun _ _ => trivial) fun _ _ _ hs => nomatch hs)
  | release id =>
      refine Procedure.follows_bind.mpr (Desk.follows_release hledger.log trivial ?_)
      intro x hx s hs
      exact exact_of_freed hx hs
  | cancel reference =>
      refine Procedure.follows_bind.mpr (Desk.follows_cancel hledger ?_ fun id => ⟨trivial, ?_⟩)
      · intro s hs
        cases hs
      · intro x hx s hs
        exact exact_of_freed hx hs
  | cancelRecorded reference =>
      refine Procedure.follows_bind.mpr (Desk.follows_cancelRecorded hledger trivial ?_ ?_ ?_)
      · intro cause _ s hs
        cases hs
      · intro _ s hs
        cases hs
      · refine fun b _ => ⟨trivial, ?_⟩
        rintro (cause | x) hx
        · exact Procedure.follows_of_forall (fun _ _ => trivial) fun _ _ _ hs => nomatch hs
        · intro s hs
          exact exact_of_freed hx hs
  | availability id =>
      refine Procedure.follows_bind.mpr (Desk.follows_availability trivial ?_)
      rintro (cause | (_ | o)) hx s hs <;> cases hs
      exact Offering.WithinCapacity.exact hx

/-- A sound ledger shows its callers offerings within capacity, and stays sound: the two go together
    through a run. -/
theorem sightings_run {d : Desk} {t : Traffic} (hm : t.world.state.Sound)
    (hc : ∀ c ∈ t.callers, sightings.KeptBy c) (moves : List Move) :
    (t.run d moves).world.state.Sound ∧ ∀ c ∈ (t.run d moves).callers, sightings.KeptBy c := by
  refine Traffic.run_always (I := fun t => t.world.state.Sound ∧ ∀ c ∈ t.callers, sightings.KeptBy c)
    ?_ ⟨hm, hc⟩ moves
  rintro t mv ⟨hm, hc⟩
  refine ⟨Traffic.sound_step hm mv, Charter.keptBy_step hc (fun c _ => grants_sightings d c) ?_⟩
  exact fun _ fault _ r _ _ _ => sighted_respond hm fault r

/-! ## Main result -/

/-- **No run overbooks.** Whatever happened since a ledger was opened without offerings: every offering
    in it has a spot at least and no more bookings than spots, arithmetic on its counter is exact, no
    operation finds an invariant broken, and no client was shown a counter that does not add up. -/
theorem capacity_invariant (d : Desk) (lockTimeout : Nat) (records : Table String Booking)
    (registry : Registry) (generator : Generator) (start : Timestamp) (moves : List Move) :
    let t := (Traffic.opening lockTimeout records registry generator start).run d moves
    (∀ id o, t.world.state.offerings.get? id = some o →
      1 ≤ o.capacity ∧ 0 ≤ o.bookings ∧ o.bookings ≤ o.capacity ∧ o.CountsExactly ∧
        o.snapshot.Exact) ∧
    t.world.state.NeverInternal ∧
    ∀ c ∈ t.callers, ∀ e s, c.ending? = some e → e.snapshot? = some s → s.Exact := by
  intro t
  have hkept : t.world.state.Sound ∧ ∀ c ∈ t.callers, sightings.KeptBy c :=
    sightings_run (Memory.sound_empty lockTimeout records) (List.forall_mem_nil _) moves
  refine ⟨fun id o ho => ?_, hkept.1.neverInternal, fun c hc e s he hs => ?_⟩
  · have hwithin := (hkept.1 id o ho).2
    exact ⟨hwithin.1, hwithin.2.1, hwithin.2.2, hwithin.countsExactly, hwithin.exact⟩
  · exact (hkept.2 c hc).ends he s hs

open OneSpot in
/-- The trip is booked to the last spot and no further. -/
theorem one_spot_within_capacity :
    let t := (Traffic.opening 0 .empty .empty default default).run desk
      (Tested.adding ⟨trip 0, rfl⟩ ++ [.call booking, .serve 0 none, .serve 0 none])
    ∃ o, t.world.state.offerings.get? ⟨1⟩ = some o ∧ o.bookings = 1 ∧ o.bookings ≤ o.capacity :=
  ⟨(trip 0).taken default, rfl, rfl, ((capacity_invariant desk 0 .empty .empty default default
    (Tested.adding ⟨trip 0, rfl⟩ ++ [.call booking, .serve 0 none, .serve 0 none])).1 ⟨1⟩ _ rfl).2.2.1⟩

end DiveSchool
