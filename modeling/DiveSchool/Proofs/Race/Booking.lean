import DiveSchool.Proofs.Race.Basic
import DiveSchool.Proofs.Admission

/-!
# `DiveSchool.Proofs.Race.Booking` — a race for free spots

Each racer looks at the offering and then, if it saw a free spot, tries to take one. What it saw may be out
of date when it tries, but it is only told that the offering is full, at either step, when it is.

## Contents
- **Racers.** `Call.races` and the charter `spots`.
- **Invariant.** `SpotRace`: the counter has grown by one for each racer that has won.
- **Outcome.** `SpotOutcome`, once every racer is done.
-/

namespace DiveSchool

/-! ## Racers -/

/-- A booking of the offering for a holder who is eligible for it. -/
def Call.races (d : Desk) (id : OfferingId) (o : Offering) : Call → Bool
  | book _ id' holder => id' = id && (d.strategy.validate holder.level o).valid
  | _ => false

namespace Desk

/-- The judgement on an open offering for an eligible holder is a matter of the counter. -/
theorem judge_of_open {d : Desk} {id : OfferingId} {holder : Holder} {o : Offering}
    (hopen : o.status = .published) (hvalid : (d.strategy.validate holder.level o).valid = true) :
    d.judge id holder (.ok (some o)) = if o.isFull then .error .capacityExceeded else .ok () := by
  simp [judge, hopen, hvalid, Status.acceptsBookings]

end Desk

/-- A racer looks once and, if it saw a free spot, tries once; it wins or is told that the offering is
    full, provided that the offering stays open on its terms. -/
def spots (d : Desk) (id : OfferingId) (o : Offering) : Charter Phase :=
  racing (Call.races d id o)
    (fun s r => match r with
      | .find id' => id' = id ∧ s = .waiting
      | .reserve id' => id' = id ∧ s = .ready
      | .release _ => False
      | _ => True)
    (fun r x => match r, x with
      | .find _, x => ∃ o', x = .ok (some o') ∧ o'.status = .published ∧ o.SameTerms o'
      | .reserve _, x => (∃ o', x = .ok (.reserved o')) ∨ ∃ o', x = .ok (.full o')
      | _, _ => True)
    fun s e => (∃ n b, s = .won n ∧ e = .booked (.ok b)) ∨
      (s = .lost ∧ e = .booked (.error .capacityExceeded))

/-- **Every booking of the race** keeps to it. -/
theorem grants_spots (d : Desk) (id : OfferingId) (o : Offering) (c : Call) :
    (spots d id o).Grants d c := by
  have hP : ((spots d id o).protocol c).LedgerOnly :=
    racing_ledgerOnly (fun s r hr => by cases r <;> first | exact trivial | cases hr) c
  by_cases hc : c.races d id o = true
  · cases c with
    | book now id' holder =>
        obtain ⟨rfl, hvalid⟩ : id' = id ∧ (d.strategy.validate holder.level o).valid = true := by
          simpa [Call.races] using hc
        have hjudge : ∀ o' : Offering, o'.status = .published → o.SameTerms o' →
            d.judge id' holder (.ok (some o')) =
              if o'.isFull then .error .capacityExceeded else .ok () := by
          intro o' hopen hterms
          exact Desk.judge_of_open hopen (by rw [hterms.validate, hvalid])
        refine Procedure.follows_bind.mpr (Desk.follows_book hP ?_)
        refine Desk.follows_reserve hP.log (fun _ => ⟨rfl, rfl⟩) ?_ ?_
        · intro x e hx hrefused
          obtain ⟨o', rfl, hopen, hterms⟩ := hx hc
          rw [hjudge o' hopen hterms] at hrefused
          cases hfull : o'.isFull with
          | true =>
              simp only [hfull, if_true] at hrefused
              cases hrefused
              exact fun _ => Or.inr ⟨by simp [spots, racing, Phase.after, hfull], rfl⟩
          | false => simp [hfull] at hrefused
        · intro x hx hfavourable
          obtain ⟨o', rfl, hopen, hterms⟩ := hx hc
          rw [hjudge o' hopen hterms] at hfavourable
          -- what it saw is only the offering as it was, so it may still lose
          cases hfull : o'.isFull with
          | true => simp [hfull] at hfavourable
          | false =>
              refine ⟨fun _ => ⟨rfl, by simp [spots, racing, Phase.after, hfull]⟩, fun y hy => ?_⟩
              rcases hy hc with ⟨o'', rfl⟩ | ⟨o'', rfl⟩
              · exact fun reference _ => Or.inl ⟨_, _, rfl, rfl⟩
              · exact fun _ => Or.inr ⟨rfl, rfl⟩
    | _ => cases hc
  · exact racing_keptBy_other (c := .fresh d c) hc

/-- Where an offering stands after some racers have won a spot of it and others have lost. -/
structure Offering.Booked (o : Offering) (wins losses : Nat) (o' : Offering) : Prop where
  published : o'.status = .published
  terms : o.SameTerms o'
  capacity : o'.capacity = o.capacity
  bookings : o'.bookings.toInt = o.bookings.toInt + wins
  full : 0 < losses → o'.isFull = true

/-- The counter has grown by one for each racer that has won. -/
def SpotCounter (d : Desk) (id : OfferingId) (o : Offering) (t : Traffic) : Prop :=
  ∃ o', t.Offers id o' ∧ o.Booked
    ((spots d id o).tally (fun c s => c.races d id o && s.isWon) t.callers)
    ((spots d id o).tally (fun c s => c.races d id o && s.isLost) t.callers) o'

/-- The racers keep to their protocol and the counter to them. -/
structure SpotRace (d : Desk) (id : OfferingId) (o : Offering) (t : Traffic) : Prop where
  kept : ∀ c ∈ t.callers, (spots d id o).KeptBy c
  counter : SpotCounter d id o t

namespace SpotRace

variable {d : Desk} {id : OfferingId} {o : Offering} {t : Traffic}

/-- A racer whose turn it is and what it may ask for. -/
theorem heard (h : SpotRace d id o t) {i : Nat} {fault : Option Failure} {c : Caller} {r : Request}
    {next : r.Answer → Procedure Ending} (hturn : t.Turn i c r next)
    (hmv : t.Undisturbed (Call.races d id o) id (.serve i fault)) :
    ((spots d id o).protocol c.call).heard ((spots d id o).stateOf c) r (respond fault r t.world).1 := by
  intro hracer
  obtain ⟨o', hoffers, hbooked⟩ := h.counter
  have hmay := (h.kept c hturn.mem).may hturn hracer
  obtain rfl := hmv.fault_eq_none hturn hracer
  cases r with
  | find id' =>
      obtain ⟨rfl, _⟩ := hmay
      exact ⟨o', hoffers.find.1, hbooked.published, hbooked.terms⟩
  | reserve id' =>
      obtain ⟨rfl, _⟩ := hmay
      cases hfull : o'.isFull with
      | true => exact Or.inr ⟨_, (hoffers.reserve_full hbooked.published hfull).1⟩
      | false => exact Or.inl ⟨_, (hoffers.reserve_free hbooked.published hfull).1⟩
  | _ => exact trivial

/-- A racer looks: the counter stays, and it has lost if the offering is full. -/
theorem counter_find (h : SpotRace d id o t) {i : Nat} {c : Caller}
    {next : (Request.find id).Answer → Procedure Ending} (hturn : t.Turn i c (.find id) next)
    (hc : c.call.races d id o = true) : SpotCounter d id o (t.step d (.serve i none)) := by
  obtain ⟨o', hoffers, hbooked⟩ := h.counter
  obtain ⟨_, hwaiting⟩ := (h.kept c hturn.mem).may hturn hc
  obtain ⟨hanswer, hsame⟩ := hoffers.find
  have hphase : ((spots d id o).protocol c.call).next ((spots d id o).stateOf c) (.find id)
      (respond none (.find id) t.world).1 = if o'.isFull then .lost else .ready := by
    rw [hanswer]
    rfl
  refine ⟨o', hoffers.step_same hturn hsame, ?_⟩
  cases hfull : o'.isFull with
  | true =>
      simp only [hfull, if_true] at hphase
      rw [Charter.tally_stay hturn (by rw [hphase, hwaiting]; rfl),
        Charter.tally_enter hturn (by rw [hwaiting, hc]; rfl) (by rw [hphase, hc]; rfl)]
      exact { hbooked with full := fun _ => hfull }
  | false =>
      simp only [hfull] at hphase
      rw [Charter.tally_stay hturn (by rw [hphase, hwaiting]; rfl),
        Charter.tally_stay hturn (by rw [hphase, hwaiting]; rfl)]
      exact hbooked

/-- A racer tries: it wins and the counter grows by one, or it loses and the offering is full. -/
theorem counter_reserve (h : SpotRace d id o t) {i : Nat} {c : Caller}
    {next : (Request.reserve id).Answer → Procedure Ending} (hturn : t.Turn i c (.reserve id) next)
    (hc : c.call.races d id o = true) : SpotCounter d id o (t.step d (.serve i none)) := by
  obtain ⟨o', hoffers, hbooked⟩ := h.counter
  obtain ⟨_, hready⟩ := (h.kept c hturn.mem).may hturn hc
  cases hfull : o'.isFull with
  | true =>
      obtain ⟨hanswer, hsame⟩ := hoffers.reserve_full hbooked.published hfull
      have hphase : ((spots d id o).protocol c.call).next ((spots d id o).stateOf c) (.reserve id)
          (respond none (.reserve id) t.world).1 = .lost := by
        rw [hanswer]
        rfl
      refine ⟨o', hoffers.step_same hturn hsame, ?_⟩
      rw [Charter.tally_stay hturn (by rw [hphase, hready]; rfl),
        Charter.tally_enter hturn (by rw [hready, hc]; rfl) (by rw [hphase, hc]; rfl)]
      exact { hbooked with full := fun _ => hfull }
  | false =>
      obtain ⟨hanswer, hput⟩ := hoffers.reserve_free hbooked.published hfull
      have hphase : ((spots d id o).protocol c.call).next ((spots d id o).stateOf c) (.reserve id)
          (respond none (.reserve id) t.world).1 = .won (o'.bookings + 1).toInt := by
        rw [hanswer]
        rfl
      refine ⟨o'.taken t.world.now, hoffers.step_put hturn rfl hput, ?_⟩
      rw [Charter.tally_enter hturn (by rw [hready, hc]; rfl) (by rw [hphase, hc]; rfl),
        Charter.tally_stay hturn (by rw [hphase, hready]; rfl)]
      refine ⟨hbooked.published, hbooked.terms.trans ⟨rfl, rfl⟩, hbooked.capacity, ?_, fun hlost => ?_⟩
      · have hadd := Offering.toInt_bookings_add_one hfull
        have hbookings := hbooked.bookings
        simp only [Offering.taken, hadd]
        omega
      · -- nobody has lost while there was a spot
        cases hfull.symm.trans (hbooked.full hlost)

/-- **One move** of an undisturbed race. -/
theorem step (h : SpotRace d id o t) {mv : Move} (hmv : t.Undisturbed (Call.races d id o) id mv) :
    SpotRace d id o (t.step d mv) where
  kept := Charter.keptBy_step h.kept (fun c _ => grants_spots d id o c)
    fun i fault c r next hserve hturn => h.heard hturn (hserve ▸ hmv)
  counter := by
    rcases t.counts_or_idle (Call.races d id o) mv with
      ⟨i, fault, c, r, next, rfl, hturn, hc, hcounts⟩ | hidle
    · have hmay := (h.kept c hturn.mem).may hturn hc
      obtain rfl := hmv.fault_eq_none hturn hc
      cases r with
      | find id' =>
          obtain ⟨rfl, _⟩ := hmay
          exact h.counter_find hturn hc
      | reserve id' =>
          obtain ⟨rfl, _⟩ := hmay
          exact h.counter_reserve hturn hc
      | release id' => exact hmay.elim
      | _ => cases hcounts
    · -- the move is none of a racer that is about the counter
      obtain ⟨o', hoffers, hbooked⟩ := h.counter
      rw [SpotCounter, spots, racing_tally_idle rfl hidle, racing_tally_idle rfl hidle]
      refine ⟨o', hoffers.step hmv fun i fault c r next hserve hturn hc => ?_, hbooked⟩
      rw [Request.changes?_of_counts (hidle i fault c r next hserve hturn hc)]
      nofun

/-- **At the start** nobody has won or lost. -/
theorem start (hoffers : t.Offers id o) (hopen : o.status = .published)
    (hfresh : ∀ c ∈ t.callers, c.call.races d id o = true → c = .fresh d c.call) :
    SpotRace d id o t where
  kept := racing_keptBy_start (grants_spots d id o) hfresh
  counter := by
    refine ⟨o, hoffers, ?_⟩
    rw [spots, racing_tally_start rfl hfresh, racing_tally_start rfl hfresh]
    exact ⟨hopen, .refl o, rfl, (Int.add_zero _).symm, fun h => absurd h (Nat.lt_irrefl 0)⟩

/-- How a racer that is done has ended. -/
theorem ended (h : SpotRace d id o t) {c : Caller} (hc : c ∈ t.callers)
    (hracer : c.call.races d id o = true) (hdone : c.ending?.isSome) :
    (∃ n b, (spots d id o).stateOf c = .won n ∧ c.ending? = some (.booked (.ok b))) ∨
      ((spots d id o).stateOf c = .lost ∧ c.ending? = some (.booked (.error .capacityExceeded))) := by
  obtain ⟨e, he⟩ := Option.isSome_iff_exists.mp hdone
  rcases (h.kept c hc).ends he hracer with ⟨n, b, hwon, rfl⟩ | ⟨hlost, rfl⟩
  · exact Or.inl ⟨n, b, hwon, he⟩
  · exact Or.inr ⟨hlost, he⟩

end SpotRace

/-- The caller was told that a booking succeeded. -/
def Ending.isBooking : Ending → Bool
  | booked (.ok _) => true
  | _ => false

/-- **Outcome of a race for spots** of an offering that had some free when it began: every racer won or
    was told that the offering is full, and as many won as there were racers and free spots. -/
structure SpotOutcome (d : Desk) (id : OfferingId) (o : Offering) (t : Traffic) : Prop where
  each : ∀ c ∈ t.callers, c.call.races d id o = true →
    (∃ b, c.ending? = some (.booked (.ok b))) ∨ c.ending? = some (.booked (.error .capacityExceeded))
  winners : t.callers.countP (fun c => c.call.races d id o && c.ending?.any Ending.isBooking) =
    min (t.callers.countP fun c => c.call.races d id o) o.available.toInt.toNat
  counter : ∃ o', t.world.state.offerings.get? id = some o' ∧ o'.bookings.toInt = o.bookings.toInt +
    min (t.callers.countP fun c => c.call.races d id o) o.available.toInt.toNat

namespace SpotRace

variable {d : Desk} {id : OfferingId} {o : Offering} {t : Traffic}

theorem outcome (h : SpotRace d id o t) (ho : o.WithinCapacity)
    (hdone : ∀ c ∈ t.callers, c.call.races d id o = true → c.ending?.isSome) :
    SpotOutcome d id o t := by
  have hended := fun c hc hracer => h.ended hc hracer (hdone c hc hracer)
  obtain ⟨o', hoffers, hbooked⟩ := h.counter
  have hall := tally_won_add_lost (spots d id o) (Call.races d id o) fun c hc hracer =>
    (hended c hc hracer).imp (fun ⟨n, _, hwon, _⟩ => ⟨n, hwon⟩) fun ⟨hlost, _⟩ => hlost
  have hwinners : t.callers.countP (fun c => c.call.races d id o && c.ending?.any Ending.isBooking) =
      (spots d id o).tally (fun c s => c.races d id o && s.isWon) t.callers := by
    refine countP_ending_eq_tally fun c hc hracer => ?_
    rcases hended c hc hracer with ⟨n, b, hwon, he⟩ | ⟨hlost, he⟩
    · rw [he, hwon]
      rfl
    · rw [he, hlost]
      rfl
  -- somebody has lost only if no spot is left, and never more are booked than there are
  have hwins : (spots d id o).tally (fun c s => c.races d id o && s.isWon) t.callers =
      min (t.callers.countP fun c => c.call.races d id o) o.available.toInt.toNat := by
    have havailable := ho.toInt_available
    have hbookings := hbooked.bookings
    have hcapacity := congrArg Int32.toInt hbooked.capacity
    obtain ⟨_, _, hle⟩ := Offering.withinCapacity_iff.mp (hoffers.sound id o' hoffers.stored).2
    by_cases hlost : 0 < (spots d id o).tally (fun c s => c.races d id o && s.isLost) t.callers
    · have hfull := Offering.isFull_iff.mp (hbooked.full hlost)
      omega
    · omega
  refine ⟨fun c hc hracer => ?_, hwinners.trans hwins, o', hoffers.stored, ?_⟩
  · exact (hended c hc hracer).imp (fun ⟨_, b, _, he⟩ => ⟨b, he⟩) fun ⟨_, he⟩ => he
  · rw [hbooked.bookings, hwins]

end SpotRace

end DiveSchool
