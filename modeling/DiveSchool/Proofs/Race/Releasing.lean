import DiveSchool.Proofs.Race.Basic

/-!
# `DiveSchool.Proofs.Race.Releasing` — a race to free spots

Each racer tries once. No two of them see the counter at the same value, because each that wins is shown
the value it left, and the counter only falls.

## Contents
- **Racers.** `Call.frees` and the charter `vacancies`.
- **Invariant.** `FreeRace`: the counter has fallen by one for each racer that has won.
- **Outcome.** `FreeOutcome`, once every racer is done.
-/

namespace DiveSchool

/-! ## Racers -/

/-- A release of the offering. -/
def Call.frees (id : OfferingId) : Call → Bool
  | release id' => id' = id
  | _ => false

/-- A racer tries once; it frees a spot or is told that there is none to free. -/
def vacancies (id : OfferingId) : Charter Phase :=
  racing (Call.frees id)
    (fun s r => match r with
      | .release id' => id' = id ∧ s = .waiting
      | .find _ | .reserve _ => False
      | _ => True)
    (fun r x => match r, x with
      | .release _, x => (∃ o', x = .ok (.released o')) ∨ ∃ o', x = .ok (.empty o')
      | _, _ => True)
    fun s e => (∃ n : Snapshot, s = .won n.bookings.toInt ∧ e = .freed (.ok n)) ∨
      (s = .lost ∧ e = .freed (.error .nothingToRelease))

/-- **Every release of the race** keeps to it. -/
theorem grants_vacancies (d : Desk) (id : OfferingId) (c : Call) : (vacancies id).Grants d c := by
  have hP : ((vacancies id).protocol c).LedgerOnly :=
    racing_ledgerOnly (fun s r hr => by cases r <;> first | exact trivial | cases hr) c
  by_cases hc : c.frees id = true
  · cases c with
    | release id' =>
        obtain rfl : id' = id := by simpa [Call.frees] using hc
        refine Procedure.follows_bind.mpr (Desk.follows_release hP.log (fun _ => ⟨rfl, rfl⟩) ?_)
        intro x hx
        rcases hx hc with ⟨o', rfl⟩ | ⟨o', rfl⟩
        · exact fun _ => Or.inl ⟨o'.snapshot, rfl, rfl⟩
        · exact fun _ => Or.inr ⟨rfl, rfl⟩
    | _ => cases hc
  · exact racing_keptBy_other (c := .fresh d c) hc

/-- Where an offering stands after some racers have freed a spot of it and others have found none. -/
structure Offering.Vacated (o : Offering) (wins losses : Nat) (o' : Offering) : Prop where
  bookings : o'.bookings.toInt = o.bookings.toInt - wins
  empty : 0 < losses → o'.bookings.toInt = 0

/-- The counter has fallen by one for each racer that has won, and each has seen another value of it. -/
def FreeCounter (id : OfferingId) (o : Offering) (t : Traffic) : Prop :=
  ∃ o', t.Offers id o' ∧ o.Vacated
    ((vacancies id).tally (fun c s => c.frees id && s.isWon) t.callers)
    ((vacancies id).tally (fun c s => c.frees id && s.isLost) t.callers) o' ∧
    ∀ v : Int, (vacancies id).tally (fun c s => c.frees id && s.isWonAt v) t.callers =
      if o'.bookings.toInt ≤ v ∧ v < o.bookings.toInt then 1 else 0

/-- The racers keep to their protocol and the counter to them. -/
structure FreeRace (id : OfferingId) (o : Offering) (t : Traffic) : Prop where
  kept : ∀ c ∈ t.callers, (vacancies id).KeptBy c
  counter : FreeCounter id o t

namespace FreeRace

variable {d : Desk} {id : OfferingId} {o : Offering} {t : Traffic}

theorem heard (h : FreeRace id o t) {i : Nat} {fault : Option Failure} {c : Caller} {r : Request}
    {next : r.Answer → Procedure Ending} (hturn : t.Turn i c r next)
    (hmv : t.Undisturbed (Call.frees id) id (.serve i fault)) :
    ((vacancies id).protocol c.call).heard ((vacancies id).stateOf c) r (respond fault r t.world).1 := by
  intro hracer
  obtain ⟨o', hoffers, _⟩ := h.counter
  have hmay := (h.kept c hturn.mem).may hturn hracer
  obtain rfl := hmv.fault_eq_none hturn hracer
  cases r with
  | release id' =>
      obtain ⟨rfl, _⟩ := hmay
      by_cases hempty : o'.bookings.toInt = 0
      · exact Or.inr ⟨_, (hoffers.release_empty hempty).1⟩
      · exact Or.inl ⟨_, (hoffers.release_booked hempty).1⟩
  | _ => exact trivial

/-- A racer tries: it wins and the counter falls by one, or it loses and nothing is booked. -/
theorem counter_release (h : FreeRace id o t) {i : Nat} {c : Caller}
    {next : (Request.release id).Answer → Procedure Ending} (hturn : t.Turn i c (.release id) next)
    (hc : c.call.frees id = true) : FreeCounter id o (t.step d (.serve i none)) := by
  obtain ⟨o', hoffers, hvacated, hvalues⟩ := h.counter
  obtain ⟨_, hwaiting⟩ := (h.kept c hturn.mem).may hturn hc
  by_cases hempty : o'.bookings.toInt = 0
  · -- it loses, and nobody's value changes
    obtain ⟨hanswer, hsame⟩ := hoffers.release_empty hempty
    have hphase : ((vacancies id).protocol c.call).next ((vacancies id).stateOf c) (.release id)
        (respond none (.release id) t.world).1 = .lost := by
      rw [hanswer]
      rfl
    refine ⟨o', hoffers.step_same hturn hsame, ?_, fun v => ?_⟩
    · rw [Charter.tally_stay hturn (by rw [hphase, hwaiting]; rfl),
        Charter.tally_enter hturn (by rw [hwaiting, hc]; rfl) (by rw [hphase, hc]; rfl)]
      exact ⟨hvacated.bookings, fun _ => hempty⟩
    · rw [Charter.tally_stay hturn (by rw [hphase, hwaiting]; rfl)]
      exact hvalues v
  · -- it wins and leaves the counter one lower
    obtain ⟨hanswer, hput⟩ := hoffers.release_booked hempty
    have hb := (Offering.withinCapacity_iff.mp (hoffers.sound id o' hoffers.stored).2).2.1
    have hsub := Offering.toInt_bookings_sub_one (o := o') (by omega)
    have hbookings := hvacated.bookings
    have hphase : ((vacancies id).protocol c.call).next ((vacancies id).stateOf c) (.release id)
        (respond none (.release id) t.world).1 = .won (o'.bookings - 1).toInt := by
      rw [hanswer]
      rfl
    refine ⟨o'.vacated t.world.now, hoffers.step_put hturn rfl hput, ?_, fun v => ?_⟩
    · rw [Charter.tally_enter hturn (by rw [hwaiting, hc]; rfl) (by rw [hphase, hc]; rfl),
        Charter.tally_stay hturn (by rw [hphase, hwaiting]; rfl)]
      refine ⟨?_, fun hlost => absurd (hvacated.empty hlost) hempty⟩
      simp only [Offering.vacated, hsub]
      omega
    · -- the value below the last one is new, all others are as before
      simp only [Offering.vacated, hsub] at hphase ⊢
      by_cases hv : v = o'.bookings.toInt - 1
      · rw [Charter.tally_enter hturn (by rw [hwaiting, hc]; rfl)
          (by rw [hphase, hc]; simp [Phase.isWonAt, hv]), hvalues v]
        split <;> split <;> omega
      · rw [Charter.tally_stay hturn (by
          rw [hphase, hwaiting]; simp [Phase.isWonAt, Ne.symm hv]), hvalues v]
        split <;> split <;> omega

/-- **One move** of an undisturbed race. -/
theorem step (h : FreeRace id o t) {mv : Move} (hmv : t.Undisturbed (Call.frees id) id mv) :
    FreeRace id o (t.step d mv) where
  kept := Charter.keptBy_step h.kept (fun c _ => grants_vacancies d id c)
    fun i fault c r next hserve hturn => h.heard hturn (hserve ▸ hmv)
  counter := by
    rcases t.counts_or_idle (Call.frees id) mv with
      ⟨i, fault, c, r, next, rfl, hturn, hc, hcounts⟩ | hidle
    · have hmay := (h.kept c hturn.mem).may hturn hc
      obtain rfl := hmv.fault_eq_none hturn hc
      cases r with
      | release id' =>
          obtain ⟨rfl, _⟩ := hmay
          exact h.counter_release hturn hc
      | find id' | reserve id' => exact hmay.elim
      | _ => cases hcounts
    · obtain ⟨o', hoffers, hvacated, hvalues⟩ := h.counter
      refine ⟨o', hoffers.step hmv fun i fault c r next hserve hturn hc => ?_, ?_, fun v => ?_⟩
      · rw [Request.changes?_of_counts (hidle i fault c r next hserve hturn hc)]
        nofun
      · rw [vacancies, racing_tally_idle rfl hidle, racing_tally_idle rfl hidle]
        exact hvacated
      · rw [vacancies, racing_tally_idle rfl hidle]
        exact hvalues v

/-- **At the start** nobody has won or lost. -/
theorem start (hoffers : t.Offers id o)
    (hfresh : ∀ c ∈ t.callers, c.call.frees id = true → c = .fresh d c.call) : FreeRace id o t where
  kept := racing_keptBy_start (grants_vacancies d id) hfresh
  counter := by
    refine ⟨o, hoffers, ?_, fun v => ?_⟩
    · rw [vacancies, racing_tally_start rfl hfresh, racing_tally_start rfl hfresh]
      exact ⟨(Int.sub_zero _).symm, fun h => absurd h (Nat.lt_irrefl 0)⟩
    · rw [vacancies, racing_tally_start rfl hfresh, if_neg]
      omega

/-- How a racer that is done has ended. -/
theorem ended (h : FreeRace id o t) {c : Caller} (hc : c ∈ t.callers)
    (hracer : c.call.frees id = true) (hdone : c.ending?.isSome) :
    (∃ n : Snapshot, (vacancies id).stateOf c = .won n.bookings.toInt ∧
        c.ending? = some (.freed (.ok n))) ∨
      ((vacancies id).stateOf c = .lost ∧ c.ending? = some (.freed (.error .nothingToRelease))) := by
  obtain ⟨e, he⟩ := Option.isSome_iff_exists.mp hdone
  rcases (h.kept c hc).ends he hracer with ⟨n, hwon, rfl⟩ | ⟨hlost, rfl⟩
  · exact Or.inl ⟨n, hwon, he⟩
  · exact Or.inr ⟨hlost, he⟩

end FreeRace

/-- The caller was told that a spot was freed. -/
def Ending.isFreeing : Ending → Bool
  | freed (.ok _) => true
  | _ => false

/-- The caller was shown that so many spots were left booked. -/
def Ending.showsBookings (v : Int) : Ending → Bool
  | freed (.ok n) => n.bookings.toInt = v
  | _ => false

/-- **Outcome of a race to free spots** of an offering that had some booked when it began: every racer
    freed one or was told that nothing is booked, as many freed one as there were racers and spots booked,
    and each of them was shown another value of the counter. -/
structure FreeOutcome (id : OfferingId) (o : Offering) (t : Traffic) : Prop where
  each : ∀ c ∈ t.callers, c.call.frees id = true →
    (∃ n, c.ending? = some (.freed (.ok n))) ∨ c.ending? = some (.freed (.error .nothingToRelease))
  winners : t.callers.countP (fun c => c.call.frees id && c.ending?.any Ending.isFreeing) =
    min (t.callers.countP fun c => c.call.frees id) o.bookings.toInt.toNat
  counter : ∃ o', t.world.state.offerings.get? id = some o' ∧ o'.bookings.toInt = o.bookings.toInt -
    min (t.callers.countP fun c => c.call.frees id) o.bookings.toInt.toNat
  values : ∀ v : Int, t.callers.countP (fun c => c.call.frees id && c.ending?.any (·.showsBookings v)) =
    if o.bookings.toInt - min (t.callers.countP fun c => c.call.frees id) o.bookings.toInt.toNat ≤ v ∧
      v < o.bookings.toInt then 1 else 0

namespace FreeRace

variable {d : Desk} {id : OfferingId} {o : Offering} {t : Traffic}

theorem outcome (h : FreeRace id o t)
    (hdone : ∀ c ∈ t.callers, c.call.frees id = true → c.ending?.isSome) : FreeOutcome id o t := by
  have hended := fun c hc hracer => h.ended hc hracer (hdone c hc hracer)
  obtain ⟨o', hoffers, hvacated, hvalues⟩ := h.counter
  have hall := tally_won_add_lost (vacancies id) (Call.frees id) fun c hc hracer =>
    (hended c hc hracer).imp (fun ⟨n, hwon, _⟩ => ⟨_, hwon⟩) fun ⟨hlost, _⟩ => hlost
  have hwinners : t.callers.countP (fun c => c.call.frees id && c.ending?.any Ending.isFreeing) =
      (vacancies id).tally (fun c s => c.frees id && s.isWon) t.callers := by
    refine countP_ending_eq_tally fun c hc hracer => ?_
    rcases hended c hc hracer with ⟨n, hwon, he⟩ | ⟨hlost, he⟩
    · rw [he, hwon]
      rfl
    · rw [he, hlost]
      rfl
  have hshown : ∀ v, t.callers.countP (fun c => c.call.frees id && c.ending?.any (·.showsBookings v)) =
      (vacancies id).tally (fun c s => c.frees id && s.isWonAt v) t.callers := by
    refine fun v => countP_ending_eq_tally fun c hc hracer => ?_
    rcases hended c hc hracer with ⟨n, hwon, he⟩ | ⟨hlost, he⟩
    · rw [he, hwon]
      rfl
    · rw [he, hlost]
      rfl
  -- somebody has lost only if nothing is booked any more, and the counter is never below zero
  have hwins : (vacancies id).tally (fun c s => c.frees id && s.isWon) t.callers =
      min (t.callers.countP fun c => c.call.frees id) o.bookings.toInt.toNat := by
    have hbookings := hvacated.bookings
    have hb := (Offering.withinCapacity_iff.mp (hoffers.sound id o' hoffers.stored).2).2.1
    by_cases hlost : 0 < (vacancies id).tally (fun c s => c.frees id && s.isLost) t.callers
    · have hempty := hvacated.empty hlost
      omega
    · omega
  have hcounter : o'.bookings.toInt = o.bookings.toInt -
      min (t.callers.countP fun c => c.call.frees id) o.bookings.toInt.toNat := by
    rw [hvacated.bookings, hwins]
  refine ⟨fun c hc hracer => ?_, hwinners.trans hwins, ⟨o', hoffers.stored, hcounter⟩, fun v => ?_⟩
  · exact (hended c hc hracer).imp (fun ⟨n, _, he⟩ => ⟨n, he⟩) fun ⟨_, he⟩ => he
  · rw [hshown, hvalues, hcounter]

end FreeRace

end DiveSchool
