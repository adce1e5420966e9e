import DiveSchool.Proofs.Race.Booking
import DiveSchool.Proofs.Race.Releasing

/-!
# `DiveSchool.Proofs.Race` — who gets the last spot

Any number of clients book spots of one offering at the same time, each in two steps: the first looks at
the offering, the second takes a spot if there still is one. However their steps fall between each other
and between those of the rest of the traffic, the spots that are free are given out, no more and no fewer,
and everybody else is told that the offering is full. With releases it is the same the other way round.

## Contents
- **Main result.** `race_outcomes`.
- **Two callers and one spot.** The smallest race of either kind.
-/

namespace DiveSchool

/-! ## Main result -/

/-- **The exact outcome of a race.** Take any ledger that a run leads to and an offering in it whose lock
    is free, and let any number of calls for it run, started and served in any order, among any traffic
    that leaves the offering alone. If they are bookings for eligible holders and the offering is
    published, then once all are done as many have succeeded as there were calls and free spots, the
    others were told that it is full, and the counter has grown by that number. If they are releases, as
    many have succeeded as there were calls and booked spots, the others found nothing to release, and
    the counters they were shown are the values it went through, each once. -/
theorem race_outcomes (d : Desk) (t : Traffic) (hreach : t.world.Reachable) (id : OfferingId)
    (o : Offering) (ho : t.world.state.offerings.get? id = some o) (hheld : id ∉ t.world.state.held) :
    (o.status = .published →
      (∀ c ∈ t.callers, c.call.races d id o = true → c = .fresh d c.call) →
      ∀ moves, Traffic.Along d (Traffic.Undisturbed (Call.races d id o) id) t moves →
        (∀ c ∈ (t.run d moves).callers, c.call.races d id o = true → c.ending?.isSome) →
        SpotOutcome d id o (t.run d moves)) ∧
    ((∀ c ∈ t.callers, c.call.frees id = true → c = .fresh d c.call) →
      ∀ moves, Traffic.Along d (Traffic.Undisturbed (Call.frees id) id) t moves →
        (∀ c ∈ (t.run d moves).callers, c.call.frees id = true → c.ending?.isSome) →
        FreeOutcome id o (t.run d moves)) := by
  have hoffers : t.Offers id o := ⟨hreach.sound, ho, hheld⟩
  refine ⟨fun hopen hfresh moves halong hdone => ?_, fun hfresh moves halong hdone => ?_⟩
  · have hrace : SpotRace d id o (t.run d moves) :=
      Traffic.run_induction (fun _ _ h hmv => h.step hmv) (SpotRace.start hoffers hopen hfresh) halong
    exact hrace.outcome (hreach.sound id o ho).2 hdone
  · have hrace : FreeRace id o (t.run d moves) :=
      Traffic.run_induction (fun _ _ h hmv => h.step hmv) (FreeRace.start hoffers hfresh) halong
    exact hrace.outcome hdone

/-! ## Two callers and one spot -/

namespace OneSpot

/-- A trip is in the ledger, and two clients make the same call. -/
def twice (c : Call) (o : Tested) : Traffic :=
  { world := ((Traffic.opening 0 .empty .empty default default).run desk o.adding).world
    callers := [.fresh desk c, .fresh desk c]
    pending := [] }

theorem reachable_twice (c : Call) (o : Tested) : (twice c o).world.Reachable :=
  ⟨desk, 0, .empty, .empty, default, default, o.adding, rfl⟩

theorem fresh_of_mem_twice {c : Call} {o : Tested} {c' : Caller} (h : c' ∈ (twice c o).callers) :
    c' = .fresh desk c := by
  simpa [twice] using h

end OneSpot

open OneSpot in
/-- Of two who look before either books, one gets the only spot; of two who release it, one frees it. -/
theorem last_spot_race :
    SpotOutcome desk ⟨1⟩ (trip 0) ((twice booking ⟨trip 0, rfl⟩).run desk (turns 5)) ∧
    FreeOutcome ⟨1⟩ (trip 1) ((twice (.release ⟨1⟩) ⟨trip 1, rfl⟩).run desk (turns 2)) := by
  have hbooked : ((twice booking ⟨trip 0, rfl⟩).run desk (turns 5)).callers.all
      (fun c => c.ending?.isSome) = true := rfl
  have hreleased : ((twice (.release ⟨1⟩) ⟨trip 1, rfl⟩).run desk (turns 2)).callers.all
      (fun c => c.ending?.isSome) = true := rfl
  refine ⟨(race_outcomes desk _ (reachable_twice _ _) ⟨1⟩ (trip 0) rfl List.not_mem_nil).1 rfl ?_ (turns 5)
    (Traffic.along_undisturbed ?_ fun mv hmv => Or.inl (mem_turns hmv))
    fun c hc _ => List.all_eq_true.mp hbooked c hc,
    (race_outcomes desk _ (reachable_twice _ _) ⟨1⟩ (trip 1) rfl List.not_mem_nil).2 ?_ (turns 2)
    (Traffic.along_undisturbed ?_ fun mv hmv => Or.inl (mem_turns hmv))
    fun c hc _ => List.all_eq_true.mp hreleased c hc⟩
  · intro c hc _
    rw [fresh_of_mem_twice hc]
    rfl
  · intro c hc
    rw [fresh_of_mem_twice hc]
    rfl
  · intro c hc _
    rw [fresh_of_mem_twice hc]
    rfl
  · intro c hc
    rw [fresh_of_mem_twice hc]
    rfl

end DiveSchool
