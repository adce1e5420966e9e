import DiveSchool.Proofs.Effect

/-!
# `DiveSchool.Proofs.Race.Basic` — calls that race for one offering

A race is a number of calls that change one counter while nobody else does and nothing gets in their way.
What makes it tractable is that the offering then only changes in the turns of racers, and that a racer
is in one of few phases, which can be counted.

## Contents
- **Undisturbed runs.** `Traffic.Undisturbed`: only the racers change the offering, and nothing fails.
- **The offering.** `Traffic.Offers`: what is stored and free to use, and what racers are answered.
- **Phases.** `Phase`, how far a racer has got, with the counter it left if it won.
- **Charters of races.** `racing`, with the tallies of those who have won and lost.
-/

namespace DiveSchool

/-! ## Undisturbed runs -/

/-- Whether a request is about the counter of an offering. -/
def Request.counts : Request → Bool
  | find _ | reserve _ | release _ => true
  | _ => false

theorem Request.changes?_of_counts {r : Request} (h : r.counts = false) : r.changes? = none := by
  cases r <;> first | rfl | cases h

namespace Traffic

/-- Racers are served without a fault and find the lock free; nobody else changes the offering. -/
def Undisturbed (racer : Call → Bool) (id : OfferingId) (t : Traffic) : Move → Prop
  | .order o => o.target ≠ id
  | .write o => o.val.id ≠ id
  | .serve i fault => ∀ c r next, t.Turn i c r next →
      if racer c.call then fault = none else r.changes? ≠ some id
  | .lock held => id ∉ held
  | .call _ | .clock _ => True

/-- **A move of a race** is a racer's request about a counter, or no racer gets nearer to its end by it. -/
theorem counts_or_idle (t : Traffic) (racer : Call → Bool) (mv : Move) :
    (∃ i fault c r next, mv = .serve i fault ∧ t.Turn i c r next ∧ racer c.call = true ∧
      r.counts = true) ∨
    ∀ i fault c r next, mv = .serve i fault → t.Turn i c r next → racer c.call = true →
      r.counts = false := by
  by_cases hact : ∃ i fault c r next, mv = .serve i fault ∧ t.Turn i c r next ∧ racer c.call = true ∧
      r.counts = true
  · exact Or.inl hact
  · right
    intro i fault c r next hserve hturn hc
    apply Bool.eq_false_iff.mpr
    intro hcounts
    exact hact ⟨i, fault, c, r, next, hserve, hturn, hc, hcounts⟩

/-- A racer is served without a fault. -/
theorem Undisturbed.fault_eq_none {t : Traffic} {racer : Call → Bool} {id : OfferingId} {i : Nat}
    {fault : Option Failure} {c : Caller} {r : Request} {next : r.Answer → Procedure Ending}
    (hmv : t.Undisturbed racer id (.serve i fault)) (hturn : t.Turn i c r next)
    (hc : racer c.call = true) : fault = none := by
  have hserved := hmv c r next hturn
  rwa [if_pos hc] at hserved

/-- Where everybody races, every interleaving without faults is undisturbed. -/
theorem along_undisturbed {d : Desk} {t : Traffic} {id : OfferingId} {racer : Call → Bool}
    {moves : List Move} (hracers : ∀ c ∈ t.callers, racer c.call = true)
    (hmoves : ∀ mv ∈ moves, (∃ i, mv = .serve i none) ∨ ∃ c, mv = .call c ∧ racer c = true) :
    Along d (Undisturbed racer id) t moves := by
  induction moves generalizing t with
  | nil => exact trivial
  | cons mv moves ih =>
      have hmv := hmoves mv List.mem_cons_self
      refine ⟨?_, ih (fun c' hc' => ?_) fun mv hmv => hmoves mv (List.mem_cons_of_mem _ hmv)⟩
      · rcases hmv with ⟨i, rfl⟩ | ⟨c, rfl, _⟩
        · intro c r next hturn
          rw [if_pos (hracers c hturn.mem)]
        · exact trivial
      · rcases mem_callers_step hc' with hold | ⟨c, rfl, rfl⟩ | ⟨i, fault, c, r, next, rfl, hturn, rfl⟩
        · exact hracers c' hold
        · rcases hmv with ⟨i, hcall⟩ | ⟨c', hcall, hc'⟩ <;> cases hcall
          exact hc'
        · exact hracers c hturn.mem

/-- An offering is stored as it says, and its lock is free. -/
structure Offers (t : Traffic) (id : OfferingId) (o : Offering) : Prop where
  sound : t.world.state.Sound
  stored : t.world.state.offerings.get? id = some o
  unheld : id ∉ t.world.state.held

variable {d : Desk} {t : Traffic} {id : OfferingId} {o : Offering} {racer : Call → Bool}

/-- **An undisturbed move** leaves the offering alone unless a racer changes it. -/
theorem Offers.step {mv : Move} (h : t.Offers id o) (hmv : t.Undisturbed racer id mv)
    (hracer : ∀ i fault c r next, mv = .serve i fault → t.Turn i c r next → racer c.call = true →
      r.changes? ≠ some id) : (t.step d mv).Offers id o := by
  have hsound := sound_step (d := d) h.sound mv
  cases mv with
  | order order =>
      obtain ⟨hget, hheld⟩ := (h.sound.begunEffect order).frame h.sound hmv
      exact ⟨hsound, hget.trans h.stored, hheld ▸ h.unheld⟩
  | write p =>
      simp only [Traffic.step] at hsound ⊢
      split
      · exact ⟨h.sound.write p, (Memory.get?_write hmv).trans h.stored, h.unheld⟩
      · exact h
  | call c => exact ⟨hsound, h.stored, h.unheld⟩
  | lock held => exact ⟨hsound, h.stored, hmv⟩
  | clock now => exact ⟨hsound, h.stored, h.unheld⟩
  | serve i fault =>
      rcases turn_or_idle d t i fault with ⟨c, r, next, hturn⟩ | hidle
      · have hchanges : r.changes? ≠ some id := by
          have hallowed := hmv c r next hturn
          cases hc : racer c.call with
          | true => exact hracer i fault c r next rfl hturn hc
          | false => simpa [hc] using hallowed
        obtain ⟨hget, hheld⟩ := (h.sound.requestEffect fault r).frame h.sound hchanges
        rw [step_serve hturn] at hsound ⊢
        exact ⟨hsound, hget.trans h.stored, hheld ▸ h.unheld⟩
      · rw [hidle]
        exact h

section Serve

variable {i : Nat} {c : Caller} {r : Request} {next : r.Answer → Procedure Ending}

/-- A racer leaves the ledger as it is. -/
theorem Offers.step_same (h : t.Offers id o) (hturn : t.Turn i c r next)
    (hsame : (respond none r t.world).2.state = t.world.state) :
    (t.step d (.serve i none)).Offers id o := by
  rw [step_serve hturn]
  exact ⟨hsame ▸ h.sound, hsame ▸ h.stored, hsame ▸ h.unheld⟩

/-- A racer changes the offering. -/
theorem Offers.step_put (h : t.Offers id o) (hturn : t.Turn i c r next) {o' : Offering}
    (hid : o'.id = o.id) (hput : (respond none r t.world).2.state = t.world.state.put o') :
    (t.step d (.serve i none)).Offers id o' where
  sound := sound_step h.sound _
  stored := by
    rw [step_serve hturn, hput, h.sound.get?_put h.stored o' hid, if_pos rfl]
  unheld := by
    rw [step_serve hturn, hput]
    exact h.unheld

end Serve

theorem Offers.find (h : t.Offers id o) : (respond none (.find id) t.world).1 = .ok (some o) ∧
    (respond none (.find id) t.world).2.state = t.world.state := by
  show (t.world.state.find id).answer = _ ∧ (t.world.state.find id).state = _
  rw [Memory.find_eq h.stored h.unheld]
  exact ⟨rfl, rfl⟩

theorem Offers.reserve_full (h : t.Offers id o) (hopen : o.status = .published)
    (hfull : o.isFull = true) : (respond none (.reserve id) t.world).1 = .ok (.full o) ∧
    (respond none (.reserve id) t.world).2.state = t.world.state := by
  show (t.world.state.reserve _ id).answer = _ ∧ (t.world.state.reserve _ id).state = _
  rw [h.sound.reserve_eq h.stored h.unheld hopen, if_pos hfull]
  exact ⟨rfl, rfl⟩

theorem Offers.reserve_free (h : t.Offers id o) (hopen : o.status = .published)
    (hfree : o.isFull = false) :
    (respond none (.reserve id) t.world).1 = .ok (.reserved (o.taken t.world.now)) ∧
    (respond none (.reserve id) t.world).2.state = t.world.state.put (o.taken t.world.now) := by
  show (t.world.state.reserve _ id).answer = _ ∧ (t.world.state.reserve _ id).state = _
  rw [h.sound.reserve_eq h.stored h.unheld hopen, hfree]
  exact ⟨rfl, rfl⟩

theorem Offers.release_empty (h : t.Offers id o) (hempty : o.bookings.toInt = 0) :
    (respond none (.release id) t.world).1 = .ok (.empty o) ∧
    (respond none (.release id) t.world).2.state = t.world.state := by
  show (t.world.state.release _ id).answer = _ ∧ (t.world.state.release _ id).state = _
  rw [h.sound.release_eq h.stored h.unheld, if_pos hempty]
  exact ⟨rfl, rfl⟩

theorem Offers.release_booked (h : t.Offers id o) (hbooked : o.bookings.toInt ≠ 0) :
    (respond none (.release id) t.world).1 = .ok (.released (o.vacated t.world.now)) ∧
    (respond none (.release id) t.world).2.state = t.world.state.put (o.vacated t.world.now) := by
  show (t.world.state.release _ id).answer = _ ∧ (t.world.state.release _ id).state = _
  rw [h.sound.release_eq h.stored h.unheld, if_neg hbooked]
  exact ⟨rfl, rfl⟩

end Traffic

/-! ## Phases -/

/-- How far a racer has got. -/
inductive Phase where
  /-- It has not looked yet. -/
  | waiting
  /-- It has seen a free spot. -/
  | ready
  /-- It has won, and the counter stood at this. -/
  | won (counter : Int)
  /-- It was told that there is nothing left. -/
  | lost
  deriving DecidableEq

namespace Phase

/-- The phase after an answer. -/
def after : Phase → (r : Request) → r.Answer → Phase
  | _, .find _, .ok (some o) => if o.isFull then lost else ready
  | _, .reserve _, .ok (.reserved o) => won o.bookings.toInt
  | _, .reserve _, .ok (.full _) => lost
  | _, .release _, .ok (.released o) => won o.bookings.toInt
  | _, .release _, .ok (.empty _) => lost
  | s, _, _ => s

/-- Whether the racer has won. -/
def isWon : Phase → Bool
  | won _ => true
  | _ => false

/-- Whether the racer has won and left the counter at a value. -/
def isWonAt (v : Int) : Phase → Bool
  | won n => n = v
  | _ => false

/-- Whether the racer has lost. -/
def isLost : Phase → Bool
  | lost => true
  | _ => false

end Phase

/-- What racers may ask and hear, and how they end; other calls are free to do anything. -/
def racing (racer : Call → Bool) (may : Phase → Request → Prop) (heard : (r : Request) → r.Answer → Prop)
    (ends : Phase → Ending → Prop) : Charter Phase where
  protocol c :=
    { start := .waiting
      may := fun s r => racer c = true → may s r
      heard := fun _ r x => racer c = true → heard r x
      next := Phase.after }
  ends c s e := racer c = true → ends s e

section Racing

variable {racer : Call → Bool} {may : Phase → Request → Prop} {heard : (r : Request) → r.Answer → Prop}
  {ends : Phase → Ending → Prop} {d : Desk} {t : Traffic} {callers : List Caller}

theorem racing_ledgerOnly (hmay : ∀ s r, r.counts = false → may s r) (c : Call) :
    ((racing racer may heard ends).protocol c).LedgerOnly := by
  constructor <;> intros <;> exact fun s => ⟨fun _ => hmay s _ rfl, fun _ => rfl⟩

/-- What is no racer keeps to the charter of the race. -/
theorem racing_keptBy_other {c : Caller} (hc : ¬ racer c.call = true) :
    (racing racer may heard ends).KeptBy c :=
  Procedure.follows_of_forall (fun _ _ h => absurd h hc) fun _ _ h => absurd h hc

/-- Racers who start keep to the charter if every one of them does on its own. -/
theorem racing_keptBy_start (hgrants : ∀ c, (racing racer may heard ends).Grants d c)
    (hfresh : ∀ c ∈ callers, racer c.call = true → c = .fresh d c.call) :
    ∀ c ∈ callers, (racing racer may heard ends).KeptBy c := by
  intro c hc
  by_cases hracer : racer c.call = true
  · rw [hfresh c hc hracer]
    exact hgrants c.call
  · exact racing_keptBy_other hracer

/-- Before a race nobody has won or lost. -/
theorem racing_tally_start {q : Phase → Bool} (hq : q .waiting = false)
    (hfresh : ∀ c ∈ callers, racer c.call = true → c = .fresh d c.call) :
    (racing racer may heard ends).tally (fun c s => racer c && q s) callers = 0 := by
  refine List.countP_eq_zero.mpr fun c hc hin => ?_
  obtain ⟨hracer, hin⟩ := Bool.and_eq_true_iff.mp hin
  rw [hfresh c hc hracer] at hin
  cases hq.symm.trans hin

/-- Nobody wins or loses by a move that is no racer's request about a counter. -/
theorem racing_tally_idle {q : Phase → Bool} (hq : q .waiting = false) {mv : Move}
    (hidle : ∀ i fault c r next, mv = .serve i fault → t.Turn i c r next → racer c.call = true →
      r.counts = false) :
    (racing racer may heard ends).tally (fun c s => racer c && q s) (t.step d mv).callers =
      (racing racer may heard ends).tally (fun c s => racer c && q s) t.callers := by
  refine Charter.tally_step (fun c => ?_) fun i fault c r next hserve hturn => ?_
  · rw [show ((racing racer may heard ends).protocol c).start = .waiting from rfl, hq, Bool.and_false]
  · cases hc : racer c.call with
    | false => rfl
    | true =>
        have hcounts := hidle i fault c r next hserve hturn hc
        cases r <;> first | rfl | cases hcounts

/-- Racers who have all won or lost add up. -/
theorem tally_won_add_lost (C : Charter Phase) (racer : Call → Bool)
    (hdone : ∀ c ∈ callers, racer c.call = true →
      (∃ n, C.stateOf c = .won n) ∨ C.stateOf c = .lost) :
    callers.countP (fun c => racer c.call) =
      C.tally (fun c s => racer c && s.isWon) callers +
      C.tally (fun c s => racer c && s.isLost) callers := by
  -- a racer who is done has lost exactly if it has not won
  rw [List.countP_eq_countP_filter_add _ _ fun c => (C.stateOf c).isWon, List.countP_filter,
    List.countP_filter]
  refine congrArg (_ + ·) (List.countP_congr fun c hc => ?_)
  cases hracer : racer c.call with
  | false => simp [hracer]
  | true =>
      rcases hdone c hc hracer with ⟨n, hwon⟩ | hlost
      · simp [hracer, hwon, Phase.isWon, Phase.isLost]
      · simp [hracer, hlost, Phase.isWon, Phase.isLost]

/-- Counting what racers were told is counting their phases. -/
theorem countP_ending_eq_tally {C : Charter Phase} {q : Phase → Bool} {shows : Ending → Bool}
    (h : ∀ c ∈ callers, racer c.call = true → c.ending?.any shows = q (C.stateOf c)) :
    callers.countP (fun c => racer c.call && c.ending?.any shows) =
      C.tally (fun c s => racer c && q s) callers := by
  refine List.countP_congr fun c hc => ?_
  cases hracer : racer c.call with
  | false => simp [hracer]
  | true => simp [hracer, h c hc hracer]

end Racing

end DiveSchool
