import DiveSchool.Proofs.Admission

/-!
# `DiveSchool.Proofs.Custody` — every booked spot has one record

The counters and the records are kept apart and change in separate steps, so they cannot agree at every
moment. What holds at every moment is that a booked spot has a record or is in the hands of one call: of
a booking that has taken it and not yet stored the record, or of a cancellation that has removed the
record and not yet freed the spot. This is the invariant `Custody.Balanced`, and as long as no attempt to
free a spot fails it is kept by redraws, by rollbacks and by every overlap of bookings and cancellations.

## Contents
- **Custody.** `Custody`, what a call has in hand, read off its trail; `custody`, what it may do with it.
- **Calls.** Recorded bookings and cancellations keep to the charter.
- **Balance.** One request conserves spots (`Memory.RequestEffect.conserved`), so every kind of step keeps
  `Traffic.Balanced`.
- **Runs.** `Traffic.Orderly` runs keep the balance (`Keeping.step`).
- **Main result.** `spots_match_records`.
-/

namespace DiveSchool

/-! ## Custody -/

/-- What a call has in hand and what it has done to the records. -/
structure Custody where
  /-- The offering of a spot that is booked and has no record, in the hands of this call. -/
  hand : Option OfferingId := none
  /-- The offerings of the records that the call has removed. -/
  removed : List OfferingId := []

namespace Custody

/-- A spot comes into the hands of a call when it is taken or loses its record, and goes out of them when
    a record is stored or the attempt to free it is over. -/
def after : Custody → (r : Request) → r.Answer → Custody
  | s, .reserve id, .ok (.reserved _) => { s with hand := some id }
  | s, .remove _, .ok (some b) => ⟨some b.offeringId, b.offeringId :: s.removed⟩
  | s, .store _, .ok true => { s with hand := none }
  | s, .release _, .ok _ => { s with hand := none }
  | s, _, _ => s

/-- How many spots of an offering a call has in hand. -/
def spots (s : Custody) (id : OfferingId) : Nat := if s.hand = some id then 1 else 0

theorem spots_of_none {s : Custody} (h : s.hand = none) (id : OfferingId) : s.spots id = 0 := by
  simp [spots, h]

theorem spots_of_some {s : Custody} {id' : OfferingId} (h : s.hand = some id') (id : OfferingId) :
    s.spots id = if id' = id then 1 else 0 := by
  simp [spots, h]

theorem after_of_idle {s : Custody} {r : Request} {x : r.Answer} (hx : Memory.Idle r x)
    (hr : ∀ id, r ≠ .release id) : s.after r x = s := by
  cases r with
  | find id => rfl
  | reserve id => rcases x with cause | (_ | _ | _ | _) <;> first | rfl | exact hx.elim
  | release id => exact absurd rfl (hr id)
  | store b => rcases x with cause | (_ | _) <;> first | rfl | exact hx.elim
  | remove reference => rcases x with cause | (_ | _) <;> first | rfl | exact hx.elim
  | _ => rfl

theorem mem_removed_after {s : Custody} {id : OfferingId} (h : id ∈ s.removed) (r : Request)
    (x : r.Answer) : id ∈ (s.after r x).removed := by
  unfold after
  split <;> first | exact h | exact List.mem_cons_of_mem _ h

end Custody

namespace Call

/-- A recorded booking. -/
def isBooking : Call → Bool
  | bookRecorded _ _ _ => true
  | _ => false

/-- The cancellation of a recorded booking. -/
def isCancellation : Call → Bool
  | cancelRecorded _ => true
  | _ => false

end Call

/-- A call takes one spot into its hands at a time, and stores or frees only what it has there, provided
    that no attempt to free a spot fails and none finds an offering of `known` without bookings. -/
def custody (known : OfferingId → Prop) : Charter Custody where
  protocol c :=
    { start := {}
      may := fun s r => match r with
        | .reserve _ | .remove _ => s.hand = none
        | .store b => s.hand = some b.offeringId
        | .release id => s.hand = some id ∧ (c.isBooking = true → known id)
        | _ => True
      heard := fun _ r x => match r, x with
        | .reserve id, .ok (.reserved _) => known id
        | .release id, x => (∃ o, x = .ok (.released o)) ∨ (¬ known id ∧ x = .ok .notFound)
        | _, _ => True
      next := Custody.after }
  ends c s e := s.hand = none ∧ (c.isCancellation = true →
    e ≠ .freed (.error .nothingToRelease) ∧ ∀ id ∈ s.removed, known id → ∃ n, e = .freed (.ok n))

/-! ## Calls -/

variable {known : OfferingId → Prop}

theorem custody_ledgerOnly (known : OfferingId → Prop) (c : Call) :
    ((custody known).protocol c).LedgerOnly := by
  constructor <;> intros <;> exact fun _ => ⟨trivial, fun _ => rfl⟩

/-- **A recorded booking** keeps to the charter: the spot stays in its hands through every redraw until
    the record is stored or the spot is freed. -/
theorem grants_bookRecorded (d : Desk) (now : Timestamp) (id : OfferingId) (holder : Holder) :
    (custody known).Grants d (.bookRecorded now id holder) := by
  have hP := custody_ledgerOnly known (.bookRecorded now id holder)
  refine Procedure.follows_bind.mpr (Procedure.follows_bind.mpr ?_)
  refine Desk.follows_reserve hP.log trivial ?_ ?_
  · intro x e _ _
    exact ⟨rfl, nofun⟩
  · intro x _ _
    refine ⟨rfl, fun y hy => ?_⟩
    rcases y with cause | (o | _ | _ | _)
    · exact ⟨rfl, nofun⟩
    · -- the spot is in hand, and the offering is there to take it back
      -- and stays there through every attempt at a record that does not store one
      refine Desk.follows_storeUnderFresh hP (fun s => s.hand = some id ∧ known id) ⟨rfl, hy⟩ ?_ ?_ ?_ ?_
      · exact fun s reference hs => hs.1
      · exact fun s reference hs _ => ⟨rfl, nofun⟩
      · intro s reference x hs _ hx
        rcases x with cause | (_ | _)
        · exact hs
        · exact hs
        · exact absurd rfl hx
      · intro s cause hs
        refine ⟨⟨hs.1, fun _ => hs.2⟩, fun x hx => ?_⟩
        rcases hx with ⟨o, rfl⟩ | ⟨_, rfl⟩ <;> exact ⟨rfl, nofun⟩
    · exact ⟨rfl, nofun⟩
    · exact ⟨rfl, nofun⟩
    · exact ⟨rfl, nofun⟩

/-- **A recorded cancellation** keeps to the charter: what it has removed it frees, and it only finds
    nothing to free if there is no such offering. -/
theorem grants_cancelRecorded (d : Desk) (reference : String) :
    (custody known).Grants d (.cancelRecorded reference) := by
  have hP := custody_ledgerOnly known (.cancelRecorded reference)
  refine Procedure.follows_bind.mpr (Desk.follows_cancelRecorded hP rfl ?_ ?_ ?_)
  -- without a record nothing comes into its hands
  · exact fun cause _ => ⟨rfl, fun _ => ⟨nofun, nofun⟩⟩
  · exact fun _ => ⟨rfl, fun _ => ⟨nofun, nofun⟩⟩
  · refine fun b _ => ⟨⟨rfl, nofun⟩, fun x hx => ?_⟩
    rcases hx with ⟨o, rfl⟩ | ⟨hunknown, rfl⟩
    · exact ⟨rfl, fun _ => ⟨nofun, fun _ _ _ => ⟨o.snapshot, rfl⟩⟩⟩
    · refine ⟨rfl, fun _ => ⟨nofun, fun id hid hknown => ?_⟩⟩
      rw [List.mem_singleton.mp hid] at hknown
      exact absurd hknown hunknown

theorem grants_recorded (d : Desk) {c : Call} (h : c.isBooking = true ∨ c.isCancellation = true) :
    (custody known).Grants d c := by
  cases c with
  | bookRecorded now id holder => exact grants_bookRecorded d now id holder
  | cancelRecorded reference => exact grants_cancelRecorded d reference
  | _ => rcases h with h | h <;> cases h

/-! ## Balance -/

/-- What a caller has in hand, read off its trail. -/
def Caller.custody (c : Caller) : Custody :=
  c.trail.foldl (fun s e => s.after e.request e.answer) {}

/-- The number of records of an offering. -/
def Memory.recordsOf (m : Memory) (id : OfferingId) : Nat :=
  m.records.values.countP (·.offeringId = id)

namespace Memory

variable {m : Memory} {id : OfferingId}

theorem recordsOf_insert {b : Booking} (h : m.records.get? b.reference = none) :
    ({ m with records := m.records.insert b.reference b } : Memory).recordsOf id =
      m.recordsOf id + if b.offeringId = id then 1 else 0 := by
  simp [recordsOf, Table.values_insert h, List.countP_append, List.countP_singleton]

theorem recordsOf_erase {reference : String} {b : Booking} (h : m.records.get? reference = some b)
    (id : OfferingId) : ({ m with records := m.records.erase reference } : Memory).recordsOf id +
      (if b.offeringId = id then 1 else 0) = m.recordsOf id := by
  simpa [recordsOf] using Table.countP_values_erase (fun b : Booking => b.offeringId = id) h

/-- **One request conserves spots**: what the counter or the records gain, the hands of the caller lose,
    and the other way round. -/
theorem RequestEffect.conserved {m' : Memory} {now : Timestamp} {r : Request} {x : r.Answer}
    (h : RequestEffect m now r x m') (hm : m.Sound)
    (hknown : ∀ id, known id ↔ ∃ o, m.offerings.get? id = some o) {c : Call} {s : Custody}
    (hmay : ((custody known).protocol c).may s r) (hheard : ((custody known).protocol c).heard s r x)
    {o : Offering} (ho : m'.offerings.get? id = some o) :
    ∃ o', m.offerings.get? id = some o' ∧ o.bookings.toInt + m.recordsOf id + s.spots id =
      o'.bookings.toInt + m'.recordsOf id + (s.after r x).spots id := by
  cases h with
  | looked _ => exact ⟨o, ho, rfl⟩
  | nothing hx =>
      refine ⟨o, ho, ?_⟩
      by_cases hrelease : ∃ id', r = .release id'
      · -- the attempt found no such offering, so it is not this one
        obtain ⟨id', rfl⟩ := hrelease
        rcases hheard with ⟨o', rfl⟩ | ⟨hunknown, rfl⟩
        · exact hx.elim
        · have hother : id' ≠ id := fun hid => hunknown (hid ▸ (hknown id).mpr ⟨o, ho⟩)
          rw [Custody.spots_of_some hmay.1, if_neg hother]
          rfl
      · rw [Custody.after_of_idle hx fun id' hr => hrelease ⟨id', hr⟩]
  | @took id' o' ho' _ hfree =>
      -- the counter and the hand gain one each
      have hadd := Offering.toInt_bookings_add_one hfree
      have hafter : (s.after (.reserve id') (.ok (.reserved (o'.taken now)))).spots id =
          if id' = id then 1 else 0 := Custody.spots_of_some rfl id
      rw [Custody.spots_of_none hmay, hafter]
      rcases hm.of_get?_put ho' ho rfl with ⟨rfl, rfl⟩ | ⟨hne, ho⟩
      · refine ⟨o', ho', ?_⟩
        show (o'.bookings + 1).toInt + m.recordsOf id + 0 = o'.bookings.toInt + m.recordsOf id + _
        rw [if_pos rfl]
        omega
      · refine ⟨o, ho, ?_⟩
        rw [if_neg (Ne.symm hne)]
        rfl
  | @freed id' o' ho' hbooked =>
      -- the counter and the hand lose one each
      have hsub := Offering.toInt_bookings_sub_one hbooked
      have hafter : (s.after (.release id') (.ok (.released (o'.vacated now)))).spots id = 0 :=
        Custody.spots_of_none rfl id
      rw [Custody.spots_of_some hmay.1, hafter]
      rcases hm.of_get?_put ho' ho rfl with ⟨rfl, rfl⟩ | ⟨hne, ho⟩
      · refine ⟨o', ho', ?_⟩
        show (o'.bookings - 1).toInt + m.recordsOf id + _ = o'.bookings.toInt + m.recordsOf id + 0
        rw [if_pos rfl]
        omega
      · refine ⟨o, ho, ?_⟩
        rw [if_neg (Ne.symm hne)]
        rfl
  | @stored b hnew =>
      -- the spot goes from the hand to the records
      refine ⟨o, ho, ?_⟩
      have hafter : (s.after (.store b) (.ok true)).spots id = 0 := Custody.spots_of_none rfl id
      rw [recordsOf_insert hnew, Custody.spots_of_some hmay, hafter]
      omega
  | @removed reference b hrecord =>
      -- the spot goes from the records to the hand
      refine ⟨o, ho, ?_⟩
      have hrecords := recordsOf_erase hrecord id
      have hafter : (s.after (.remove reference) (.ok (some b))).spots id =
          if b.offeringId = id then 1 else 0 := Custody.spots_of_some rfl id
      rw [Custody.spots_of_none hmay, hafter]
      omega

end Memory

namespace Traffic

/-- The number of callers that have a spot of an offering in hand. -/
def inHand (t : Traffic) (id : OfferingId) : Nat := t.callers.countP (·.custody.hand = some id)

theorem inHand_serve {d : Desk} {t : Traffic} {i : Nat} {c : Caller} {r : Request}
    {next : r.Answer → Procedure Ending} (hturn : t.Turn i c r next) (fault : Option Failure)
    (id : OfferingId) :
    (t.step d (.serve i fault)).inHand id + c.custody.spots id =
      t.inHand id + (c.custody.after r (respond fault r t.world).1).spots id := by
  have htally := (custody fun _ => True).tally_serve (d := d) (p := fun _ s => s.hand = some id) hturn fault
  simp only [decide_eq_true_eq] at htally
  exact htally

/-- The bookings of every offering are a base, its records, and the spots in hand. -/
def Balanced (base : OfferingId → Int) (t : Traffic) : Prop :=
  ∀ id o, t.world.state.offerings.get? id = some o →
    o.bookings.toInt = base id + t.world.state.recordsOf id + t.inHand id

/-- Only recorded bookings and cancellations are made, no offering is written, and no attempt to free a spot
    fails. -/
def Orderly (t : Traffic) : Move → Prop
  | .write _ => False
  | .call c => c.isBooking = true ∨ c.isCancellation = true
  | .serve i fault => ∀ c id next, t.Turn i c (.release id) next →
      ∀ e, (respond fault (.release id) t.world).1 ≠ .error e
  | _ => True

/-- Where no lock is held and nothing fails, recorded bookings and cancellations are orderly. -/
theorem along_orderly {d : Desk} {t : Traffic} {moves : List Move} (hm : t.world.state.Sound)
    (hheld : t.world.state.held = []) (hmoves : ∀ mv ∈ moves, (∃ i, mv = .serve i none) ∨
      ∃ c : Call, mv = .call c ∧ (c.isBooking = true ∨ c.isCancellation = true)) :
    Along d Orderly t moves := by
  induction moves generalizing t with
  | nil => exact trivial
  | cons mv moves ih =>
      have hrest := fun mv hmv => hmoves mv (List.mem_cons_of_mem _ hmv)
      rcases hmoves mv List.mem_cons_self with ⟨i, rfl⟩ | ⟨c, rfl, hc⟩
      · refine ⟨?_, ih (sound_step hm _) ((held_serve hm i none).trans hheld) hrest⟩
        exact fun c id next _ e => release_ne_error hm hheld e
      · exact ⟨hc, ih hm hheld hrest⟩

end Traffic

/-- What holds of an orderly run at every moment. -/
structure Keeping (known : OfferingId → Prop) (base : OfferingId → Int) (t : Traffic) : Prop where
  sound : t.world.state.Sound
  stored : ∀ id, known id ↔ ∃ o, t.world.state.offerings.get? id = some o
  recorded : ∀ c ∈ t.callers, c.call.isBooking = true ∨ c.call.isCancellation = true
  kept : ∀ c ∈ t.callers, (custody known).KeptBy c
  balanced : t.Balanced base

namespace Keeping

variable {base : OfferingId → Int} {d : Desk} {t : Traffic} {i : Nat} {fault : Option Failure}
  {c : Caller}

/-- A spot in hand is a spot booked. -/
theorem booked_of_hand (h : Keeping known base t) (hbase : ∀ id, known id → 0 ≤ base id)
    {id : OfferingId} {o : Offering} (hc : c ∈ t.callers) (hhand : c.custody.hand = some id)
    (ho : t.world.state.offerings.get? id = some o) : 0 < o.bookings.toInt := by
  have hbalance := h.balanced id o ho
  have hnonneg := hbase id ((h.stored id).mpr ⟨o, ho⟩)
  have hheld : 0 < t.inHand id :=
    List.countP_pos_iff.mpr ⟨c, hc, decide_eq_true hhand⟩
  omega

/-- **A spot in hand can be freed**, unless there is no such offering or the attempt fails. -/
theorem release (h : Keeping known base t) (hbase : ∀ id, known id → 0 ≤ base id) {id : OfferingId}
    {next : (Request.release id).Answer → Procedure Ending} (hturn : t.Turn i c (.release id) next)
    (hok : ∀ e, (respond fault (.release id) t.world).1 ≠ .error e) :
    (∃ o, (respond fault (.release id) t.world).1 = .ok (.released o)) ∨
      (¬ known id ∧ (respond fault (.release id) t.world).1 = .ok .notFound) := by
  obtain ⟨hhand, _⟩ := (h.kept c hturn.mem).may hturn
  rcases Traffic.respond_cases fault (.release id) t.world with ⟨f, x, hx, hr⟩ | hr
  · rw [hr] at hok
    cases hx
    exact absurd rfl (hok f)
  · rw [hr] at hok ⊢
    change ∀ e, (t.world.state.release t.world.now id).answer ≠ .error e at hok
    show (∃ o, (t.world.state.release t.world.now id).answer = .ok (.released o)) ∨
      (¬ known id ∧ (t.world.state.release t.world.now id).answer = .ok .notFound)
    have hstep := h.sound.releaseStep t.world.now id
    generalize t.world.state.release t.world.now id = reply at hstep hok
    cases hstep with
    | absent hnone =>
        refine Or.inr ⟨fun hknown => ?_, rfl⟩
        obtain ⟨o, ho⟩ := (h.stored id).mp hknown
        cases hnone.symm.trans ho
    | locked _ _ => exact absurd rfl (hok _)
    | empty ho hempty =>
        -- the spot in hand is among the bookings
        have hbooked := h.booked_of_hand hbase hturn.mem hhand ho
        omega
    | released _ _ => exact Or.inl ⟨_, rfl⟩

theorem heard (h : Keeping known base t) (hbase : ∀ id, known id → 0 ≤ base id) {r : Request}
    {next : r.Answer → Procedure Ending} (hturn : t.Turn i c r next)
    (hmv : t.Orderly (.serve i fault)) :
    ((custody known).protocol c.call).heard ((custody known).stateOf c) r
      (respond fault r t.world).1 := by
  cases r with
  | reserve id =>
      cases hx : (respond fault (.reserve id) t.world).1 with
      | error cause => exact trivial
      | ok reservation =>
          cases reservation with
          | reserved o =>
              obtain ⟨o, ho, _⟩ := Traffic.open_of_reserved h.sound hx
              exact (h.stored id).mpr ⟨o, ho⟩
          | _ => exact trivial
  | release id => exact h.release hbase hturn (hmv c id next hturn)
  | _ => exact trivial

/-- **One request** keeps the balance. -/
theorem balanced_serve (h : Keeping known base t) (hbase : ∀ id, known id → 0 ≤ base id) {r : Request}
    {next : r.Answer → Procedure Ending} (hturn : t.Turn i c r next)
    (hmv : t.Orderly (.serve i fault)) : (t.step d (.serve i fault)).Balanced base := by
  have heffect := h.sound.requestEffect fault r
  have hstate : (t.step d (.serve i fault)).world.state = (respond fault r t.world).2.state := by
    rw [Traffic.step_serve hturn]
  intro id o ho
  have hhands := Traffic.inHand_serve (d := d) hturn fault id
  rw [hstate] at ho ⊢
  obtain ⟨o', ho', hconserved⟩ := heffect.conserved h.sound h.stored
    ((h.kept c hturn.mem).may hturn) (h.heard hbase hturn hmv) ho
  have hbefore := h.balanced id o' ho'
  rw [show (custody known).stateOf c = c.custody from rfl] at hconserved
  omega

/-- Any other move keeps it too: no order changes a counter, and a new call has nothing in hand. -/
theorem balanced_step (h : Keeping known base t) (hbase : ∀ id, known id → 0 ≤ base id) {mv : Move}
    (hmv : t.Orderly mv) : (t.step d mv).Balanced base := by
  cases mv with
  | serve i fault =>
      rcases Traffic.turn_or_idle d t i fault with ⟨c, r, next, hturn⟩ | hidle
      · exact h.balanced_serve hbase hturn hmv
      · rw [hidle]
        exact h.balanced
  | order order =>
      intro id o ho
      have heffect := h.sound.begunEffect order
      obtain ⟨o', ho', hsame⟩ := h.sound.bookings_begun ho
      show o.bookings.toInt = base id + (order.begun t.world).state.recordsOf id + t.inHand id
      rw [hsame, h.balanced id o' ho', Memory.recordsOf, Memory.recordsOf, heffect.records]
  | write p => exact hmv.elim
  | call c =>
      intro id o ho
      have hnone : (t.step d (.call c)).inHand id = t.inHand id := by
        show (t.callers ++ [Caller.fresh d c]).countP _ = _
        rw [List.countP_append]
        rfl
      rw [hnone]
      exact h.balanced id o ho
  | lock held => exact h.balanced
  | clock now => exact h.balanced

/-- No offering comes and none goes. -/
theorem stored_step (h : Keeping known base t) {mv : Move} (hmv : t.Orderly mv) (id : OfferingId) :
    known id ↔ ∃ o, (t.step d mv).world.state.offerings.get? id = some o := by
  have hwrite : ∀ p, mv ≠ .write p := by
    rintro p rfl
    exact hmv
  rw [h.stored id]
  refine ⟨fun ⟨o, ho⟩ => ?_, fun ⟨o, ho⟩ => ?_⟩
  · obtain ⟨o', ho', _⟩ := Traffic.lasts_step (d := d) h.sound (fun p _ hp => absurd hp (hwrite p)) o ho
    exact ⟨o', ho'⟩
  · exact Traffic.stored_before h.sound (fun p _ hp => absurd hp (hwrite p)) ho

/-! ## Runs -/

/-- **One move** of an orderly run. -/
theorem step (h : Keeping known base t) (hbase : ∀ id, known id → 0 ≤ base id) {mv : Move}
    (hmv : t.Orderly mv) : Keeping known base (t.step d mv) where
  sound := Traffic.sound_step h.sound mv
  stored := h.stored_step hmv
  recorded c' hc' := by
    rcases Traffic.mem_callers_step hc' with hold | ⟨c, rfl, rfl⟩ | ⟨i, fault, c, r, next, _, hturn, rfl⟩
    · exact h.recorded c' hold
    · exact hmv
    · exact h.recorded c hturn.mem
  kept := Charter.keptBy_step h.kept (fun c hcall => grants_recorded d (by subst hcall; exact hmv))
    fun i fault c r next hserve hturn => h.heard hbase hturn (hserve ▸ hmv)
  balanced := h.balanced_step hbase hmv

/-- **Before any call has begun** the base is what the counters exceed the records by. -/
theorem start (hm : t.world.state.Sound)
    (hcallers : ∀ c ∈ t.callers, (c.call.isBooking = true ∨ c.call.isCancellation = true) ∧
      c = .fresh d c.call)
    (hbase : ∀ id o, t.world.state.offerings.get? id = some o →
      o.bookings.toInt - t.world.state.recordsOf id = base id) :
    Keeping (fun id => ∃ o, t.world.state.offerings.get? id = some o) base t where
  sound := hm
  stored _ := Iff.rfl
  recorded c hc := (hcallers c hc).1
  kept c hc := by
    rw [(hcallers c hc).2]
    exact grants_recorded d (hcallers c hc).1
  balanced id o ho := by
    have hempty : t.inHand id = 0 := by
      refine List.countP_eq_zero.mpr fun c hc hin => ?_
      rw [(hcallers c hc).2] at hin
      cases of_decide_eq_true hin
    have hbase := hbase id o ho
    omega

/-! ## Consequences -/

/-- A spot in hand is in the hands of a booking or of a cancellation. -/
theorem inHand_eq (h : Keeping known base t) (id : OfferingId) :
    t.inHand id = t.callers.countP (fun c => c.call.isBooking && c.custody.hand = some id) +
      t.callers.countP (fun c => c.call.isCancellation && c.custody.hand = some id) := by
  have hkind : ∀ c ∈ t.callers, (!c.call.isBooking) = c.call.isCancellation := by
    intro c hc
    have hrecorded := h.recorded c hc
    cases hcall : c.call <;>
      simp [hcall, Call.isBooking, Call.isCancellation] at hrecorded ⊢
  rw [Traffic.inHand, List.countP_eq_countP_filter_add _ _ (·.call.isBooking), List.countP_filter,
    List.countP_filter]
  congr 1
  · exact List.countP_congr fun c _ => by rw [Bool.and_comm]
  · exact List.countP_congr fun c hc => by rw [hkind c hc, Bool.and_comm]

/-- A call that is done, or has not begun, has nothing in hand. -/
theorem inHand_eq_zero (h : Keeping known base t)
    (hidle : ∀ c ∈ t.callers, c.ending?.isSome ∨ c.trail = []) (id : OfferingId) : t.inHand id = 0 := by
  refine List.countP_eq_zero.mpr fun c hc hin => ?_
  have hhand : c.custody.hand = none := by
    rcases hidle c hc with hdone | hfresh
    · obtain ⟨e, he⟩ := Option.isSome_iff_exists.mp hdone
      exact ((h.kept c hc).ends he).1
    · rw [Caller.custody, hfresh]
      rfl
  rw [hhand] at hin
  cases of_decide_eq_true hin

/-- What a call has removed stays on its list. -/
theorem mem_removed {reference : String} {b : Booking} {trail : List Exchange}
    (h : (⟨.remove reference, .ok (some b)⟩ : Exchange) ∈ trail) (s : Custody) :
    b.offeringId ∈ (trail.foldl (fun s e => s.after e.request e.answer) s).removed := by
  have hstays : ∀ (trail : List Exchange) (s : Custody), b.offeringId ∈ s.removed →
      b.offeringId ∈ (trail.foldl (fun s e => s.after e.request e.answer) s).removed := by
    intro trail
    induction trail with
    | nil => exact fun s hs => hs
    | cons e trail ih => exact fun s hs => ih _ (Custody.mem_removed_after hs e.request e.answer)
  -- the state in between is arbitrary, so the induction is over all of them
  induction trail generalizing s with
  | nil => cases h
  | cons e trail ih =>
      rcases List.mem_cons.mp h with rfl | h
      · exact hstays trail _ List.mem_cons_self
      · exact ih h _

/-- **A cancellation that is done** has found something to release, and if it removed a record of an
    offering that is stored it has freed a spot. -/
theorem cancelled (h : Keeping known base t) (hc : c ∈ t.callers) (hcall : c.call.isCancellation = true)
    {e : Ending} (he : c.ending? = some e) :
    e ≠ .freed (.error .nothingToRelease) ∧
      ∀ reference b, (⟨.remove reference, .ok (some b)⟩ : Exchange) ∈ c.trail →
        (∃ o, t.world.state.offerings.get? b.offeringId = some o) → ∃ n, e = .freed (.ok n) := by
  obtain ⟨hsomething, hfreed⟩ := ((h.kept c hc).ends he).2 hcall
  refine ⟨hsomething, fun reference b hremoved hstored => ?_⟩
  exact hfreed b.offeringId (mem_removed hremoved {}) ((h.stored _).mpr hstored)

end Keeping

/-! ## Main result -/

/-- **Every booked spot has one record.** Take any ledger that a run leads to, in which no offering has
    more records than bookings, and let any number of recorded bookings and cancellations run on it, in
    any order of their steps and with faults wherever a spot is not being freed. At every moment the
    bookings of an offering are what there was beyond its records at the start, its records, the bookings
    that hold a spot without a record and the cancellations that have removed a record and not yet freed
    its spot. So counters and records agree when no call is under way; a booking that is rolled back finds
    its spot; and a cancellation never finds nothing to release, but frees the spot of the record that it
    removed. -/
theorem spots_match_records (d : Desk) (t : Traffic) (hreach : t.world.Reachable)
    (hcallers : ∀ c ∈ t.callers, (c.call.isBooking = true ∨ c.call.isCancellation = true) ∧
      c = .fresh d c.call)
    (base : OfferingId → Int)
    (hbase : ∀ id o, t.world.state.offerings.get? id = some o →
      o.bookings.toInt - t.world.state.recordsOf id = base id ∧ 0 ≤ base id)
    (moves : List Move) (horderly : Traffic.Along d Traffic.Orderly t moves) :
    let t' := t.run d moves
    (∀ id o, t'.world.state.offerings.get? id = some o →
      o.bookings.toInt = base id + t'.world.state.recordsOf id +
        t'.callers.countP (fun c => c.call.isBooking && c.custody.hand = some id) +
        t'.callers.countP (fun c => c.call.isCancellation && c.custody.hand = some id)) ∧
    ((∀ c ∈ t'.callers, c.ending?.isSome ∨ c.trail = []) →
      ∀ id o, t'.world.state.offerings.get? id = some o →
        o.bookings.toInt = base id + t'.world.state.recordsOf id) ∧
    (∀ i fault c id next, t'.Turn i c (.release id) next → c.call.isBooking = true →
      t'.Orderly (.serve i fault) →
      ∃ o, (respond fault (.release id) t'.world).1 = .ok (.released o)) ∧
    ∀ c ∈ t'.callers, c.call.isCancellation = true → ∀ e, c.ending? = some e →
      e ≠ .freed (.error .nothingToRelease) ∧
      ∀ reference b, (⟨.remove reference, .ok (some b)⟩ : Exchange) ∈ c.trail →
        (∃ o, t'.world.state.offerings.get? b.offeringId = some o) → ∃ n, e = .freed (.ok n) := by
  intro t'
  have hnonneg : ∀ id, (∃ o, t.world.state.offerings.get? id = some o) → 0 ≤ base id :=
    fun id ⟨o, ho⟩ => (hbase id o ho).2
  have hkeeping : Keeping (fun id => ∃ o, t.world.state.offerings.get? id = some o) base t' :=
    Traffic.run_induction (fun _ _ h hmv => h.step hnonneg hmv)
      (Keeping.start hreach.sound hcallers fun id o ho => (hbase id o ho).1) horderly
  refine ⟨fun id o ho => ?_, fun hidle id o ho => ?_, ?_, ?_⟩
  · have hbalance := hkeeping.balanced id o ho
    have hhands := hkeeping.inHand_eq id
    omega
  · have hbalance := hkeeping.balanced id o ho
    have hhands := hkeeping.inHand_eq_zero hidle id
    omega
  · intro i fault c id next hturn hbooking hmv
    obtain ⟨_, hknown⟩ := (hkeeping.kept c hturn.mem).may hturn
    rcases hkeeping.release hnonneg hturn (hmv c id next hturn) with hreleased | ⟨hunknown, _⟩
    · exact hreleased
    · exact absurd (hknown hbooking) hunknown
  · intro c hc hcall e he
    exact hkeeping.cancelled hc hcall he

/-! ## A cancellation and a booking -/

namespace OneRecord

/-- The record of one spot of the trip with one spot. -/
def record : Booking := ⟨"REEF-ANN-100", ⟨1⟩, "Ann", default⟩

/-- The spot is booked and has its record; one client cancels it while another tries to book. -/
def callers : Traffic :=
  { world := ((Traffic.opening 0 (Table.empty.insert record.reference record) .empty default default).run
      OneSpot.desk (Tested.adding ⟨OneSpot.trip 1, rfl⟩)).world
    pending := []
    callers := [.fresh OneSpot.desk (.cancelRecorded record.reference),
      .fresh OneSpot.desk (.bookRecorded default ⟨1⟩ default)] }

theorem reachable_callers : callers.world.Reachable :=
  ⟨OneSpot.desk, 0, Table.empty.insert record.reference record, .empty, default, default,
    Tested.adding ⟨OneSpot.trip 1, rfl⟩, rfl⟩

/-- Without bookings beyond the records there is nothing beyond them. -/
theorem base_callers (id : OfferingId) (o : Offering)
    (ho : callers.world.state.offerings.get? id = some o) :
    o.bookings.toInt - callers.world.state.recordsOf id = 0 ∧ (0 : Int) ≤ 0 := by
  change (Table.empty.insert ⟨1⟩ (OneSpot.trip 1)).get? id = some o at ho
  rw [Table.get?_insert] at ho
  split at ho
  · next hid =>
      cases ho
      cases hid
      decide
  · cases ho

end OneRecord

open OneRecord in
/-- The two take turns until both are done; then the counter is the number of records again. -/
theorem one_record_agrees :
    let t := callers.run OneSpot.desk (OneSpot.turns 7)
    ∀ id o, t.world.state.offerings.get? id = some o →
      o.bookings.toInt = 0 + t.world.state.recordsOf id := by
  have hdone : (callers.run OneSpot.desk (OneSpot.turns 7)).callers.all
      (fun c => c.ending?.isSome) = true := by decide +kernel
  refine (spots_match_records OneSpot.desk callers reachable_callers ?_ (fun _ => 0) base_callers
    (OneSpot.turns 7) (Traffic.along_orderly reachable_callers.sound rfl fun mv hmv =>
      Or.inl (OneSpot.mem_turns hmv))).2.1 fun c hc => Or.inl (List.all_eq_true.mp hdone c hc)
  intro c hc
  simp only [callers, List.mem_cons, List.not_mem_nil, or_false] at hc
  rcases hc with rfl | rfl
  · exact ⟨Or.inr rfl, rfl⟩
  · exact ⟨Or.inl rfl, rfl⟩

end DiveSchool
