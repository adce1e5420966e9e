import DiveSchool.Proofs.Traffic
import DiveSchool.Proofs.Counter

/-!
# `DiveSchool.Proofs.Effect` — all that a move can do to a ledger

Of everything that happens at a desk only few moves change the ledger, and each changes little of it. What
that is stands here once, as one relation for the requests and one for the orders, each with every
condition that the ledger has checked; every invariant of a run is a case analysis over the two.

## Contents
- **Effects.** `RequestEffect` and `OrderEffect`; in a sound ledger nothing else happens.
- **Frames.** What an effect leaves alone.
- **Soundness.** `Traffic.sound_step`: every move keeps `Memory.Sound`, so every `World.Reachable` has it.
- **Answers.** What an answer says about the ledger that gave it.
-/

namespace DiveSchool

/-! ## Effects -/

/-- The offering whose counter a request changes. -/
def Request.changes? : Request → Option OfferingId
  | reserve id | release id => some id
  | _ => none

namespace Memory

variable {m m' : Memory} {now : Timestamp} {id : OfferingId} {o : Offering}

/-- An answer that shows nothing of the ledger and tells of no change. -/
def Idle : (r : Request) → r.Answer → Prop
  | .find _, .ok (some _) => False
  | .reserve _, .ok (.reserved _) => False
  | .release _, .ok (.released _) => False
  | .store _, .ok true => False
  | .remove _, .ok (some _) => False
  | _, _ => True

/-- What a request can be answered, and what it then does to the ledger. -/
inductive RequestEffect (m : Memory) (now : Timestamp) : (r : Request) → r.Answer → Memory → Prop
  | nothing {r : Request} {x : r.Answer} (hx : Idle r x) : RequestEffect m now r x m
  | looked {id : OfferingId} {o : Offering} (h : m.offerings.get? id = some o) :
      RequestEffect m now (.find id) (.ok (some o)) m
  | took {id : OfferingId} {o : Offering} (h : m.offerings.get? id = some o)
      (hstatus : o.status = .published) (hfree : o.isFull = false) :
      RequestEffect m now (.reserve id) (.ok (.reserved (o.taken now))) (m.put (o.taken now))
  | freed {id : OfferingId} {o : Offering} (h : m.offerings.get? id = some o)
      (hbooked : 0 < o.bookings.toInt) :
      RequestEffect m now (.release id) (.ok (.released (o.vacated now))) (m.put (o.vacated now))
  | stored {b : Booking} (hnew : m.records.get? b.reference = none) :
      RequestEffect m now (.store b) (.ok true) { m with records := m.records.insert b.reference b }
  | removed {reference : String} {b : Booking} (h : m.records.get? reference = some b) :
      RequestEffect m now (.remove reference) (.ok (some b))
        { m with records := m.records.erase reference }

/-- What an order can do to the ledger. -/
inductive OrderEffect (m : Memory) (now : Timestamp) : Order → Memory → Prop
  | nothing {order : Order} : OrderEffect m now order m
  | added {o : Offering} (hnew : m.offerings.get? o.id = none) (ho : o.WithinCapacity) :
      OrderEffect m now (.add o) (m.put o)
  | resized {id : OfferingId} {capacity : Int32} {o : Offering} (h : m.offerings.get? id = some o)
      (hcheck : o.checkCapacity capacity = .ok ()) :
      OrderEffect m now (.setCapacity id capacity) (m.put { o with capacity, updatedAt := now })
  | moved {id : OfferingId} {status : Status} {o : Offering} (h : m.offerings.get? id = some o) :
      OrderEffect m now (.setStatus id status) (m.put { o with status, updatedAt := now })

/-- **Everything a request can do** in a sound ledger, served or failing. -/
theorem Sound.requestEffect {w : World Memory} (hm : w.state.Sound) (fault : Option Failure)
    (r : Request) :
    RequestEffect w.state w.now r (respond fault r w).1 (respond fault r w).2.state := by
  rcases Traffic.respond_cases fault r w with ⟨f, x, hx, h⟩ | h
  · -- a fault comes before the ledger is asked
    rw [h]
    refine .nothing ?_
    cases r <;> cases hx <;> exact trivial
  · rw [h]
    cases r with
    | find id =>
        show RequestEffect _ _ (.find id) (w.state.find id).answer (w.state.find id).state
        have hstep := findStep w.state id
        generalize w.state.find id = reply at hstep
        cases hstep with
        | found ho => exact .looked ho
        | _ => exact .nothing trivial
    | reserve id =>
        show RequestEffect _ _ (.reserve id) (w.state.reserve w.now id).answer
          (w.state.reserve w.now id).state
        have hstep := hm.reserveStep w.now id
        generalize w.state.reserve w.now id = reply at hstep
        cases hstep with
        | reserved ho hstatus hfree => exact .took ho hstatus hfree
        | _ => exact .nothing trivial
    | release id =>
        show RequestEffect _ _ (.release id) (w.state.release w.now id).answer
          (w.state.release w.now id).state
        have hstep := hm.releaseStep w.now id
        generalize w.state.release w.now id = reply at hstep
        cases hstep with
        | released ho hbooked => exact .freed ho hbooked
        | _ => exact .nothing trivial
    | store b =>
        show RequestEffect _ _ (.store b) (w.state.store b).answer (w.state.store b).state
        unfold store
        cases hused : w.state.records.contains b.reference with
        | true => exact .nothing trivial
        | false => exact .stored (by simpa [Table.contains] using hused)
    | remove reference =>
        show RequestEffect _ _ (.remove reference) (.ok (w.state.records.get? reference))
          { w.state with records := w.state.records.erase reference }
        cases h : w.state.records.get? reference with
        | some b => exact .removed h
        | none =>
            -- there is nothing to erase
            rw [Table.erase_of_get?_eq_none h]
            exact .nothing trivial
    | claim reference id =>
        cases h : w.registry.claim? reference id <;> simp only [Ledger.serve, h] <;>
          exact .nothing trivial
    | _ => exact .nothing trivial

/-- **Everything an order can do** in a sound ledger. -/
theorem Sound.orderEffect {w : World Memory} (hm : w.state.Sound) (order : Order) :
    OrderEffect w.state w.now order (order.apply w).state := by
  cases order with
  | add o =>
      show OrderEffect _ _ _ (w.state.insert o).state
      have hstep := addStep w.state o
      generalize w.state.insert o = reply at hstep
      cases hstep with
      | refused => exact .nothing
      | added hnew ho => exact .added hnew ho
  | setCapacity id capacity =>
      show OrderEffect _ _ _ (w.state.setCapacity w.now id capacity).state
      have hstep := hm.capacityStep w.now id capacity
      generalize w.state.setCapacity w.now id capacity = reply at hstep
      cases hstep with
      | changed ho hcheck => exact .resized ho hcheck
      | _ => exact .nothing
  | setStatus id status =>
      show OrderEffect _ _ _ (w.state.setStatus w.now id status).state
      have hstep := statusStep w.state w.now id status
      generalize w.state.setStatus w.now id status = reply at hstep
      cases hstep with
      | changed ho => exact .moved ho
      | _ => exact .nothing

/-- **Everything the first step of an order can do** in a sound ledger. -/
theorem Sound.begunEffect {w : World Memory} (hm : w.state.Sound) (order : Order) :
    OrderEffect w.state w.now order (order.begun w).state := by
  cases order with
  | add o => exact .nothing
  | _ => exact hm.orderEffect _

/-! ## Frames -/

/-- A request changes no counter but the one it is about, and no lock. -/
theorem RequestEffect.frame {r : Request} {x : r.Answer} (h : RequestEffect m now r x m')
    (hm : m.Sound) (hne : r.changes? ≠ some id) :
    m'.offerings.get? id = m.offerings.get? id ∧ m'.held = m.held := by
  cases h with
  | took ho _ _ => exact ⟨hm.get?_put_of_ne ho rfl fun hid => hne (congrArg some hid.symm), rfl⟩
  | freed ho _ => exact ⟨hm.get?_put_of_ne ho rfl fun hid => hne (congrArg some hid.symm), rfl⟩
  | _ => exact ⟨rfl, rfl⟩

/-- An order changes no offering but the one it is about, and no lock. -/
theorem OrderEffect.frame {order : Order} (h : OrderEffect m now order m') (hm : m.Sound)
    (hne : order.target ≠ id) :
    m'.offerings.get? id = m.offerings.get? id ∧ m'.held = m.held := by
  cases h with
  | nothing => exact ⟨rfl, rfl⟩
  | @added o _ _ =>
      have hother : id ≠ o.id := Ne.symm hne
      exact ⟨by rw [get?_put, if_neg hother], rfl⟩
  | resized ho _ => exact ⟨hm.get?_put_of_ne ho rfl (Ne.symm hne), rfl⟩
  | moved ho => exact ⟨hm.get?_put_of_ne ho rfl (Ne.symm hne), rfl⟩

theorem OrderEffect.records {order : Order} (h : OrderEffect m now order m') :
    m'.records = m.records := by
  cases h <;> rfl

/-- A write changes no offering but the one that is written. -/
theorem get?_write {w : World Memory} {o : Tested} (hne : o.val.id ≠ id) :
    (o.write w).state.offerings.get? id = w.state.offerings.get? id := by
  show (w.state.put o.val).offerings.get? id = _
  rw [get?_put, if_neg (Ne.symm hne)]

/-- An order that adds no offering changes no counter. -/
theorem OrderEffect.bookings {order : Order} (h : OrderEffect m now order m') (hm : m.Sound)
    (hadd : ∀ o, order ≠ .add o) (ho : m'.offerings.get? id = some o) :
    ∃ o', m.offerings.get? id = some o' ∧ o.bookings = o'.bookings := by
  cases h with
  | nothing => exact ⟨o, ho, rfl⟩
  | added _ _ => exact absurd rfl (hadd _)
  | resized ho' _ =>
      rcases hm.of_get?_put ho' ho rfl with ⟨rfl, rfl⟩ | ⟨_, ho⟩
      · exact ⟨_, ho', rfl⟩
      · exact ⟨o, ho, rfl⟩
  | moved ho' =>
      rcases hm.of_get?_put ho' ho rfl with ⟨rfl, rfl⟩ | ⟨_, ho⟩
      · exact ⟨_, ho', rfl⟩
      · exact ⟨o, ho, rfl⟩

theorem OrderEffect.held {order : Order} (h : OrderEffect m now order m') : m'.held = m.held := by
  cases h <;> rfl

theorem RequestEffect.held {r : Request} {x : r.Answer} (h : RequestEffect m now r x m') :
    m'.held = m.held := by
  cases h <;> rfl

/-- Taking a spot raises one counter. -/
theorem Sound.bookings_put_taken (hm : m.Sound) {id' : OfferingId} {o' : Offering}
    (ho' : m.offerings.get? id' = some o') (hfree : o'.isFull = false)
    (ho : (m.put (o'.taken now)).offerings.get? id = some o) :
    ∃ o₁, m.offerings.get? id = some o₁ ∧
      o.bookings.toInt = o₁.bookings.toInt + if id' = id then 1 else 0 := by
  have hadd := Offering.toInt_bookings_add_one hfree
  rcases hm.of_get?_put ho' ho rfl with ⟨rfl, rfl⟩ | ⟨hne, ho⟩
  · exact ⟨o', ho', by rw [if_pos rfl]; exact hadd⟩
  · exact ⟨o, ho, by rw [if_neg (Ne.symm hne), Int.add_zero]⟩

/-- Freeing a spot lowers one counter. -/
theorem Sound.bookings_put_vacated (hm : m.Sound) {id' : OfferingId} {o' : Offering}
    (ho' : m.offerings.get? id' = some o') (hbooked : 0 < o'.bookings.toInt)
    (ho : (m.put (o'.vacated now)).offerings.get? id = some o) :
    ∃ o₁, m.offerings.get? id = some o₁ ∧
      o.bookings.toInt = o₁.bookings.toInt - if id' = id then 1 else 0 := by
  have hsub := Offering.toInt_bookings_sub_one hbooked
  rcases hm.of_get?_put ho' ho rfl with ⟨rfl, rfl⟩ | ⟨hne, ho⟩
  · exact ⟨o', ho', by rw [if_pos rfl]; exact hsub⟩
  · exact ⟨o, ho, by rw [if_neg (Ne.symm hne), Int.sub_zero]⟩

/-- A request adds no offering. -/
theorem RequestEffect.stored_before {r : Request} {x : r.Answer} (h : RequestEffect m now r x m')
    (hm : m.Sound) (ho : m'.offerings.get? id = some o) : ∃ o', m.offerings.get? id = some o' := by
  cases h with
  | took ho' _ _ =>
      rcases hm.of_get?_put ho' ho rfl with ⟨rfl, _⟩ | ⟨_, ho⟩
      · exact ⟨_, ho'⟩
      · exact ⟨o, ho⟩
  | freed ho' _ =>
      rcases hm.of_get?_put ho' ho rfl with ⟨rfl, _⟩ | ⟨_, ho⟩
      · exact ⟨_, ho'⟩
      · exact ⟨o, ho⟩
  | _ => exact ⟨o, ho⟩

/-! ## Soundness -/

theorem RequestEffect.sound {r : Request} {x : r.Answer}
    (h : RequestEffect m now r x m') (hm : m.Sound) : m'.Sound := by
  cases h with
  | took ho _ hfree => exact hm.put ((hm _ _ ho).2.taken hfree)
  | freed ho hbooked => exact hm.put ((hm _ _ ho).2.vacated hbooked)
  | _ => exact hm

theorem OrderEffect.sound {order : Order} (h : OrderEffect m now order m')
    (hm : m.Sound) : m'.Sound := by
  cases h with
  | nothing => exact hm
  | added _ ho => exact hm.put ho
  | resized ho hcheck => exact hm.put (Offering.withinCapacity_of_checkCapacity (hm _ _ ho).2 hcheck)
  | moved ho => exact hm.put (hm _ _ ho).2

theorem Sound.write {w : World Memory} (hm : w.state.Sound) (o : Tested) : (o.write w).state.Sound :=
  hm.put (Offering.checkInvariant_eq_ok_iff.mp o.property)

end Memory

/-- **One move** keeps a ledger sound. -/
theorem Traffic.sound_step {d : Desk} {t : Traffic} (hm : t.world.state.Sound) (mv : Move) :
    (t.step d mv).world.state.Sound :=
  world_step (I := fun w => w.state.Sound) hm (fun o _ => (hm.begunEffect o).sound hm)
    (fun o _ _ => hm.write o) (fun _ fault _ r _ _ _ => (hm.requestEffect fault r).sound hm) (fun _ _ => hm)
    fun _ _ => hm

/-- The first step of an order changes no counter. -/
theorem Memory.Sound.bookings_begun {w : World Memory} (hm : w.state.Sound) {order : Order} {id : OfferingId}
    {o : Offering} (ho : (order.begun w).state.offerings.get? id = some o) :
    ∃ o', w.state.offerings.get? id = some o' ∧ o.bookings = o'.bookings := by
  have heffect := hm.begunEffect order
  cases order with
  | add o' => exact ⟨o, ho, rfl⟩
  | _ => exact heffect.bookings hm (fun _ hadd => nomatch hadd) ho

/-- What is stored after a move that writes no offering under the id was stored before. -/
theorem Traffic.stored_before {d : Desk} {t : Traffic} {id : OfferingId} {mv : Move} {o : Offering}
    (hm : t.world.state.Sound) (hwrite : ∀ p ∈ t.pending, mv = .write p → p.val.id ≠ id)
    (ho : (t.step d mv).world.state.offerings.get? id = some o) :
    ∃ o', t.world.state.offerings.get? id = some o' := by
  revert o
  refine world_step (I := fun w => ∀ {o}, w.state.offerings.get? id = some o →
    ∃ o', t.world.state.offerings.get? id = some o') (fun ho => ⟨_, ho⟩) ?_ ?_ ?_
    (fun _ _ _ ho => ⟨_, ho⟩) fun _ _ _ ho => ⟨_, ho⟩
  · intro order _ o ho
    obtain ⟨o', ho', -⟩ := hm.bookings_begun ho
    exact ⟨o', ho'⟩
  · intro p hp hmv o ho
    exact ⟨o, Memory.get?_write (hwrite p hp hmv) ▸ ho⟩
  · intro i fault c r next _ _ o ho
    exact (hm.requestEffect fault r).stored_before hm ho

/-- Serving a caller takes no lock and gives none back. -/
theorem Traffic.held_serve {d : Desk} {t : Traffic} (hm : t.world.state.Sound) (i : Nat)
    (fault : Option Failure) : (t.step d (.serve i fault)).world.state.held = t.world.state.held := by
  refine world_step (I := fun w => w.state.held = t.world.state.held) rfl (fun _ h => nomatch h)
    (fun _ _ h => nomatch h) ?_ (fun _ h => nomatch h) fun _ h => nomatch h
  exact fun _ fault _ r _ _ _ => (hm.requestEffect fault r).held

/-- Some run since a ledger was opened without offerings leads to a world. -/
def World.Reachable (w : World Memory) : Prop :=
  ∃ (d : Desk) (lockTimeout : Nat) (records : Table String Booking) (registry : Registry)
    (generator : Generator) (start : Timestamp) (moves : List Move),
    w = ((Traffic.opening lockTimeout records registry generator start).run d moves).world

theorem World.Reachable.sound {w : World Memory} (h : w.Reachable) : w.state.Sound := by
  obtain ⟨d, lockTimeout, records, registry, generator, start, moves, rfl⟩ := h
  exact Traffic.run_always (I := fun t => t.world.state.Sound) (fun _ mv hm => Traffic.sound_step hm mv)
    (Memory.sound_empty lockTimeout records) moves

/-! ## Answers -/

namespace Traffic

variable {fault : Option Failure} {id : OfferingId}

/-- What a look-up shows is what is stored. -/
theorem stored_of_found {w : World Memory} (hm : w.state.Sound) {o : Offering}
    (h : (respond fault (.find id) w).1 = .ok (some o)) : w.state.offerings.get? id = some o := by
  have heffect := hm.requestEffect fault (.find id)
  rw [h] at heffect
  generalize (respond fault (.find id) w).2.state = m' at heffect
  cases heffect with
  | nothing hx => exact hx.elim
  | looked ho => exact ho

/-- A spot is only given of an offering that is open and has one. -/
theorem open_of_reserved {w : World Memory} (hm : w.state.Sound) {o' : Offering}
    (h : (respond fault (.reserve id) w).1 = .ok (.reserved o')) :
    ∃ o, w.state.offerings.get? id = some o ∧ o.status = .published ∧ o.isFull = false := by
  have heffect := hm.requestEffect fault (.reserve id)
  rw [h] at heffect
  generalize (respond fault (.reserve id) w).2.state = m' at heffect
  cases heffect with
  | nothing hx => exact hx.elim
  | took ho hstatus hfree => exact ⟨_, ho, hstatus, hfree⟩

/-- Where no lock is held, no attempt to free a spot fails. -/
theorem release_ne_error {w : World Memory} (hm : w.state.Sound) (hheld : w.state.held = []) (e : Failure) :
    (respond none (.release id) w).1 ≠ .error e := by
  show (w.state.release w.now id).answer ≠ .error e
  have hstep := hm.releaseStep w.now id
  generalize w.state.release w.now id = reply at hstep
  cases hstep with
  | locked _ hlocked => rw [hheld] at hlocked; cases hlocked
  | _ => nofun

end Traffic

end DiveSchool
