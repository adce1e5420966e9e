import DiveSchool.Proofs.Protocol
import DiveSchool.Ledger.Memory

/-!
# `DiveSchool.Proofs.Traffic` — many callers at one desk

Any number of clients use one desk and one ledger in memory at the same time. Each request of an
operation is served in one indivisible step; between two steps of a call anything else may happen: steps
of other calls, changes of the catalogue, locks taken and given back by others, the passing of time. A
`Move` is one such event, and a run is a list of them, so a statement about every list of moves is one
about every interleaving of any number of calls. An offering is added in two moves, a test and a write:
between them others may act, and may add another offering under the same id.

## Contents
- **Calls.** `Call`, what is asked of the desk, its procedure, and `Ending`, what it comes to.
- **Callers.** `Caller`, a call under way with the trail of what it asked and heard.
- **Orders.** `Order`, `Tested`, an offering that is yet to be written, and the first step of an order.
- **Moves.** `Move`, `respond`, `Traffic.step`, `Traffic.run`; `world_add_write`, test and write at once.
- **Turns.** `Traffic.Turn`: who is about to ask what; the step lemmas.
- **Runs.** `Traffic.Along` and the induction over a run.
- **Charters.** A protocol for every call, kept by every caller of a run (`Charter.keptBy_step`).
- **Tallies.** `Charter.tally`: how many callers have got how far.
- **One spot.** A small catalogue and a plain desk, for runs that can be followed by hand.
-/

namespace DiveSchool

/-! ## Calls -/

/-- What a client asks of the desk. -/
inductive Call where
  | book (now : Timestamp) (id : OfferingId) (holder : Holder)
  | bookRecorded (now : Timestamp) (id : OfferingId) (holder : Holder)
  | release (id : OfferingId)
  | cancel (reference : String)
  | cancelRecorded (reference : String)
  | availability (id : OfferingId)
  deriving DecidableEq, Repr

/-- What a call comes to. -/
inductive Ending where
  | booked (outcome : Except BookingError Booking)
  | freed (outcome : Except ReleaseError Snapshot)
  | shown (outcome : Except Failure Snapshot)

/-- The counter that an ending shows to the client. -/
def Ending.snapshot? : Ending → Option Snapshot
  | freed (.ok s) | shown (.ok s) => some s
  | _ => none

namespace Call

/-- The steps of a call. -/
def procedure (d : Desk) : Call → Procedure Ending
  | book now id holder => do return .booked (← d.book now id holder)
  | bookRecorded now id holder => do return .booked (← d.bookRecorded now id holder)
  | release id => do return .freed (← Desk.release id)
  | cancel reference => do return .freed (← Desk.cancel reference)
  | cancelRecorded reference => do return .freed (← Desk.cancelRecorded reference)
  | availability id => do return .shown (← Desk.availability id)

/-- The one who wants to book. -/
def holder? : Call → Option Holder
  | book _ _ holder | bookRecorded _ _ holder => some holder
  | _ => none

end Call

/-! ## Callers -/

/-- A request and the answer to it. -/
structure Exchange where
  request : Request
  answer : request.Answer

/-- A call under way. -/
structure Caller where
  call : Call
  /-- What was asked and answered so far, oldest first. -/
  trail : List Exchange
  /-- What is left to do. -/
  rest : Procedure Ending

namespace Caller

/-- A call not yet begun. -/
def fresh (d : Desk) (c : Call) : Caller := ⟨c, [], c.procedure d⟩

/-- A call after one more answer. -/
def answered (c : Caller) (r : Request) (x : r.Answer) (rest : Procedure Ending) : Caller :=
  ⟨c.call, c.trail ++ [⟨r, x⟩], rest⟩

@[simp] theorem call_answered (c : Caller) (r : Request) (x : r.Answer) (rest : Procedure Ending) :
    (c.answered r x rest).call = c.call := rfl

/-- What the call came to, once nothing is left to do. -/
def ending? (c : Caller) : Option Ending :=
  match c.rest with
  | .done e => some e
  | .step _ _ => none

end Caller

/-! ## Orders -/

/-- A change of the catalogue. -/
inductive Order where
  | add (o : Offering)
  | setCapacity (id : OfferingId) (capacity : Int32)
  | setStatus (id : OfferingId) (status : Status)

namespace Order

/-- The offering an order is about. -/
def target : Order → OfferingId
  | add o => o.id
  | setCapacity id _ | setStatus id _ => id

/-- Carry an order out from beginning to end. -/
def apply (w : World Memory) : Order → World Memory
  | add o => w.afterReply (w.state.insert o)
  | setCapacity id capacity => w.afterReply (w.state.setCapacity w.now id capacity)
  | setStatus id status => w.afterReply (w.state.setStatus w.now id status)

@[simp] theorem registry_apply (w : World Memory) (o : Order) : (o.apply w).registry = w.registry := by
  cases o <;> rfl

@[simp] theorem generator_apply (w : World Memory) (o : Order) : (o.apply w).generator = w.generator := by
  cases o <;> rfl

end Order

namespace Memory

variable {m : Memory} {o : Offering}

/-- A test is passed by an offering in good form whose id is free, and by no other. -/
theorem checkNew_eq_ok_iff :
    m.checkNew o = .ok () ↔ o.checkInvariant = .ok () ∧ m.offerings.get? o.id = none := by
  unfold checkNew
  cases o.checkInvariant with
  | error e => simp
  | ok _ => cases hstored : m.offerings.get? o.id <;> simp [Table.contains, hstored]

end Memory

/-- An offering in good form, as one is that has been tested and is to be written. -/
abbrev Tested := { o : Offering // o.checkInvariant = .ok () }

/-- Write an offering that was tested. -/
def Tested.write (o : Tested) (w : World Memory) : World Memory := w.afterReply (w.state.writeNew o.val)

namespace Order

/-- The world after the first step of an order. An addition only tests its offering in it; the other orders
    are carried out. -/
def begun (w : World Memory) : Order → World Memory
  | add _ => w
  | order => order.apply w

/-- The offering that an order has tested in its first step and is yet to write. -/
def tested? (m : Memory) : Order → Option Tested
  | add o =>
    match h : m.checkNew o with
    | .ok () => some ⟨o, (Memory.checkNew_eq_ok_iff.mp h).1⟩
    | .error _ => none
  | _ => none

@[simp] theorem registry_begun (w : World Memory) (o : Order) : (o.begun w).registry = w.registry := by
  cases o <;> rfl

/-- What is yet to be written after an order is what the order was about, if its id is free. -/
theorem tested?_eq_some_iff {m : Memory} {order : Order} {o : Tested} :
    order.tested? m = some o ↔ order = .add o.val ∧ m.offerings.get? o.val.id = none := by
  constructor
  · intro h
    cases order with
    | add o' =>
        simp only [tested?] at h
        split at h
        · next hcheck =>
            cases h
            exact ⟨rfl, (Memory.checkNew_eq_ok_iff.mp hcheck).2⟩
        · cases h
    | _ => cases h
  · rintro ⟨rfl, hfree⟩
    simp only [tested?]
    split
    · rfl
    · next e he => cases he.symm.trans (Memory.checkNew_eq_ok_iff.mpr ⟨o.property, hfree⟩)

theorem tested?_add_eq_none {m : Memory} {o : Offering} {e : Failure} (h : m.checkNew o = .error e) :
    (add o).tested? m = none := by
  simp only [tested?]
  split
  · next he => cases he.symm.trans h
  · rfl

end Order

/-! ## Moves -/

/-- One event among those that happen at the same time. -/
inductive Move where
  /-- The first step of a change of the catalogue; the only one, unless an offering is added. -/
  | order (o : Order)
  /-- An offering that has been tested is written. -/
  | write (o : Tested)
  /-- A client makes a call. -/
  | call (c : Call)
  /-- The next request of a caller is served, or fails without effect. -/
  | serve (caller : Nat) (fault : Option Failure)
  /-- Others hold these locks from now on. -/
  | lock (held : List OfferingId)
  /-- The present moment is another one. -/
  | clock (now : Timestamp)

/-- The moves that add an offering with nothing in between. -/
def Tested.adding (o : Tested) : List Move := [.order (.add o.val), .write o]

/-- The answer to a request that fails, if it is one that can fail. -/
def Request.failed? (f : Failure) : (r : Request) → Option r.Answer
  | find _ | reserve _ | release _ | store _ | remove _ => some (.error f)
  | _ => none

/-- The answer to a request and the world after it: a fault comes in place of the ledger. -/
def respond (fault : Option Failure) (r : Request) (w : World Memory) : r.Answer × World Memory :=
  match fault.bind r.failed? with
  | some x => (x, w)
  | none => Memory.ledger.serve r w

/-- A world, the calls under way in it, and the offerings that are yet to be written. -/
structure Traffic where
  world : World Memory
  callers : List Caller
  pending : List Tested

namespace Traffic

/-- One move. -/
def step (d : Desk) (t : Traffic) : Move → Traffic
  | .order o =>
    { t with world := o.begun t.world, pending := t.pending ++ (o.tested? t.world.state).toList }
  | .write o =>
    if o ∈ t.pending then { t with world := o.write t.world, pending := t.pending.erase o } else t
  | .call c => { t with callers := t.callers ++ [.fresh d c] }
  | .serve i fault =>
    match t.callers[i]? with
    | some ⟨c, trail, .step r next⟩ =>
      ⟨(respond fault r t.world).2,
        t.callers.set i (Caller.answered ⟨c, trail, .step r next⟩ r (respond fault r t.world).1
          (next (respond fault r t.world).1)), t.pending⟩
    | _ => t
  | .lock held => { t with world := { t.world with state := { t.world.state with held } } }
  | .clock now => { t with world := { t.world with now } }

/-- Moves one after another. -/
def run (d : Desk) (t : Traffic) (moves : List Move) : Traffic := moves.foldl (step d) t

/-- A world without offerings and callers; whatever else is in it does not matter. -/
def opening (lockTimeout : Nat) (records : Table String Booking) (registry : Registry)
    (generator : Generator) (now : Timestamp) : Traffic :=
  { world :=
      { state := { Memory.empty lockTimeout with records }, registry, generator, now, log := [] }
    callers := []
    pending := [] }

/-- **Test and write at once** are the addition as the ledger knows it, from beginning to end. -/
theorem world_add_write (d : Desk) {t : Traffic} {o : Tested}
    (h : t.world.state.checkNew o.val = .ok ()) :
    (t.run d o.adding).world = Order.apply t.world (.add o.val) := by
  have htested : (Order.add o.val).tested? t.world.state = some o :=
    Order.tested?_eq_some_iff.mpr ⟨rfl, (Memory.checkNew_eq_ok_iff.mp h).2⟩
  have hmem : o ∈ t.pending ++ [o] := List.mem_append_right _ (List.mem_singleton.mpr rfl)
  simp only [run, Tested.adding, List.foldl_cons, List.foldl_nil, step, htested, Option.toList_some, hmem, if_true,
    Order.begun, Order.apply, Memory.insert, h, Tested.write]

/-- An addition that is refused leaves nothing to write, as the ledger knows it. -/
theorem step_add_of_error (d : Desk) {t : Traffic} {o : Offering} {e : Failure}
    (h : t.world.state.checkNew o = .error e) :
    t.step d (.order (.add o)) = t ∧ (Order.apply t.world (.add o)).state = t.world.state := by
  simp only [step, Order.tested?_add_eq_none h, Option.toList_none, List.append_nil, Order.begun,
    Order.apply, Memory.insert, h, World.afterReply, and_self]

/-! ## Turns -/

/-- A caller is about to make a request. -/
structure Turn (t : Traffic) (i : Nat) (c : Caller) (r : Request)
    (next : r.Answer → Procedure Ending) : Prop where
  here : t.callers[i]? = some c
  asks : c.rest = .step r next

variable {d : Desk} {t : Traffic} {i : Nat} {fault : Option Failure}

theorem Turn.mem {c : Caller} {r : Request} {next : r.Answer → Procedure Ending}
    (h : t.Turn i c r next) : c ∈ t.callers := List.mem_of_getElem? h.here

/-- A step of a caller whose turn it is. -/
theorem step_serve {c : Caller} {r : Request} {next : r.Answer → Procedure Ending}
    (h : t.Turn i c r next) :
    t.step d (.serve i fault) = ⟨(respond fault r t.world).2,
      t.callers.set i (c.answered r (respond fault r t.world).1
        (next (respond fault r t.world).1)), t.pending⟩ := by
  obtain ⟨call, trail, rest⟩ := c
  obtain ⟨hi, hrest⟩ := h
  simp only at hrest
  subst hrest
  simp only [step, hi]

/-- A caller that is done, or not there, has no turn, and then nothing happens. -/
theorem turn_or_idle (d : Desk) (t : Traffic) (i : Nat) (fault : Option Failure) :
    (∃ c r next, t.Turn i c r next) ∨ t.step d (.serve i fault) = t := by
  by_cases hturn : ∃ c r next, t.Turn i c r next
  · exact Or.inl hturn
  · right
    simp only [step]
    split
    · next c trail r next hi => exact absurd ⟨_, r, next, hi, rfl⟩ hturn
    · rfl

/-- A request has no effect on what is yet to be written. -/
theorem pending_serve (d : Desk) (t : Traffic) (i : Nat) (fault : Option Failure) :
    (t.step d (.serve i fault)).pending = t.pending := by
  rcases turn_or_idle d t i fault with ⟨c, r, next, hturn⟩ | hidle
  · rw [step_serve hturn]
  · rw [hidle]

/-- What is yet to be written after a move was so before it, or has been tested by it. -/
theorem mem_pending_step {mv : Move} {p : Tested} (h : p ∈ (t.step d mv).pending) :
    p ∈ t.pending ∨ ∃ order, mv = .order order ∧ order.tested? t.world.state = some p := by
  cases mv with
  | order order =>
      rcases List.mem_append.mp h with h | h
      · exact Or.inl h
      · exact Or.inr ⟨order, rfl, Option.mem_toList.mp h⟩
  | write q =>
      simp only [step] at h
      split at h
      · exact Or.inl (List.mem_of_mem_erase h)
      · exact Or.inl h
  | serve i fault => exact Or.inl (pending_serve d t i fault ▸ h)
  | _ => exact Or.inl h

/-- The ledger answers, or a fault comes in its place and changes nothing. -/
theorem respond_cases (fault : Option Failure) (r : Request) (w : World Memory) :
    (∃ f x, r.failed? f = some x ∧ respond fault r w = (x, w)) ∨
      respond fault r w = Memory.ledger.serve r w := by
  unfold respond
  cases h : fault.bind r.failed? with
  | none => exact Or.inr rfl
  | some x =>
      obtain ⟨f, _, hx⟩ := Option.bind_eq_some_iff.mp h
      exact Or.inl ⟨f, x, hx, rfl⟩

/-! ## Runs -/

/-- A condition on the moves of a run, each with the state it is made in. -/
def Along (d : Desk) (A : Traffic → Move → Prop) : Traffic → List Move → Prop
  | _, [] => True
  | t, mv :: moves => A t mv ∧ Along d A (t.step d mv) moves

/-- **What every move keeps, a run keeps.** The moves may be restricted by a condition on the run. -/
theorem run_induction {I : Traffic → Prop} {A : Traffic → Move → Prop}
    (hstep : ∀ t mv, I t → A t mv → I (t.step d mv)) {moves : List Move} (h : I t)
    (hA : Along d A t moves) : I (t.run d moves) := by
  induction moves generalizing t with
  | nil => exact h
  | cons mv moves ih => exact ih (hstep t mv h hA.1) hA.2

theorem along_of_forall {A : Traffic → Move → Prop} {moves : List Move}
    (h : ∀ mv ∈ moves, ∀ t, A t mv) : Along d A t moves := by
  induction moves generalizing t with
  | nil => exact trivial
  | cons mv moves ih =>
      exact ⟨h mv List.mem_cons_self t, ih fun mv hmv => h mv (List.mem_cons_of_mem _ hmv)⟩

/-- What every move keeps whatever it is, every run keeps. -/
theorem run_always {I : Traffic → Prop} (hstep : ∀ t mv, I t → I (t.step d mv)) (h : I t)
    (moves : List Move) : I (t.run d moves) :=
  run_induction (A := fun _ _ => True) (fun t mv h _ => hstep t mv h) h
    (along_of_forall fun _ _ _ => trivial)

/-- A write has no effect on the calls under way. -/
theorem callers_write (d : Desk) (t : Traffic) (o : Tested) : (t.step d (.write o)).callers = t.callers := by
  simp only [step]
  split <;> rfl

theorem records_write (d : Desk) (t : Traffic) (o : Tested) :
    (t.step d (.write o)).world.state.records = t.world.state.records := by
  simp only [step]
  split <;> rfl

/-- Callers after a move: those that were there, the one that took a step, the one that came. -/
theorem mem_callers_step {mv : Move} {c' : Caller} (h : c' ∈ (t.step d mv).callers) :
    c' ∈ t.callers ∨ (∃ c, mv = .call c ∧ c' = .fresh d c) ∨
      ∃ i fault c r next, mv = .serve i fault ∧ t.Turn i c r next ∧
        c' = c.answered r (respond fault r t.world).1 (next (respond fault r t.world).1) := by
  cases mv with
  | order o => exact Or.inl h
  | write o => exact Or.inl (callers_write d t o ▸ h)
  | lock held => exact Or.inl h
  | clock now => exact Or.inl h
  | call c =>
      rcases List.mem_append.mp h with h | h
      · exact Or.inl h
      · exact Or.inr (Or.inl ⟨c, rfl, List.mem_singleton.mp h⟩)
  | serve i fault =>
      rcases turn_or_idle d t i fault with ⟨c, r, next, hturn⟩ | hidle
      · rw [step_serve hturn] at h
        rcases List.mem_or_eq_of_mem_set h with h | h
        · exact Or.inl h
        · exact Or.inr (Or.inr ⟨i, fault, c, r, next, rfl, hturn, h⟩)
      · rw [hidle] at h
        exact Or.inl h

/-- The world after a move is as it was or what the move made of it. -/
theorem world_step {I : World Memory → Prop} {mv : Move} (h : I t.world)
    (horder : ∀ o, mv = .order o → I (o.begun t.world))
    (hwrite : ∀ o ∈ t.pending, mv = .write o → I (o.write t.world))
    (hserve : ∀ i fault c r next, mv = .serve i fault → t.Turn i c r next →
      I (respond fault r t.world).2)
    (hlock : ∀ held, mv = .lock held → I { t.world with state := { t.world.state with held } })
    (hclock : ∀ now, mv = .clock now → I { t.world with now }) : I (t.step d mv).world := by
  cases mv with
  | order o => exact horder o rfl
  | write o =>
      simp only [step]
      split
      · next hmem => exact hwrite o hmem rfl
      · exact h
  | call c => exact h
  | serve i fault =>
      rcases turn_or_idle d t i fault with ⟨c, r, next, hturn⟩ | hidle
      · rw [step_serve hturn]
        exact hserve i fault c r next rfl hturn
      · rw [hidle]
        exact h
  | lock held => exact hlock held rfl
  | clock now => exact hclock now rfl

end Traffic

/-! ## Charters -/

/-- The state that a protocol has reached after a trail. -/
def Protocol.after {S : Type} (P : Protocol S) (trail : List Exchange) : S :=
  trail.foldl (fun s e => P.next s e.request e.answer) P.start

/-- A protocol for every call, and how the call may end. -/
structure Charter (S : Type) where
  protocol : Call → Protocol S
  ends : Call → S → Ending → Prop

namespace Charter

variable {S : Type} {C : Charter S} {d : Desk} {t : Traffic}

/-- The state of a caller, read off its trail. -/
def stateOf (C : Charter S) (c : Caller) : S := (C.protocol c.call).after c.trail

/-- The steps of a call keep to the charter. -/
def Grants (C : Charter S) (d : Desk) (c : Call) : Prop :=
  (c.procedure d).Follows (C.protocol c) (C.ends c) (C.protocol c).start

/-- What is left of a call keeps to the charter. -/
def KeptBy (C : Charter S) (c : Caller) : Prop :=
  c.rest.Follows (C.protocol c.call) (C.ends c.call) (C.stateOf c)

@[simp] theorem stateOf_answered (c : Caller) (r : Request) (x : r.Answer) (rest : Procedure Ending) :
    C.stateOf (c.answered r x rest) = (C.protocol c.call).next (C.stateOf c) r x := by
  simp [stateOf, Protocol.after, Caller.answered]

theorem KeptBy.may {i : Nat} {c : Caller} {r : Request} {next : r.Answer → Procedure Ending}
    (h : C.KeptBy c) (hturn : t.Turn i c r next) : (C.protocol c.call).may (C.stateOf c) r := by
  unfold KeptBy at h
  rw [hturn.asks] at h
  exact h.1

theorem KeptBy.ends {c : Caller} {e : Ending} (h : C.KeptBy c) (he : c.ending? = some e) :
    C.ends c.call (C.stateOf c) e := by
  obtain ⟨call, trail, rest⟩ := c
  cases rest with
  | done e' => exact Option.some.inj he ▸ h
  | step r next => simp [Caller.ending?] at he

/-- **A charter is kept by every caller**, as long as new calls keep it and answers are those that it
    reckons with. -/
theorem keptBy_step {mv : Move} (h : ∀ c ∈ t.callers, C.KeptBy c)
    (hcall : ∀ c, mv = .call c → C.Grants d c)
    (hheard : ∀ i fault c r next, mv = .serve i fault → t.Turn i c r next →
      (C.protocol c.call).heard (C.stateOf c) r (respond fault r t.world).1) :
    ∀ c ∈ (t.step d mv).callers, C.KeptBy c := by
  intro c' hc'
  rcases Traffic.mem_callers_step hc' with hold | ⟨c, hmv, rfl⟩ | ⟨i, fault, c, r, next, hmv, hturn, rfl⟩
  · exact h c' hold
  · exact hcall c hmv
  · -- what is left of this caller is what its procedure goes on with after the answer
    have hc := h c hturn.mem
    unfold KeptBy at hc ⊢
    rw [hturn.asks] at hc
    rw [stateOf_answered]
    exact hc.2 _ (hheard i fault c r next hmv hturn)

/-! ## Tallies -/

variable {p : Call → S → Bool} {callers : List Caller}

/-- How many callers are in a state of some sort. -/
def tally (C : Charter S) (p : Call → S → Bool) (callers : List Caller) : Nat :=
  callers.countP fun c => p c.call (C.stateOf c)

theorem tally_call (C : Charter S) (d : Desk) (c : Call) : C.tally p (callers ++ [.fresh d c]) =
    C.tally p callers + if p c (C.protocol c).start then 1 else 0 := by
  rw [tally, List.countP_append, List.countP_singleton]
  rfl

/-- Serving a caller takes it out of the tally it was in and puts it into the one it is in now. -/
theorem tally_serve (C : Charter S) {i : Nat} {c : Caller} {r : Request}
    {next : r.Answer → Procedure Ending} (hturn : t.Turn i c r next) (fault : Option Failure) :
    C.tally p (t.step d (.serve i fault)).callers + (if p c.call (C.stateOf c) then 1 else 0) =
      C.tally p t.callers +
        if p c.call ((C.protocol c.call).next (C.stateOf c) r (respond fault r t.world).1) then 1
        else 0 := by
  obtain ⟨hi, hget⟩ := List.getElem?_eq_some_iff.mp hturn.here
  have hle := List.boole_getElem_le_countP (p := fun c => p c.call (C.stateOf c)) (i := i) hi
  -- the caller counts as it was before and as it is after, everybody else twice the same
  rw [Traffic.step_serve hturn, tally, tally, List.countP_set hi]
  simp only [hget, stateOf_answered, Caller.call_answered] at hle ⊢
  omega

section Serve

variable {i : Nat} {fault : Option Failure} {c : Caller} {r : Request}
  {next : r.Answer → Procedure Ending}

theorem tally_stay (hturn : t.Turn i c r next)
    (h : p c.call ((C.protocol c.call).next (C.stateOf c) r (respond fault r t.world).1) =
      p c.call (C.stateOf c)) :
    C.tally p (t.step d (.serve i fault)).callers = C.tally p t.callers := by
  have htally := C.tally_serve (d := d) (p := p) hturn fault
  rw [h] at htally
  exact Nat.add_right_cancel htally

theorem tally_enter (hturn : t.Turn i c r next) (hout : p c.call (C.stateOf c) = false)
    (hin : p c.call ((C.protocol c.call).next (C.stateOf c) r (respond fault r t.world).1) = true) :
    C.tally p (t.step d (.serve i fault)).callers = C.tally p t.callers + 1 := by
  simpa [hout, hin] using C.tally_serve (d := d) (p := p) hturn fault

end Serve

/-- A move leaves a tally alone if new calls are not in it and the caller that is served stays in or out. -/
theorem tally_step {mv : Move} (hstart : ∀ c, p c (C.protocol c).start = false)
    (hserve : ∀ i fault c r next, mv = .serve i fault → t.Turn i c r next →
      p c.call ((C.protocol c.call).next (C.stateOf c) r (respond fault r t.world).1) =
        p c.call (C.stateOf c)) :
    C.tally p (t.step d mv).callers = C.tally p t.callers := by
  cases mv with
  | call c =>
      show C.tally p (t.callers ++ [.fresh d c]) = _
      rw [tally_call, hstart]
      rfl
  | serve i fault =>
      rcases Traffic.turn_or_idle d t i fault with ⟨c, r, next, hturn⟩ | hidle
      · exact tally_stay hturn (hserve i fault c r next rfl hturn)
      · rw [hidle]
  | write o => rw [Traffic.callers_write]
  | _ => rfl

end Charter

/-! ## One spot -/

namespace OneSpot

/-- A trip with one spot. -/
def trip (bookings : Int32) : Offering :=
  { Offering.trip ⟨1⟩ default "Reef" 1 none with bookings }

/-- A desk that issues references without looking whether they are in use. -/
def desk : Desk := ⟨.ordinal, ⟨false, 1⟩⟩

/-- A booking of the trip. -/
def booking : Call := .book default ⟨1⟩ default

/-- The first two callers take turns. -/
def turns (n : Nat) : List Move := (List.replicate n [.serve 0 none, .serve 1 none]).flatten

theorem mem_turns {n : Nat} {mv : Move} (h : mv ∈ turns n) : ∃ i, mv = .serve i none := by
  simp only [turns, List.mem_flatten, List.mem_replicate] at h
  obtain ⟨_, ⟨_, rfl⟩, h⟩ := h
  simp only [List.mem_cons, List.not_mem_nil, or_false] at h
  rcases h with rfl | rfl <;> exact ⟨_, rfl⟩

end OneSpot

end DiveSchool
