import DiveSchool.Proofs.Holding

/-!
# `DiveSchool.Proofs.Restoration` — what a failed cancellation puts back

A cancellation takes the reference out before it frees the spot, and puts it back if that fails. Between the
two the reference is free for anyone: a booking may draw it, and then what comes back meets what is there.
As long as no booking does, any number of cancellations of one reference may run beside each other and fail
as they like: what one puts back is really stored and replaces nothing of another booking.

## Contents
- **Hands.** `Hand`, what a cancellation has taken out and not put back, and the charter `restoring`.
- **Conditions.** `Traffic.Unclaimed`: no booking comes by the reference.
- **Invariant.** `Restoring`: what is taken out is neither in the ledger nor in another hand.
- **Main result.** `failed_cancellation_restores`, and the booking that a restoration pushes aside.
-/

namespace DiveSchool

/-! ## Hands -/

/-- What a cancellation has taken out under its reference and not put back. -/
structure Hand where
  /-- The offering of the entry. -/
  entry : Option OfferingId := none
  record : Option Booking := none

/-- What a hand has after a request, by the answer to it. -/
def Hand.after (r : String) (s : Hand) : (q : Request) → q.Answer → Hand
  | .remove reference, .ok (some b) => if reference = r then ⟨some b.offeringId, some b⟩ else s
  | .forget reference, x => if reference = r then { s with entry := s.entry.or x } else s
  | .store b, .ok true => if b.reference = r then { s with record := none } else s
  | .enter reference _, _ => if reference = r then { s with entry := none } else s
  | _, _ => s

instance (r : String) (c : Call) : Decidable (c.Cancels r) :=
  inferInstanceAs (Decidable (c = .cancel r ∨ c = .cancelRecorded r))

/-- Who does not book stores and enters only what it has taken out, provided that what is stored under this
    reference always gets in; and who cancels by it and fails has nothing left in hand. -/
def restoring (r : String) : Charter Hand where
  protocol c :=
    { start := {}
      may := fun s q => c.holder? = none → match q with
        | .claim _ _ => False
        | .enter reference id => (reference = r ↔ c.Cancels r) ∧ (c.Cancels r → s.entry = some id)
        | .store b => (b.reference = r ↔ c.Cancels r) ∧ (c.Cancels r → s.record = some b)
        | _ => True
      heard := fun _ q x => match q, x with
        | .remove reference, .ok (some b) => b.reference = reference
        | .store b, x => b.reference = r → x = .ok true
        | _, _ => True
      next := Hand.after r }
  ends c s e := c.Cancels r → (∃ cause, e = .freed (.error (.infrastructure cause))) → s = {}

/-- What a caller has in hand under a reference. -/
def Caller.hand (r : String) (c : Caller) : Hand := (restoring r).stateOf c

theorem Caller.hand_answered (r : String) (c : Caller) (q : Request) (x : q.Answer)
    (rest : Procedure Ending) : (c.answered q x rest).hand r = (c.hand r).after r q x :=
  Charter.stateOf_answered c q x rest

namespace Call

variable {r reference : String}

theorem cancels_cancel : (cancel reference).Cancels r ↔ reference = r := by
  constructor
  · rintro (h | h)
    · exact Call.cancel.inj h
    · cases h
  · rintro rfl
    exact .inl rfl

theorem cancels_cancelRecorded : (cancelRecorded reference).Cancels r ↔ reference = r := by
  constructor
  · rintro (h | h)
    · cases h
    · exact Call.cancelRecorded.inj h
  · rintro rfl
    exact .inr rfl

theorem holder?_of_cancels {c : Call} (h : c.Cancels r) : c.holder? = none := by
  rcases h with rfl | rfl <;> rfl

end Call

section Charter

variable {r : String}

theorem restoring_ignores_log (c : Call) (event : Event) :
    ((restoring r).protocol c).Ignores (.log event) := fun _ => ⟨fun _ => trivial, fun _ => rfl⟩

/-- **Cancelling by the registry** enters what it has forgotten. -/
theorem restoring_cancel (d : Desk) (reference : String) : (restoring r).Grants d (.cancel reference) := by
  refine Procedure.follows_bind.mpr (Desk.cancel_rule (restoring_ignores_log _) (fun _ => trivial) ?_ ?_)
  · rintro - - ⟨cause, h⟩
    cases h
  · intro id _
    refine ⟨fun _ => trivial, ?_⟩
    rintro (cause | x) -
    · refine Procedure.follows_ask.mpr ⟨fun _ => ⟨Call.cancels_cancel.symm, fun hc => ?_⟩, fun _ _ hc _ => ?_⟩
      all_goals
        have hr : reference = r := Call.cancels_cancel.mp hc
        simp only [restoring, Hand.after, hr, if_true, Option.none_or]
    · rintro hc ⟨cause, h⟩
      rcases x with o | o | _ <;> cases h

/-- **Cancelling by a record** stores and enters what it has removed. -/
theorem restoring_cancelRecorded (d : Desk) (reference : String) :
    (restoring r).Grants d (.cancelRecorded reference) := by
  refine Procedure.follows_bind.mpr
    (Desk.cancelRecorded_rule (restoring_ignores_log _) (fun _ => trivial) ?_ ?_ ?_)
  · intro cause _ _ _
    rfl
  · rintro - - ⟨cause, h⟩
    cases h
  · intro b hb
    have hreference : b.reference = reference := hb
    refine Procedure.follows_ask.mpr ⟨fun _ => trivial, fun _ _ => ⟨fun _ => trivial, ?_⟩⟩
    rintro (cause | x) -
    · -- the record is in hand, then only the entry, then nothing
      have hcancels : b.reference = r ↔ (Call.cancelRecorded reference).Cancels r := by
        rw [hreference, Call.cancels_cancelRecorded]
      refine Procedure.follows_ask.mpr ⟨fun _ => ⟨hcancels, fun hc => ?_⟩, fun x hx => ?_⟩
      · have hr : reference = r := Call.cancels_cancelRecorded.mp hc
        simp only [restoring, Hand.after, hr, if_true]
      · have hstored : (Call.cancelRecorded reference).Cancels r → reference = r ∧ x = .ok true := by
          intro hc
          have hr : reference = r := Call.cancels_cancelRecorded.mp hc
          exact ⟨hr, hx (hreference.trans hr)⟩
        refine Procedure.follows_ask.mpr
          ⟨fun _ => ⟨Call.cancels_cancelRecorded.symm, fun hc => ?_⟩, fun _ _ hc _ => ?_⟩
        · obtain ⟨hr, rfl⟩ := hstored hc
          simp only [restoring, Hand.after, hr, hreference, if_true]
          rfl
        · obtain ⟨hr, rfl⟩ := hstored hc
          simp only [restoring, Hand.after, hr, hreference, if_true]
    · rintro hc ⟨cause, h⟩
      rcases x with o | o | _ <;> cases h

/-- **Every call** keeps to the charter. -/
theorem restoring_grants (d : Desk) (c : Call) : (restoring r).Grants d c := by
  cases c with
  | book now id holder =>
      refine Procedure.follows_of_forall (fun _ _ hnone => nomatch hnone) ?_
      rintro _ _ (hc | hc) <;> cases hc
  | bookRecorded now id holder =>
      refine Procedure.follows_of_forall (fun _ _ hnone => nomatch hnone) ?_
      rintro _ _ (hc | hc) <;> cases hc
  | release id =>
      refine Procedure.follows_bind.mpr (Desk.follows_release (restoring_ignores_log _) (fun _ => trivial) ?_)
      rintro _ - (hc | hc) <;> cases hc
  | cancel reference => exact restoring_cancel d reference
  | cancelRecorded reference => exact restoring_cancelRecorded d reference
  | availability id =>
      refine Procedure.follows_bind.mpr (Desk.follows_availability (fun _ => trivial) ?_)
      rintro _ - (hc | hc) <;> cases hc

end Charter

/-! ## Steps -/

namespace Holding

variable {r : String} {s : Holding} {w : World Memory} {q : Request} {x : q.Answer}

/-- What is entered was entered before, or is entered now. -/
theorem entered_after {id : OfferingId} (h : (s.after r q x).entered = some id) :
    s.entered = some id ∨ q = .claim r id ∨ q = .enter r id := by
  unfold after at h
  split at h
  · split at h
    · next hr =>
        cases h
        exact .inr (.inl (hr ▸ rfl))
    · exact .inl h
  · split at h
    · next hr =>
        cases h
        exact .inr (.inr (hr ▸ rfl))
    · exact .inl h
  · split at h
    · cases h
    · exact .inl h
  · split at h <;> exact .inl h
  · split at h <;> exact .inl h
  · exact .inl h

/-- What is recorded was recorded before, or is stored now. -/
theorem recorded_after {b : Booking} (h : (s.after r q x).recorded = some b) :
    s.recorded = some b ∨ (q = .store b ∧ b.reference = r) := by
  unfold after at h
  split at h
  · split at h <;> exact .inl h
  · split at h <;> exact .inl h
  · split at h <;> exact .inl h
  · split at h
    · next hr =>
        cases h
        exact .inr ⟨rfl, hr⟩
    · exact .inl h
  · split at h
    · cases h
    · exact .inl h
  · exact .inl h

/-- A request changes what is held by its answer, served or failing. -/
theorem of_respond (hm : w.state.Sound) (hkeyed : w.state.Keyed) (r : String) (fault : Option Failure)
    (q : Request) : of (respond fault q w).2 r = (of w r).after r q (respond fault q w).1 := by
  rcases Traffic.respond_cases fault q w with ⟨f, x, hx, h⟩ | h
  · rw [h]
    cases q <;> cases hx <;> rfl
  · rw [h]
    exact (agrees_serve hm hkeyed r q).2

/-- An order is not about references. -/
theorem of_order (hm : w.state.Sound) (r : String) (order : Order) : of (order.begun w) r = of w r := by
  have hrecords : (order.begun w).state.records = w.state.records := (hm.begunEffect order).records
  rw [of, of, hrecords, Order.registry_begun]

end Holding

/-- **No move replaces a record**: it stays as it is until it is removed. -/
theorem Traffic.record_step {d : Desk} {t : Traffic} (hm : t.world.state.Sound) (mv : Move) {reference : String}
    {b : Booking} (hb : t.world.state.records.get? reference = some b) :
    (t.step d mv).world.state.records.get? reference = some b ∨
      ∃ i fault c next, mv = .serve i fault ∧ t.Turn i c (.remove reference) next := by
  cases mv with
  | serve i fault =>
      rcases turn_or_idle d t i fault with ⟨c, q, next, hturn⟩ | hidle
      · have heffect := hm.requestEffect fault q
        rw [step_serve hturn]
        show (respond fault q t.world).2.state.records.get? reference = some b ∨ _
        generalize (respond fault q t.world).1 = x, (respond fault q t.world).2.state = m' at heffect
        cases heffect with
        | @stored b' hnew =>
            have hne : reference ≠ b'.reference := by
              rintro rfl
              cases hnew.symm.trans hb
            left
            rw [Table.get?_insert_of_ne _ _ hne]
            exact hb
        | @removed reference' _ _ =>
            by_cases hr : reference = reference'
            · subst hr
              exact .inr ⟨i, fault, c, next, rfl, hturn⟩
            · left
              rw [Table.get?_erase, if_neg hr]
              exact hb
        | _ => exact .inl hb
      · rw [hidle]
        exact .inl hb
  | order order =>
      left
      show (order.begun t.world).state.records.get? reference = some b
      rw [(hm.begunEffect order).records]
      exact hb
  | write p =>
      left
      rw [records_write]
      exact hb
  | _ => exact .inl hb

namespace Hand

variable {r : String} {s : Hand} {q : Request} {x : q.Answer}

/-- An entry in hand was there before, or is taken out now, or belongs to a record that is. -/
theorem entry_after {id : OfferingId} (h : (s.after r q x).entry = some id) :
    s.entry = some id ∨ (⟨q, x⟩ : Exchange) = ⟨.forget r, some id⟩ ∨
      ∃ b, b.offeringId = id ∧ (⟨q, x⟩ : Exchange) = ⟨.remove r, .ok (some b)⟩ := by
  unfold after at h
  split at h
  · next reference b =>
      split at h
      · next hr =>
          cases h
          exact .inr (.inr ⟨b, rfl, hr ▸ rfl⟩)
      · exact .inl h
  · next reference x =>
      split at h
      · next hr =>
          rcases Option.or_eq_some_iff.mp h with hentry | ⟨_, hx⟩
          · exact .inl hentry
          · subst hr hx
            exact .inr (.inl rfl)
      · exact .inl h
  · split at h <;> exact .inl h
  · split at h
    · cases h
    · exact .inl h
  · exact .inl h

/-- A record in hand was there before, or is taken out now. -/
theorem record_after {b : Booking} (h : (s.after r q x).record = some b) :
    s.record = some b ∨ (⟨q, x⟩ : Exchange) = ⟨.remove r, .ok (some b)⟩ := by
  unfold after at h
  split at h
  · split at h
    · next hr =>
        cases h
        exact .inr (hr ▸ rfl)
    · exact .inl h
  · split at h <;> exact .inl h
  · split at h
    · cases h
    · exact .inl h
  · split at h <;> exact .inl h
  · exact .inl h

end Hand

/-! ## Conditions -/

/-- The reference under which a request puts something. -/
def Request.puts? : Request → Option String
  | claim reference _ | enter reference _ => some reference
  | store b => some b.reference
  | _ => none

namespace Traffic

/-- No booking claims or enters the reference or stores under it, and nothing that is to be stored is
    lost. -/
def Unclaimed (r : String) (t : Traffic) : Move → Prop
  | .serve i fault => ∀ c q next, t.Turn i c q next →
      (c.call.holder? ≠ none → q.puts? ≠ some r) ∧ ∀ b, q = .store b → fault = none
  | _ => True

/-- Where nobody books and nothing is lost, nothing is claimed. -/
theorem along_unclaimed {d : Desk} {t : Traffic} {r : String} {moves : List Move}
    (hcallers : ∀ c ∈ t.callers, c.call.holder? = none)
    (hmoves : ∀ mv ∈ moves, (∃ i, mv = .serve i none) ∨ ∃ held, mv = .lock held) :
    Along d (Unclaimed r) t moves := by
  induction moves generalizing t with
  | nil => exact trivial
  | cons mv moves ih =>
      refine ⟨?_, ih (fun c' hc' => ?_) fun mv hmv => hmoves mv (List.mem_cons_of_mem _ hmv)⟩
      · rcases hmoves mv List.mem_cons_self with ⟨i, rfl⟩ | ⟨held, rfl⟩
        · intro c q next hturn
          exact ⟨fun hbooks => absurd (hcallers c hturn.mem) hbooks, fun _ _ => rfl⟩
        · exact trivial
      · rcases mem_callers_step hc' with hold | ⟨c, rfl, rfl⟩ | ⟨i, fault, c, q, next, rfl, hturn, rfl⟩
        · exact hcallers c' hold
        · rcases hmoves _ List.mem_cons_self with ⟨i, h⟩ | ⟨held, h⟩ <;> cases h
        · exact hcallers c hturn.mem

end Traffic

/-! ## Invariant -/

/-- A cancellation by the reference has its record in hand. -/
def Call.keeps (r : String) (c : Call) (s : Hand) : Bool := decide (c.Cancels r) && s.record.isSome

/-- What holds of a run at every moment, about a reference of one offering. -/
structure Restoring (r : String) (id : OfferingId) (t : Traffic) : Prop where
  sound : t.world.state.Sound
  keyed : t.world.state.Keyed
  kept : ∀ c ∈ t.callers, (restoring r).KeptBy c
  entered : ∀ x, (Holding.of t.world r).entered = some x → x = id
  recorded : ∀ b, (Holding.of t.world r).recorded = some b → b.offeringId = id
  hands : ∀ c ∈ t.callers, c.call.Cancels r → (∀ x, (c.hand r).entry = some x → x = id) ∧
    ∀ b, (c.hand r).record = some b → b.offeringId = id
  /-- The record is in one hand, or in the ledger, or nowhere. -/
  once : (restoring r).tally (Call.keeps r) t.callers +
    (if (Holding.of t.world r).recorded.isSome then 1 else 0) ≤ 1

namespace Restoring

variable {r : String} {id : OfferingId} {d : Desk} {t : Traffic} {i : Nat} {fault : Option Failure}
  {c : Caller} {q : Request} {next : q.Answer → Procedure Ending}

/-- While a cancellation has the record in hand there is none in the ledger. -/
theorem recorded_eq_none (h : Restoring r id t) (hc : c ∈ t.callers) (hcancels : c.call.Cancels r)
    {b : Booking} (hb : (c.hand r).record = some b) : (Holding.of t.world r).recorded = none := by
  have hkeeps : Call.keeps r c.call ((restoring r).stateOf c) = true := by
    show (decide (c.call.Cancels r) && (c.hand r).record.isSome) = true
    rw [hb, decide_eq_true hcancels]
    rfl
  have hheld : 0 < (restoring r).tally (Call.keeps r) t.callers := List.countP_pos_iff.mpr ⟨c, hc, hkeeps⟩
  have honce := h.once
  cases hrecorded : (Holding.of t.world r).recorded with
  | none => rfl
  | some b' =>
      rw [hrecorded] at honce
      simp only [Option.isSome_some, if_true] at honce
      omega

/-- Whatever a cancellation is about to store or enter it has in hand. -/
theorem puts (h : Restoring r id t) (hturn : t.Turn i c q next) (hmv : t.Unclaimed r (.serve i fault)) :
    (∀ b, q = .store b → b.reference = r → c.call.Cancels r ∧ (c.hand r).record = some b) ∧
    (∀ x, q = .enter r x → c.call.Cancels r ∧ (c.hand r).entry = some x) ∧
    ∀ x, q ≠ .claim r x := by
  have hmay := (h.kept c hturn.mem).may hturn
  have hbooks := (hmv c q next hturn).1
  refine ⟨?_, ?_, ?_⟩
  · rintro b rfl hr
    have hnone : c.call.holder? = none := Classical.byContradiction fun hb => hbooks hb (congrArg some hr)
    have hcancels : c.call.Cancels r := (hmay hnone).1.mp hr
    exact ⟨hcancels, (hmay hnone).2 hcancels⟩
  · rintro x rfl
    have hnone : c.call.holder? = none := Classical.byContradiction fun hb => hbooks hb rfl
    have hcancels : c.call.Cancels r := (hmay hnone).1.mp rfl
    exact ⟨hcancels, (hmay hnone).2 hcancels⟩
  · rintro x rfl
    have hnone : c.call.holder? = none := Classical.byContradiction fun hb => hbooks hb rfl
    exact hmay hnone

/-- What a cancellation has removed was in the ledger. -/
theorem of_removed (h : Restoring r id t) {reference : String} {b : Booking}
    (hx : (respond fault (.remove reference) t.world).1 = .ok (some b)) :
    t.world.state.records.get? reference = some b := by
  have heffect := h.sound.requestEffect fault (.remove reference)
  rw [hx] at heffect
  generalize (respond fault (.remove reference) t.world).2.state = m' at heffect
  cases heffect with
  | nothing hx => exact hx.elim
  | removed hb => exact hb

/-- **The answers** are those that the charter reckons with. -/
theorem heard (h : Restoring r id t) (hturn : t.Turn i c q next) (hmv : t.Unclaimed r (.serve i fault)) :
    ((restoring r).protocol c.call).heard ((restoring r).stateOf c) q (respond fault q t.world).1 := by
  cases q with
  | remove reference =>
      cases hx : (respond fault (.remove reference) t.world).1 with
      | error cause => exact trivial
      | ok found =>
          cases found with
          | none => exact trivial
          | some b => exact h.keyed reference b (h.of_removed hx)
  | store b =>
      intro hr
      obtain ⟨hcancels, hb⟩ := (h.puts hturn hmv).1 b rfl hr
      have hfault : fault = none := (hmv c _ next hturn).2 b rfl
      have hnone : t.world.state.records.get? b.reference = none :=
        hr ▸ h.recorded_eq_none hturn.mem hcancels hb
      subst hfault
      show (t.world.state.store b).answer = .ok true
      unfold Memory.store
      rw [Table.contains, hnone]
      rfl
  | _ => exact trivial

/-- **One request** takes a record from the ledger into one hand, or back, and else makes none. -/
theorem conserved (h : Restoring r id t) (hturn : t.Turn i c q next) (hmv : t.Unclaimed r (.serve i fault)) :
    let x := (respond fault q t.world).1
    (if Call.keeps r c.call ((c.hand r).after r q x) then 1 else 0) +
        (if ((Holding.of t.world r).after r q x).recorded.isSome then 1 else 0) ≤
      (if Call.keeps r c.call (c.hand r) then 1 else 0) +
        (if (Holding.of t.world r).recorded.isSome then 1 else 0) := by
  intro x
  have hheard := h.heard hturn hmv
  by_cases hremoved : ∃ b, (⟨q, x⟩ : Exchange) = ⟨.remove r, .ok (some b)⟩
  · -- from the ledger into the hand
    obtain ⟨b, hexchange⟩ := hremoved
    obtain ⟨rfl, hx⟩ := Exchange.mk.inj hexchange
    have hx : x = .ok (some b) := eq_of_heq hx
    have hbefore : (Holding.of t.world r).recorded = some b := h.of_removed hx
    have hafter : ((Holding.of t.world r).after r (.remove r) x).recorded = none := by
      rw [hx]
      simp only [Holding.after, if_true]
    rw [hbefore, hafter]
    simp only [Option.isSome_some, Option.isSome_none, if_true, Bool.false_eq_true, if_false]
    split <;> omega
  · by_cases hstored : ∃ b, q = .store b ∧ b.reference = r
    · -- from the hand into the ledger
      obtain ⟨b, rfl, hr⟩ := hstored
      obtain ⟨hcancels, hb⟩ := (h.puts hturn hmv).1 b rfl hr
      have hx : x = .ok true := hheard hr
      have hbefore : Call.keeps r c.call (c.hand r) = true := by
        rw [Call.keeps, hb, decide_eq_true hcancels]
        rfl
      have hafter : Call.keeps r c.call ((c.hand r).after r (.store b) x) = false := by
        rw [hx]
        simp only [Hand.after, hr, if_true, Call.keeps, Option.isSome_none, Bool.and_false]
      rw [hbefore, hafter]
      simp only [if_true, Bool.false_eq_true, if_false]
      split <;> omega
    · -- nothing comes into the hand, and nothing into the ledger
      have hhand : Call.keeps r c.call ((c.hand r).after r q x) = true →
          Call.keeps r c.call (c.hand r) = true := by
        simp only [Call.keeps, Bool.and_eq_true]
        rintro ⟨hcancels, hsome⟩
        obtain ⟨b, hb⟩ := Option.isSome_iff_exists.mp hsome
        rcases Hand.record_after hb with hb | hexchange
        · exact ⟨hcancels, Option.isSome_of_eq_some hb⟩
        · exact absurd ⟨b, hexchange⟩ hremoved
      have hledger : ((Holding.of t.world r).after r q x).recorded.isSome = true →
          (Holding.of t.world r).recorded.isSome = true := by
        intro hsome
        obtain ⟨b, hb⟩ := Option.isSome_iff_exists.mp hsome
        rcases Holding.recorded_after hb with hb | hstore
        · exact Option.isSome_of_eq_some hb
        · exact absurd ⟨b, hstore⟩ hstored
      refine Nat.add_le_add ?_ ?_
      · split
        · next hkeeps => exact Nat.le_of_eq (if_pos (hhand hkeeps)).symm
        · exact Nat.zero_le _
      · split
        · next hsome => exact Nat.le_of_eq (if_pos (hledger hsome)).symm
        · exact Nat.zero_le _

/-- What is held after a caller's request. -/
theorem of_step_serve (h : Restoring r id t) (hturn : t.Turn i c q next) :
    Holding.of (t.step d (.serve i fault)).world r =
      (Holding.of t.world r).after r q (respond fault q t.world).1 := by
  rw [Traffic.step_serve hturn]
  exact Holding.of_respond h.sound h.keyed r fault q

/-- What comes into the hand of a cancellation is of the offering too. -/
theorem hand_after (h : Restoring r id t) (hturn : t.Turn i c q next) (hcancels : c.call.Cancels r) :
    let s := (c.hand r).after r q (respond fault q t.world).1
    (∀ x, s.entry = some x → x = id) ∧ ∀ b, s.record = some b → b.offeringId = id := by
  obtain ⟨hentry, hrecord⟩ := h.hands c hturn.mem hcancels
  have hremoved : ∀ b, (⟨q, (respond fault q t.world).1⟩ : Exchange) = ⟨.remove r, .ok (some b)⟩ →
      b.offeringId = id := by
    intro b hexchange
    obtain ⟨rfl, hx⟩ := Exchange.mk.inj hexchange
    exact h.recorded b (h.of_removed (eq_of_heq hx))
  constructor
  · intro x hx
    rcases Hand.entry_after hx with hx | hexchange | ⟨b, rfl, hexchange⟩
    · exact hentry x hx
    · obtain ⟨rfl, hx⟩ := Exchange.mk.inj hexchange
      have hanswer : (respond fault (.forget r) t.world).1 = t.world.registry.get? r := by
        cases fault <;> rfl
      exact h.entered x (hanswer.symm.trans (eq_of_heq hx))
    · exact hremoved b hexchange
  · intro b hb
    rcases Hand.record_after hb with hb | hexchange
    · exact hrecord b hb
    · exact hremoved b hexchange

/-- **Any request** keeps the invariant. -/
theorem serve (h : Restoring r id t) (hturn : t.Turn i c q next) (hmv : t.Unclaimed r (.serve i fault)) :
    Restoring r id (t.step d (.serve i fault)) where
  sound := Traffic.sound_step h.sound _
  keyed := by
    rw [Traffic.step_serve hturn]
    exact (h.sound.requestEffect fault q).keyed h.keyed
  kept := by
    refine Charter.keptBy_step h.kept (fun c _ => restoring_grants d c) ?_
    rintro _ _ c q next ⟨⟩ hturn
    exact h.heard hturn hmv
  entered := by
    intro x hx
    rw [h.of_step_serve hturn] at hx
    obtain ⟨_, henters, hclaims⟩ := h.puts hturn hmv
    rcases Holding.entered_after hx with hx | rfl | rfl
    · exact h.entered x hx
    · exact absurd rfl (hclaims x)
    · obtain ⟨hcancels, hentry⟩ := henters x rfl
      exact (h.hands c hturn.mem hcancels).1 x hentry
  recorded := by
    intro b hb
    rw [h.of_step_serve hturn] at hb
    obtain ⟨hstores, _, _⟩ := h.puts hturn hmv
    rcases Holding.recorded_after hb with hb | ⟨rfl, hr⟩
    · exact h.recorded b hb
    · obtain ⟨hcancels, hrecord⟩ := hstores b rfl hr
      exact (h.hands c hturn.mem hcancels).2 b hrecord
  hands := by
    intro c' hc' hcancels
    rcases Traffic.mem_callers_step hc' with hold | ⟨_, hcall, _⟩ | ⟨_, _, c, q, next, hserve, hturn, rfl⟩
    · exact h.hands c' hold hcancels
    · cases hcall
    · cases hserve
      rw [Caller.hand_answered]
      exact h.hand_after hturn hcancels
  once := by
    have htally := (restoring r).tally_serve (d := d) (p := Call.keeps r) hturn fault
    have hconserved := h.conserved hturn hmv
    have honce := h.once
    rw [h.of_step_serve hturn]
    change _ + (if Call.keeps r c.call (c.hand r) then 1 else 0) = _ + (if Call.keeps r c.call
      ((c.hand r).after r q (respond fault q t.world).1) then 1 else 0) at htally
    omega

/-- **Any move** keeps the invariant. -/
theorem step (h : Restoring r id t) {mv : Move} (hmv : t.Unclaimed r mv) : Restoring r id (t.step d mv) := by
  cases mv with
  | serve i fault =>
      rcases Traffic.turn_or_idle d t i fault with ⟨c, q, next, hturn⟩ | hidle
      · exact h.serve hturn hmv
      · rw [hidle]
        exact h
  | order order =>
      have hholding := Holding.of_order h.sound r order
      have hrecords : (order.begun t.world).state.records = t.world.state.records :=
        (h.sound.begunEffect order).records
      exact {
        sound := Traffic.sound_step (d := d) h.sound (.order order)
        keyed := fun reference b hb => h.keyed reference b (hrecords ▸ hb)
        kept := h.kept
        entered := fun x hx => h.entered x (hholding ▸ hx)
        recorded := fun b hb => h.recorded b (hholding ▸ hb)
        hands := h.hands
        once := hholding ▸ h.once }
  | write p =>
      simp only [Traffic.step]
      split
      · exact { h with sound := h.sound.write p, keyed := h.keyed }
      · exact h
  | call c =>
      have hempty : (Caller.fresh d c).hand r = {} := rfl
      have hkept : ∀ c' ∈ (t.step d (.call c)).callers, (restoring r).KeptBy c' := by
        refine Charter.keptBy_step h.kept (fun c _ => restoring_grants d c) ?_
        intro _ _ _ _ _ hserve
        cases hserve
      have htally : (restoring r).tally (Call.keeps r) (t.callers ++ [.fresh d c]) =
          (restoring r).tally (Call.keeps r) t.callers := by
        rw [Charter.tally_call, if_neg]
        · rfl
        · show ¬ (Call.keeps r c {}) = true
          simp only [Call.keeps, Option.isSome_none, Bool.and_false, Bool.false_eq_true, not_false_eq_true]
      exact {
        sound := h.sound
        keyed := h.keyed
        kept := hkept
        entered := h.entered
        recorded := h.recorded
        hands := by
          intro c' hc' hcancels
          rcases List.mem_append.mp hc' with hold | hnew
          · exact h.hands c' hold hcancels
          · rw [List.mem_singleton.mp hnew, hempty]
            exact ⟨fun _ hnone => (by cases hnone), fun _ hnone => (by cases hnone)⟩
        once := htally.symm ▸ h.once }
  | lock held => exact { h with sound := h.sound, keyed := h.keyed }
  | clock now => exact { h with sound := h.sound, keyed := h.keyed }

/-- **Before any cancellation has begun** nothing is in hand. -/
theorem start (d : Desk) (hm : t.world.state.Sound) (hkeyed : t.world.state.Keyed)
    (hcallers : ∀ c ∈ t.callers, c = .fresh d c.call ∨ c.call.holder? ≠ none)
    (hentered : ∀ x, t.world.registry.get? r = some x → x = id)
    (hrecorded : ∀ b, t.world.state.records.get? r = some b → b.offeringId = id) : Restoring r id t where
  sound := hm
  keyed := hkeyed
  kept := by
    intro c hc
    rcases hcallers c hc with hfresh | hbooks
    · rw [hfresh]
      exact restoring_grants d c.call
    · -- bookings may do what they like
      refine Procedure.follows_of_forall (fun _ _ hnone => absurd hnone hbooks) fun _ _ hcancels => ?_
      exact absurd (Call.holder?_of_cancels hcancels) hbooks
  entered := hentered
  recorded := hrecorded
  hands := by
    intro c hc hcancels
    rcases hcallers c hc with hfresh | hbooks
    · rw [hfresh]
      exact ⟨fun _ hnone => (by cases hnone), fun _ hnone => (by cases hnone)⟩
    · exact absurd (Call.holder?_of_cancels hcancels) hbooks
  once := by
    have hnone : (restoring r).tally (Call.keeps r) t.callers = 0 := by
      refine List.countP_eq_zero.mpr fun c hc hkeeps => ?_
      have hcancels : c.call.Cancels r := of_decide_eq_true (Bool.and_eq_true_iff.mp hkeeps).1
      rcases hcallers c hc with hfresh | hbooks
      · rw [hfresh] at hkeeps
        exact Bool.false_ne_true ((Bool.and_false _).symm.trans hkeeps)
      · exact absurd (Call.holder?_of_cancels hcancels) hbooks
    rw [hnone]
    split <;> decide

end Restoring

/-! ## Failed cancellations -/

/-- **A failed cancellation restores what it took**, beside any other calls, as long as no booking comes by
    its reference meanwhile. Let the reference stand for one offering in the registry and the records, and
    let no cancellation have begun. Then a record that a cancellation is about to put back is its own, finds
    its place free and is really stored; an entry that it is about to put back meets none of another
    offering; and when it ends with a fault nothing is left in its hands. Whatever moves are made, none
    replaces a record. -/
theorem failed_cancellation_restores (d : Desk) (t : Traffic) (hm : t.world.state.Sound)
    (hkeyed : t.world.state.Keyed)
    (hcallers : ∀ c ∈ t.callers, c = .fresh d c.call ∨ c.call.holder? ≠ none) (r : String) (id : OfferingId)
    (hentered : ∀ x, t.world.registry.get? r = some x → x = id)
    (hrecorded : ∀ b, t.world.state.records.get? r = some b → b.offeringId = id) (moves : List Move)
    (halong : Traffic.Along d (Traffic.Unclaimed r) t moves) :
    let t' := t.run d moves
    (∀ i c b next, t'.Turn i c (.store b) next → c.call.Cancels r →
      b.reference = r ∧ b.offeringId = id ∧ t'.world.state.records.get? r = none ∧
        (t'.step d (.serve i none)).world.state.records.get? r = some b) ∧
    (∀ i c reference x next, t'.Turn i c (.enter reference x) next → c.call.Cancels r →
      reference = r ∧ x = id ∧ ∀ y, t'.world.registry.get? r = some y → y = id) ∧
    (∀ c ∈ t'.callers, c.call.Cancels r → ∀ cause,
      c.ending? = some (.freed (.error (.infrastructure cause))) → c.hand r = {}) ∧
    ∀ mv reference b, t'.world.state.records.get? reference = some b →
      (t'.step d mv).world.state.records.get? reference = some b ∨
        ∃ i fault c next, mv = .serve i fault ∧ t'.Turn i c (.remove reference) next := by
  intro t'
  have h : Restoring r id t' := Traffic.run_induction (fun _ _ h hmv => h.step hmv)
    (Restoring.start d hm hkeyed hcallers hentered hrecorded) halong
  refine ⟨?_, ?_, ?_, fun mv reference b hb => Traffic.record_step h.sound mv hb⟩
  · intro i c b next hturn hcancels
    obtain ⟨hreference, hhand⟩ := (h.kept c hturn.mem).may hturn (Call.holder?_of_cancels hcancels)
    have hr : b.reference = r := hreference.mpr hcancels
    have hb : (c.hand r).record = some b := hhand hcancels
    have hnone : t'.world.state.records.get? r = none := h.recorded_eq_none hturn.mem hcancels hb
    refine ⟨hr, (h.hands c hturn.mem hcancels).2 b hb, hnone, ?_⟩
    rw [Traffic.step_serve hturn]
    show (t'.world.state.store b).state.records.get? r = some b
    unfold Memory.store
    rw [Table.contains, hr, hnone]
    exact Table.get?_insert_self _ _ _
  · intro i c reference x next hturn hcancels
    obtain ⟨hreference, hhand⟩ := (h.kept c hturn.mem).may hturn (Call.holder?_of_cancels hcancels)
    exact ⟨hreference.mpr hcancels, (h.hands c hturn.mem hcancels).1 x (hhand hcancels), h.entered⟩
  · intro c hc hcancels cause hending
    exact (h.kept c hc).ends hending hcancels ⟨cause, rfl⟩

namespace TwoReefs

/-- Two trips of one name. -/
def reef (id : OfferingId) : Offering := Offering.trip id default "Reef" 2 none

/-- A desk that issues every reference once. -/
def desk : Desk := ⟨.ordinal, {}⟩

/-- Ann books a trip. -/
def books (id : OfferingId) : Call := .bookRecorded default id ⟨"Ann", none⟩

/-- What she gets. -/
def record (id : OfferingId) : Booking := ⟨"REEF_ANN_100", id, "Ann", default⟩

/-- A client is served until its call is over. -/
def serves (i : Nat) : List Move := List.replicate 12 (.serve i none)

/-- Ann has booked the first trip. -/
def booked : Traffic :=
  (Traffic.opening 0 .empty .empty default default).run desk
    (Tested.adding ⟨reef ⟨1⟩, rfl⟩ ++ Tested.adding ⟨reef ⟨2⟩, rfl⟩ ++ [.call (books ⟨1⟩)] ++ serves 0)

theorem entries_booked :
    booked.world.state.records.entries = [((record ⟨1⟩).reference, record ⟨1⟩)] := by decide +kernel

theorem recorded_booked {reference : String} {b : Booking}
    (hb : booked.world.state.records.get? reference = some b) :
    reference = (record ⟨1⟩).reference ∧ b = record ⟨1⟩ := by
  rw [Table.get?_eq_some_iff, entries_booked, List.mem_singleton] at hb
  exact Prod.mk.inj hb

/-- Whether a call ended with a fault of a release. -/
def failed (c : Caller) : Bool := c.ending? matches some (.freed (.error (.infrastructure _)))

theorem of_failed {c : Caller} (h : failed c = true) :
    ∃ cause, c.ending? = some (.freed (.error (.infrastructure cause))) := by
  unfold failed at h
  split at h
  · next cause hending => exact ⟨cause, hending⟩
  · cases h

end TwoReefs

open TwoReefs in
/-- Ann's booking is cancelled while the lock is held: the cancellation fails and has nothing left in hand. -/
theorem cancellation_under_lock_restores :
    let t : Traffic := ⟨booked.world, [.fresh desk (.cancelRecorded (record ⟨1⟩).reference)], []⟩
    let t' := t.run desk (.lock [⟨1⟩] :: serves 0)
    t'.callers.all failed = true ∧ (∀ c ∈ t'.callers, c.hand (record ⟨1⟩).reference = {}) ∧
      t'.world.state.records.get? (record ⟨1⟩).reference = some (record ⟨1⟩) ∧
      t'.world.registry.get? (record ⟨1⟩).reference = some ⟨1⟩ := by
  intro t t'
  have hm : t.world.state.Sound := World.Reachable.sound ⟨desk, 0, .empty, .empty, default, default, _, rfl⟩
  have hkeyed : t.world.state.Keyed := by
    intro reference b hb
    obtain ⟨rfl, rfl⟩ := recorded_booked hb
    rfl
  have hentry : t.world.registry.get? (record ⟨1⟩).reference = some ⟨1⟩ := by decide +kernel
  have hcallers : ∀ c ∈ t.callers, c = .fresh desk (.cancelRecorded (record ⟨1⟩).reference) :=
    fun c hc => List.mem_singleton.mp hc
  have hmoves : ∀ mv ∈ (.lock [⟨1⟩] :: serves 0), (∃ i, mv = .serve i none) ∨ ∃ held, mv = .lock held := by
    intro mv hmv
    rcases List.mem_cons.mp hmv with rfl | hmv
    · exact .inr ⟨_, rfl⟩
    · exact .inl ⟨0, (List.mem_replicate.mp hmv).2⟩
  have hfailed : t'.callers.all failed = true := by decide +kernel
  have hcancels : ∀ c ∈ t'.callers, c.call.Cancels (record ⟨1⟩).reference := by decide +kernel
  obtain ⟨-, -, hhand, -⟩ := failed_cancellation_restores desk t hm hkeyed
    (fun c hc => .inl (by rw [hcallers c hc]; rfl)) (record ⟨1⟩).reference ⟨1⟩
    (fun x hx => Option.some.inj (hx.symm.trans hentry))
    (fun b hb => by rw [(recorded_booked hb).2]; rfl) (.lock [⟨1⟩] :: serves 0)
    (Traffic.along_unclaimed (fun c hc => by rw [hcallers c hc]; rfl) hmoves)
  refine ⟨hfailed, fun c hc => ?_, by decide +kernel, by decide +kernel⟩
  obtain ⟨cause, hending⟩ := of_failed (List.all_eq_true.mp hfailed c hc)
  exact hhand c hc (hcancels c hc) cause hending

open TwoReefs in
/-- The cancellation has taken the record out when Ann books the second trip and draws the same reference.
    Then the release fails: the record of the first trip is lost though its spot is booked, and the registry
    is turned from the second trip to the first. -/
theorem restoration_pushes_aside :
    let t := booked.run desk ([.call (.cancelRecorded (record ⟨1⟩).reference), .serve 1 none, .serve 1 none,
      .call (books ⟨2⟩)] ++ serves 2)
    let t' := t.run desk (.lock [⟨1⟩] :: serves 1)
    t.world.registry.get? (record ⟨1⟩).reference = some ⟨2⟩ ∧
      t.world.state.records.values = [record ⟨2⟩] ∧
      (t'.callers[1]?.map failed) = some true ∧
      t'.world.registry.get? (record ⟨1⟩).reference = some ⟨1⟩ ∧
      t'.world.state.records.values = [record ⟨2⟩] ∧
      (t'.world.state.offerings.get? ⟨1⟩).map Offering.bookings = some 1 := by
  decide +kernel

end DiveSchool
