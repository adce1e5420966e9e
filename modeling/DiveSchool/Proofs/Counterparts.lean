import DiveSchool.Proofs.FirstFree
import DiveSchool.Proofs.Pairs
import DiveSchool.Proofs.Recording

/-!
# `DiveSchool.Proofs.Counterparts` — the plain operations and the recorded ones

A booking and a cancellation exist twice, without a record and with one, and the two versions take their steps
in different orders. On a divided ledger they can run side by side all the same: they make the same requests
about the offering, the registry and the draws, hear alike answers, and what the recorded version does besides
concerns the records alone. So they come to the same, as long as the records play along.

## Contents
- **Courses of the operations.** What each version does once the spot is taken, or the record removed.
- **Booking.** `Divided.BookedAlike` and `Divided.booked_alike`.
- **Cancelling.** `Divided.CancelledAlike` and `Divided.cancelled_alike`.
- **Agreement.** `recorded_agrees_with_plain`, for the ledgers in memory, in a database and behind faults alike.
-/

namespace DiveSchool

/-! ## Courses of the operations -/

/-- The trail of what follows is the end of the whole. -/
theorem Procedure.suffix_trail_bind {α β ω : Type} {handle : (r : Request) → ω → r.Answer × ω} {p : Procedure α}
    {f : α → Procedure β} {w w' : ω} {a : α} (h : p.run handle w = (a, w')) :
    (f a).trail handle w' <:+ (p >>= f).trail handle w := by
  rw [trail_bind, h]
  exact List.suffix_append _ _

namespace Desk

variable {σ : Type} {l : Ledger σ} {w v : World σ} {d : Desk} {id : OfferingId} {holder : Holder} {o : Offering}
  {now : Timestamp} {reference : String} {b : Booking}

/-- **Booking** without a record: once a spot is taken a reference is issued. -/
theorem run_book_of_reserved (now : Timestamp) (hreserve : l.run (d.reserve id holder) w = (.ok o, v)) :
    (l.run (d.book now id holder) w).1 =
        .ok ⟨(l.run (d.issue o holder.firstName) v).1, id, holder.firstName, now⟩ ∧
      ∃ log, (l.run (d.book now id holder) w).2 = { (l.run (d.issue o holder.firstName) v).2 with log } := by
  replace hreserve : (d.reserve id holder).run l.serve w = (.ok o, v) := hreserve
  have hrun : l.run (d.book now id holder) w = Procedure.run l.serve (do
      let reference ← d.issue o holder.firstName
      Procedure.log (.bookingConfirmed id reference o.bookings o.capacity)
      return (.ok ⟨reference, id, holder.firstName, now⟩ : Except BookingError Booking)) v := by
    refine (Procedure.run_bind l.serve (d.reserve id holder) _ w).trans ?_
    rw [hreserve]
  rw [hrun, Procedure.run_bind]
  exact ⟨rfl, _, rfl⟩

theorem run_book_of_refused {e : BookingError} (hreserve : l.run (d.reserve id holder) w = (.error e, v)) :
    l.run (d.book now id holder) w = (.error e, v) := by
  replace hreserve : (d.reserve id holder).run l.serve w = (.error e, v) := hreserve
  refine (Procedure.run_bind l.serve (d.reserve id holder) _ w).trans ?_
  rw [hreserve]
  rfl

theorem run_bookRecorded_of_refused {e : BookingError}
    (hreserve : l.run (d.reserve id holder) w = (.error e, v)) :
    l.run (d.bookRecorded now id holder) w = (.error e, v) := by
  replace hreserve : (d.reserve id holder).run l.serve w = (.error e, v) := hreserve
  refine (Procedure.run_bind l.serve (d.reserve id holder) _ w).trans ?_
  rw [hreserve]
  rfl

/-- **Booking** with a record: the first reference issued is the one if it can be stored. -/
theorem run_storeUnderFresh_of_stored {n : Nat} (hissue : l.run (d.issue o holder.firstName) w = (reference, v))
    (hstored : (l.store ⟨reference, id, holder.firstName, now⟩ v.state).answer = .ok true) :
    (l.run (d.storeUnderFresh now id holder o (n + 1)) w).1 = .ok ⟨reference, id, holder.firstName, now⟩ ∧
      ∃ log, (l.run (d.storeUnderFresh now id holder o (n + 1)) w).2 =
        { v with state := (l.store ⟨reference, id, holder.firstName, now⟩ v.state).state, log } := by
  replace hissue : (d.issue o holder.firstName).run l.serve w = (reference, v) := hissue
  have hstore : (Procedure.store ⟨reference, id, holder.firstName, now⟩).run l.serve v =
      (.ok true, v.afterReply (l.store ⟨reference, id, holder.firstName, now⟩ v.state)) :=
    Prod.ext hstored rfl
  have hrun : l.run (d.storeUnderFresh now id holder o (n + 1)) w = Procedure.run l.serve (do
      Procedure.log (.bookingConfirmed id reference o.bookings o.capacity)
      return (.ok ⟨reference, id, holder.firstName, now⟩ : Except BookingError Booking))
      (v.afterReply (l.store ⟨reference, id, holder.firstName, now⟩ v.state)) := by
    refine (Procedure.run_bind l.serve (d.issue o holder.firstName) _ w).trans ?_
    rw [hissue]
    refine (Procedure.run_bind l.serve (Procedure.store ⟨reference, id, holder.firstName, now⟩) _ v).trans ?_
    rw [hstore]
  rw [hrun]
  exact ⟨rfl, _, rfl⟩

theorem tried_of_storeUnderFresh {n : Nat} (hissue : l.run (d.issue o holder.firstName) w = (reference, v)) :
    (⟨reference, id, holder.firstName, now⟩,
        (l.store ⟨reference, id, holder.firstName, now⟩ v.state).answer) ∈
      tries ((d.storeUnderFresh now id holder o (n + 1)).trail l.serve w) := by
  replace hissue : (d.issue o holder.firstName).run l.serve w = (reference, v) := hissue
  unfold storeUnderFresh
  refine List.mem_filterMap.mpr ⟨⟨.store ⟨reference, id, holder.firstName, now⟩, _⟩, ?_, rfl⟩
  rw [Procedure.trail_bind, hissue]
  exact List.mem_append_right _ List.mem_cons_self

/-- A fault of the release. -/
def Faulted (x : Except ReleaseError Snapshot) : Prop := ∃ cause, x = .error (.infrastructure cause)

section Cancelling

variable {x : Except ReleaseError Snapshot}

/-- A release touches neither the registry nor the source. -/
theorem run_release (l : Ledger σ) (id : OfferingId) (w : World σ) :
    ∃ log, (l.run (release id) w).2 = { w with state := (l.release w.now id w.state).state, log } := by
  have hrun : l.run (release id) w = _ := Procedure.run_bind l.serve (Procedure.release id) _ w
  have hrelease : ∀ y, (l.release w.now id w.state).answer = y → (Procedure.release id).run l.serve w =
      (y, w.afterReply (l.release w.now id w.state)) := fun y hy => Prod.ext hy rfl
  rcases hanswer : (l.release w.now id w.state).answer with cause | (o | o | _)
  all_goals
    rw [hrun, hrelease _ hanswer]
    exact ⟨_, rfl⟩

/-- What a plain cancellation releases in: the reference is gone. -/
def forgotten (reference : String) (w : World σ) : World σ :=
  { w with registry := w.registry.erase reference }

/-- **Cancelling** without a record: after a fault the reference is entered again. -/
theorem run_cancel_of_faulted (hentered : w.registry.get? reference = some id)
    (hrelease : l.run (release id) (forgotten reference w) = (x, v)) (hx : Faulted x) :
    l.run (cancel reference) w = (x, { v with registry := v.registry.insert reference id }) := by
  replace hrelease : (release id).run l.serve (forgotten reference w) = (x, v) := hrelease
  have hforget : (Procedure.forget reference).run l.serve w = (some id, forgotten reference w) :=
    Prod.ext hentered rfl
  obtain ⟨cause, rfl⟩ := hx
  refine (Procedure.run_bind l.serve (Procedure.forget reference) _ w).trans ?_
  rw [hforget]
  refine (Procedure.run_bind l.serve (release id) _ _).trans ?_
  rw [hrelease]
  rfl

theorem run_cancel_of_settled (hentered : w.registry.get? reference = some id)
    (hrelease : l.run (release id) (forgotten reference w) = (x, v)) (hx : ¬ Faulted x) :
    ∃ log, l.run (cancel reference) w = (x, { v with log }) := by
  replace hrelease : (release id).run l.serve (forgotten reference w) = (x, v) := hrelease
  have hforget : (Procedure.forget reference).run l.serve w = (some id, forgotten reference w) :=
    Prod.ext hentered rfl
  refine ⟨v.log ++ [.cancelled reference id], ?_⟩
  refine (Procedure.run_bind l.serve (Procedure.forget reference) _ w).trans ?_
  rw [hforget]
  refine (Procedure.run_bind l.serve (release id) _ _).trans ?_
  rw [hrelease]
  rcases x with (_ | _ | cause) | snapshot
  · rfl
  · rfl
  · exact absurd ⟨cause, rfl⟩ hx
  · rfl

/-- What a recorded cancellation releases in: the record and the reference are gone. -/
def withdrawn (l : Ledger σ) (reference : String) (w : World σ) : World σ :=
  forgotten reference (w.afterReply (l.remove reference w.state))

/-- **Cancelling** with a record: after a fault the record is put back too. -/
theorem run_cancelRecorded_of_faulted (hremove : (l.remove reference w.state).answer = .ok (some b))
    (hrelease : l.run (release b.offeringId) (withdrawn l reference w) = (x, v)) (hx : Faulted x) :
    ∃ log, l.run (cancelRecorded reference) w = (x, { v with
      state := (l.store b v.state).state, registry := v.registry.insert reference b.offeringId, log }) := by
  replace hrelease : (release b.offeringId).run l.serve (withdrawn l reference w) = (x, v) := hrelease
  have hremoved : (Procedure.remove reference).run l.serve w =
      (.ok (some b), w.afterReply (l.remove reference w.state)) := Prod.ext hremove rfl
  have hstored : ∀ y, (l.store b v.state).answer = y → (Procedure.store b).run l.serve v =
      (y, v.afterReply (l.store b v.state)) := fun y hy => Prod.ext hy rfl
  obtain ⟨cause, rfl⟩ := hx
  have hrun : l.run (cancelRecorded reference) w = _ :=
    Procedure.run_bind l.serve (Procedure.remove reference) _ w
  rw [hremoved] at hrun
  replace hrun := hrun.trans (Procedure.run_bind l.serve (release b.offeringId) _ (withdrawn l reference w))
  rw [hrelease] at hrun
  replace hrun := hrun.trans (Procedure.run_bind l.serve (Procedure.store b) _ v)
  -- whether the record can be put back makes a difference to the log alone
  cases hanswer : (l.store b v.state).answer with
  | error restore =>
      rw [hstored _ hanswer] at hrun
      exact ⟨_, hrun⟩
  | ok new =>
      rw [hstored _ hanswer] at hrun
      exact ⟨_, hrun⟩

theorem tried_of_cancelRecorded (hremove : (l.remove reference w.state).answer = .ok (some b))
    (hrelease : l.run (release b.offeringId) (withdrawn l reference w) = (x, v)) (hx : Faulted x) :
    (b, (l.store b v.state).answer) ∈ tries ((cancelRecorded reference).trail l.serve w) := by
  have hremoved : (Procedure.remove reference).run l.serve w =
      (.ok (some b), w.afterReply (l.remove reference w.state)) := Prod.ext hremove rfl
  obtain ⟨cause, rfl⟩ := hx
  refine List.mem_filterMap.mpr ⟨⟨.store b, (l.store b v.state).answer⟩, ?_, rfl⟩
  refine (Procedure.suffix_trail_bind (p := Procedure.remove reference) hremoved).mem ?_
  refine (Procedure.suffix_trail_bind (p := Procedure.forget reference) rfl).mem ?_
  refine (Procedure.suffix_trail_bind (p := release b.offeringId) hrelease).mem ?_
  exact List.mem_cons_self

theorem run_cancelRecorded_of_settled (hremove : (l.remove reference w.state).answer = .ok (some b))
    (hrelease : l.run (release b.offeringId) (withdrawn l reference w) = (x, v)) (hx : ¬ Faulted x) :
    ∃ log, l.run (cancelRecorded reference) w = (x, { v with log }) := by
  replace hrelease : (release b.offeringId).run l.serve (withdrawn l reference w) = (x, v) := hrelease
  have hremoved : (Procedure.remove reference).run l.serve w =
      (.ok (some b), w.afterReply (l.remove reference w.state)) := Prod.ext hremove rfl
  refine ⟨v.log ++ [.cancelled reference b.offeringId], ?_⟩
  refine (Procedure.run_bind l.serve (Procedure.remove reference) _ w).trans ?_
  rw [hremoved]
  refine (Procedure.run_bind l.serve (release b.offeringId) _ (withdrawn l reference w)).trans ?_
  rw [hrelease]
  rcases x with (_ | _ | cause) | snapshot
  · rfl
  · rfl
  · exact absurd ⟨cause, rfl⟩ hx
  · rfl

end Cancelling

end Desk

namespace Divided

variable {σ : Type} {D : Divided σ} {w v : World σ}

/-! ## Booking -/

/-- A plain and a recorded booking have come to the same, and besides the one who booked is recorded. -/
structure BookedAlike (D : Divided σ) (w v : World σ) (plain recorded : Except BookingError Booking × World σ) :
    Prop where
  result : plain.1.map Booking.timeless = recorded.1.map Booking.timeless
  matched : D.Matched plain.2 recorded.2
  unrecorded : D.record? plain.2.state = D.record? w.state
  added : ∀ b, recorded.1 = .ok b →
    D.record? recorded.2.state = Function.update (D.record? v.state) b.reference (some (D.kept b))
  failed : ∀ e, recorded.1 = .error e → D.record? recorded.2.state = D.record? v.state

/-- **Booking** with a record and without come to the same, if the reference is not stored yet and no attempt
    to store a record fails. -/
theorem booked_alike (h : D.Matched w v) {d : Desk} {now now' : Timestamp} {id : OfferingId} {holder : Holder}
    (hnew : ∀ b, (D.ledger.run (d.book now id holder) w).1 = .ok b → D.record? v.state b.reference = none)
    (hstores : ∀ t ∈ tries ((d.bookRecorded now' id holder).trail D.ledger.serve v), ∀ e, t.2 ≠ .error e) :
    D.BookedAlike w v (D.ledger.run (d.book now id holder) w)
      (D.ledger.run (d.bookRecorded now' id holder) v) := by
  obtain ⟨hresult, hreserved⟩ := run_onward (p := d.reserve id holder) (d.beside_reserve holder rfl rfl) h
  rcases hleft : D.ledger.run (d.reserve id holder) w with ⟨x, w₁⟩
  rcases hright : D.ledger.run (d.reserve id holder) v with ⟨y, v₁⟩
  rw [hleft, hright] at hresult hreserved
  rcases x with e | o <;> rcases y with e' | o'
  · -- no spot is taken on either side
    cases hresult
    rw [Desk.run_book_of_refused hleft, Desk.run_bookRecorded_of_refused hright]
    exact ⟨rfl, hreserved.matched, hreserved.records_left, nofun, fun _ _ => hreserved.records_right⟩
  · cases hresult
  · cases hresult
  · have hsame : o.timeless = o'.timeless := Except.ok.inj hresult
    obtain ⟨hreference, hissued⟩ := run_onward (Desk.beside_issue (M := (·.recorded = false)) rfl
      (fun _ _ => rfl) (fun _ _ => rfl) d hsame holder.firstName) hreserved.matched
    obtain ⟨hbooked, _, hafter⟩ := Desk.run_book_of_reserved now hleft
    obtain ⟨hrun, htrail⟩ := Desk.bookRecorded_of_reserved now' (congrArg Prod.fst hright)
    rcases hissue : D.ledger.run (d.issue o' holder.firstName) v₁ with ⟨reference, v₂⟩
    rw [hissue] at hreference hissued
    rw [hreference] at hbooked
    -- the first attempt to store it succeeds
    let b : Booking := ⟨reference, id, holder.firstName, now'⟩
    obtain ⟨n, hattempts⟩ : ∃ n, d.rule.attempts = n + 1 := Nat.exists_eq_add_of_le' (Nat.le_max_left _ _)
    have htried : (b, (D.ledger.store b v₂.state).answer) ∈
        tries ((d.bookRecorded now' id holder).trail D.ledger.serve v) := by
      rw [htrail, hright, hattempts, tries, List.filterMap_append]
      exact List.mem_append_right _ (Desk.tried_of_storeUnderFresh hissue)
    have honward := hreserved.trans hissued
    have hfresh : D.record? v₂.state reference = none := by
      rw [honward.records_right]
      exact hnew _ hbooked
    cases hanswer : (D.ledger.store b v₂.state).answer with
    | error e => exact absurd hanswer (hstores _ htried e)
    | ok new =>
        obtain ⟨hsame', hnewly, hrecord⟩ := D.stored honward.matched.same hanswer
        obtain rfl : new = true := hnewly.mpr hfresh
        obtain ⟨hstored, _, hafter'⟩ := Desk.run_storeUnderFresh_of_stored (n := n) hissue hanswer
        rw [hrun, hright, hattempts]
        refine ⟨by rw [hbooked, hstored]; rfl, ?_, ?_, ?_, ?_⟩
        · rw [hafter, hafter']
          exact ⟨hsame', honward.matched.registry_eq, honward.matched.generator_eq⟩
        · rw [hafter]
          exact honward.records_left
        · rintro _ hb
          obtain rfl : b = _ := Except.ok.inj (hstored.symm.trans hb)
          rw [hafter', ← honward.records_right]
          exact hrecord
        · rintro e he
          cases hstored.symm.trans he

/-! ## Cancelling -/

/-- A plain and a recorded cancellation have come to the same, and the record is there exactly if the reference
    is, which is after a fault of the release. -/
structure CancelledAlike (D : Divided σ) (reference : String) (b : Booking) (w v : World σ)
    (plain recorded : Except ReleaseError Snapshot × World σ) : Prop where
  result : plain.1 = recorded.1
  matched : D.Matched plain.2 recorded.2
  unrecorded : D.record? plain.2.state = D.record? w.state
  present : D.record? recorded.2.state reference ≠ none ↔ recorded.2.registry.get? reference ≠ none
  faulted : Desk.Faulted recorded.1 → recorded.2.registry.get? reference = some b.offeringId ∧
    D.record? recorded.2.state = Function.update (D.record? v.state) reference (some (D.kept b))
  settled : ¬ Desk.Faulted recorded.1 → recorded.2.registry.get? reference = none ∧
    D.record? recorded.2.state = Function.update (D.record? v.state) reference none

/-- **Cancelling** with a record and without come to the same, if the record is there and can be removed, and if
    it can be put back where it has to. -/
theorem cancelled_alike (h : D.Matched w v) {reference : String} {b : Booking}
    (hrecord : D.record? v.state reference = some b) (hreference : b.reference = reference)
    (hentered : w.registry.get? reference = some b.offeringId)
    (hremoves : ∀ e, (D.ledger.remove reference v.state).answer ≠ .error e)
    (hstores : ∀ t ∈ tries ((Desk.cancelRecorded reference).trail D.ledger.serve v), ∀ e, t.2 ≠ .error e) :
    D.CancelledAlike reference b w v (D.ledger.run (Desk.cancel reference) w)
      (D.ledger.run (Desk.cancelRecorded reference) v) := by
  obtain ⟨found, hremove⟩ : ∃ found, (D.ledger.remove reference v.state).answer = .ok found := by
    cases hanswer : (D.ledger.remove reference v.state).answer with
    | error e => exact absurd hanswer (hremoves e)
    | ok found => exact ⟨found, rfl⟩
  obtain ⟨hsame, rfl, hremoved⟩ := D.removed h.same hremove
  rw [hrecord] at hremove
  -- both release the same offering, the one with the record removed and the other with it
  have hmatched : D.Matched (Desk.forgotten reference w) (Desk.withdrawn D.ledger reference v) :=
    ⟨hsame, congrArg (·.erase reference) h.registry_eq, h.generator_eq⟩
  obtain ⟨hresult, hreleased⟩ :=
    run_onward (p := Desk.release b.offeringId) (Desk.beside_release rfl) hmatched
  obtain ⟨_, hworld⟩ := Desk.run_release D.ledger b.offeringId (Desk.withdrawn D.ledger reference v)
  rcases hleft : D.ledger.run (Desk.release b.offeringId) (Desk.forgotten reference w) with ⟨x, w₁⟩
  rcases hright : D.ledger.run (Desk.release b.offeringId) (Desk.withdrawn D.ledger reference v) with ⟨y, v₁⟩
  rw [hleft, hright] at hresult hreleased
  rw [hright] at hworld
  obtain rfl : x = y := hresult
  have hregistry : v₁.registry = v.registry.erase reference := congrArg World.registry hworld
  have hgone : D.record? v₁.state = Function.update (D.record? v.state) reference none :=
    hreleased.records_right.trans hremoved
  by_cases hx : Desk.Faulted x
  · -- the record is put back under its reference, which is free since it was removed
    have hplain := Desk.run_cancel_of_faulted hentered hleft hx
    obtain ⟨_, hrecorded⟩ := Desk.run_cancelRecorded_of_faulted hremove hright hx
    have htried := Desk.tried_of_cancelRecorded hremove hright hx
    obtain ⟨new, hanswer⟩ : ∃ new, (D.ledger.store b v₁.state).answer = .ok new := by
      cases hanswer : (D.ledger.store b v₁.state).answer with
      | error e => exact absurd hanswer (hstores _ htried e)
      | ok new => exact ⟨new, rfl⟩
    obtain ⟨hsame', hnewly, hrestored⟩ := D.stored hreleased.matched.same hanswer
    obtain rfl : new = true := hnewly.mpr (by rw [hgone, hreference, Function.update_self])
    have hback : D.record? (D.ledger.store b v₁.state).state =
        Function.update (D.record? v.state) reference (some (D.kept b)) := by
      rw [hrestored, if_pos rfl, hgone, hreference, Function.update_idem]
    have hin : (v₁.registry.insert reference b.offeringId).get? reference = some b.offeringId := by
      rw [Table.get?_insert, if_pos rfl]
    refine ⟨by rw [hplain, hrecorded], ?_, ?_, ?_, fun _ => ?_,
      fun hsettled => absurd (hrecorded ▸ hx) hsettled⟩
    · rw [hplain, hrecorded]
      exact ⟨hsame', congrArg (·.insert reference b.offeringId) hreleased.matched.registry_eq,
        hreleased.matched.generator_eq⟩
    · rw [hplain]
      exact hreleased.records_left
    · rw [hrecorded]
      simp only [hback, hin, Function.update_self, ne_eq, reduceCtorEq, not_false_eq_true]
    · rw [hrecorded]
      exact ⟨hin, hback⟩
  · obtain ⟨_, hplain⟩ := Desk.run_cancel_of_settled hentered hleft hx
    obtain ⟨_, hrecorded⟩ := Desk.run_cancelRecorded_of_settled hremove hright hx
    have hout : v₁.registry.get? reference = none := by
      rw [hregistry, Table.get?_erase, if_pos rfl]
    rw [hplain, hrecorded]
    refine ⟨rfl, ⟨hreleased.matched.same, hreleased.matched.registry_eq, hreleased.matched.generator_eq⟩,
      hreleased.records_left, ?_, fun hfaulted => absurd hfaulted hx, fun _ => ⟨hout, hgone⟩⟩
    show D.record? v₁.state reference ≠ none ↔ v₁.registry.get? reference ≠ none
    simp only [hgone, hout, Function.update_self, ne_eq, not_true_eq_false]

end Divided

/-! ## Agreement -/

/-- **The plain and the recorded operations agree** on every divided ledger. A booking with a record comes to
    the same as one without, and besides it stores the record it returns, if the reference that is issued is not
    in the records and no attempt to store fails. A cancellation comes to the same with the record of a reference
    in the registry as without, whether the spot is freed, the counter is at zero, the offering is unknown, or the
    release fails and the record can be put back: in short, whenever it can be removed, so that a spot is to be
    freed at all. -/
theorem recorded_agrees_with_plain {σ : Type} (D : Divided σ) {w v : World σ} (h : D.Matched w v) :
    (∀ (d : Desk) (now now' : Timestamp) (id : OfferingId) (holder : Holder),
      let plain := D.ledger.run (d.book now id holder) w
      (∀ b, plain.1 = .ok b → D.record? v.state b.reference = none) →
      (∀ t ∈ tries ((d.bookRecorded now' id holder).trail D.ledger.serve v), ∀ e, t.2 ≠ .error e) →
      D.BookedAlike w v plain (D.ledger.run (d.bookRecorded now' id holder) v)) ∧
    ∀ (reference : String) (b : Booking), D.record? v.state reference = some b → b.reference = reference →
      w.registry.get? reference = some b.offeringId →
      (∀ e, (D.ledger.remove reference v.state).answer ≠ .error e) →
      (∀ t ∈ tries ((Desk.cancelRecorded reference).trail D.ledger.serve v), ∀ e, t.2 ≠ .error e) →
      D.CancelledAlike reference b w v (D.ledger.run (Desk.cancel reference) w)
        (D.ledger.run (Desk.cancelRecorded reference) v) :=
  ⟨fun _ _ _ _ _ hnew hstores => Divided.booked_alike h hnew hstores,
    fun _ _ hrecord hreference hentered hremoves hstores =>
      Divided.cancelled_alike h hrecord hreference hentered hremoves hstores⟩

namespace OneReference

/-- The ledger in memory behind faults. -/
abbrev drill : Divided (Drill Memory) := Drill.divided Memory.divided default

/-- A world behind faults. -/
def drilled (faults : Faults) (w : World Memory) : World (Drill Memory) :=
  ⟨⟨faults, w.state⟩, w.registry, w.generator, w.now, w.log⟩

theorem matched_drilled (faults : Faults) (hcalm : faults.rivals = []) (w : World Memory) :
    drill.Matched (drilled faults w) (drilled faults w) :=
  .self (Drill.same_self w.state.same_self hcalm)

/-- The next release fails. -/
def failing : Faults := { queue := [(.release, lost)] }

/-- Ann cancels without a record, and with it. -/
def cancelling (faults : Faults) : (Except ReleaseError Snapshot × World (Drill Memory)) ×
    (Except ReleaseError Snapshot × World (Drill Memory)) :=
  (drill.ledger.run (Desk.cancel record.reference) (drilled faults booked),
    drill.ledger.run (Desk.cancelRecorded record.reference) (drilled faults booked))

end OneReference

open OneReference in
/-- Ann books with a record or without, and cancels either way, in the end when her spot cannot be freed. -/
theorem booked_and_cancelled_both_ways :
    drill.BookedAlike (drilled {} world) (drilled {} world)
        (drill.ledger.run (desk.book ⟨5, 0⟩ ⟨1⟩ ⟨"Ann", none⟩) (drilled {} world))
        (drill.ledger.run (desk.bookRecorded ⟨6, 0⟩ ⟨1⟩ ⟨"Ann", none⟩) (drilled {} world)) ∧
      drill.CancelledAlike record.reference record (drilled {} booked) (drilled {} booked) (cancelling {}).1
        (cancelling {}).2 ∧
      drill.CancelledAlike record.reference record (drilled failing booked) (drilled failing booked)
        (cancelling failing).1 (cancelling failing).2 ∧
      (cancelling {}).2.1.toBool = true ∧ errorOf? (cancelling failing).2.1 = some (.infrastructure lost) := by
  have hrecord : booked.state.records.get? record.reference = some record := by decide +kernel
  have hentered : booked.registry.get? record.reference = some record.offeringId := by decide +kernel
  have hbooked : ∀ t ∈ tries ((desk.bookRecorded ⟨6, 0⟩ ⟨1⟩ ⟨"Ann", none⟩).trail drill.ledger.serve
      (drilled {} world)), t.2.toBool = true := by decide +kernel
  have hfreed : ∀ t ∈ tries ((Desk.cancelRecorded record.reference).trail drill.ledger.serve
      (drilled {} booked)), t.2.toBool = true := by decide +kernel
  have hrestored : ∀ t ∈ tries ((Desk.cancelRecorded record.reference).trail drill.ledger.serve
      (drilled failing booked)), t.2.toBool = true := by decide +kernel
  have hnever : ∀ t : Booking × Except Failure Bool, t.2.toBool = true → ∀ e, t.2 ≠ .error e := by
    intro t htrue e herror
    rw [herror] at htrue
    cases htrue
  obtain ⟨hbooking, -⟩ := recorded_agrees_with_plain drill (matched_drilled {} rfl world)
  obtain ⟨-, hcancelling⟩ := recorded_agrees_with_plain drill (matched_drilled {} rfl booked)
  obtain ⟨-, hfailing⟩ := recorded_agrees_with_plain drill (matched_drilled failing rfl booked)
  refine ⟨hbooking desk _ _ _ _ (fun _ _ => rfl) fun t ht => hnever t (hbooked t ht), ?_, ?_, ?_, ?_⟩
  · exact hcancelling _ record hrecord rfl hentered nofun fun t ht => hnever t (hfreed t ht)
  · exact hfailing _ record hrecord rfl hentered nofun fun t ht => hnever t (hrestored t ht)
  · decide +kernel
  · decide +kernel

end DiveSchool
