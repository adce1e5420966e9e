import DiveSchool.Desk.Basic

/-!
# `DiveSchool.Proofs.Protocol` — procedures seen from outside

A procedure is a tree that nobody can look into while it runs: all that shows is which requests it makes
and how it ends. A `Protocol` is an observer of that. It carries a state along, says which requests may
come in that state, which answers it reckons with, and where an answer takes it. `Procedure.Follows`
says that a procedure keeps to a protocol whatever it is answered, so it can be proved of the program
alone and used in every interleaving.

## Contents
- **Protocols.** `Protocol`, `Procedure.Follows` and its rules, one per way to build a procedure.
- **Asides.** `Protocol.Ignores`: requests that do not concern a protocol drop out of it.
- **Reserving and releasing.** `Desk.judge`, `Desk.settle` and `Desk.freed` are the decisions of an
  operation without its requests; `follows_reserve` and `follows_release` say that nothing else matters.
- **Operations.** One rule for each operation of the desk, and what is left of it for an observer who
  looks at offerings and records only.
-/

namespace DiveSchool

/-! ## Protocols -/

/-- An observer of the requests of a procedure and of the answers to them. -/
structure Protocol (S : Type) where
  /-- The state before the first request. -/
  start : S
  /-- The requests that may come. -/
  may : S → Request → Prop
  /-- The answers that are reckoned with. -/
  heard : S → (r : Request) → r.Answer → Prop
  /-- The state after an answer. -/
  next : S → (r : Request) → r.Answer → S

namespace Procedure

variable {S α β : Type} {P : Protocol S} {s : S}

/-- A procedure keeps to a protocol from a state on and ends in a result that `Q` accepts. -/
def Follows (P : Protocol S) (Q : S → α → Prop) : S → Procedure α → Prop
  | s, done a => Q s a
  | s, step r next => P.may s r ∧ ∀ x, P.heard s r x → Follows P Q (P.next s r x) (next x)

theorem follows_step {Q : S → α → Prop} {r : Request} {next : r.Answer → Procedure α} :
    (step r next).Follows P Q s ↔
      P.may s r ∧ ∀ x, P.heard s r x → (next x).Follows P Q (P.next s r x) := Iff.rfl

theorem follows_ask {r : Request} {Q : S → r.Answer → Prop} :
    (ask r).Follows P Q s ↔ P.may s r ∧ ∀ x, P.heard s r x → Q (P.next s r x) x := Iff.rfl

theorem follows_bind {Q : S → β → Prop} {p : Procedure α} {f : α → Procedure β} :
    (p >>= f).Follows P Q s ↔ p.Follows P (fun s a => (f a).Follows P Q s) s := by
  induction p generalizing s with
  | done a => exact Iff.rfl
  | step r next ih =>
      rw [step_bind, follows_step, follows_step]
      exact and_congr_right fun _ => forall_congr' fun x => imp_congr_right fun _ => ih x

theorem Follows.mono {Q Q' : S → α → Prop} {p : Procedure α} (hp : p.Follows P Q s)
    (h : ∀ s a, Q s a → Q' s a) : p.Follows P Q' s := by
  induction p generalizing s with
  | done a => exact h s a hp
  | step r next ih => exact ⟨hp.1, fun x hx => ih x (hp.2 x hx)⟩

/-- A protocol that forbids nothing is followed if every result is accepted. -/
theorem follows_of_forall {Q : S → α → Prop} {p : Procedure α} (hmay : ∀ s r, P.may s r)
    (hQ : ∀ s a, Q s a) : p.Follows P Q s := by
  induction p generalizing s with
  | done a => exact hQ s a
  | step r next ih => exact ⟨hmay s r, fun x _ => ih x⟩

/-- What no request undoes, no procedure undoes. -/
theorem spoilt_run {ω : Type} {handle : (r : Request) → ω → r.Answer × ω} {Spoilt : ω → Prop}
    (hspoilt : ∀ r w, Spoilt w → Spoilt (handle r w).2) (p : Procedure α) {w : ω} (hw : Spoilt w) :
    Spoilt (p.run handle w).2 := by
  induction p generalizing w with
  | done a => exact hw
  | step r next ih => exact ih _ (hspoilt r w hw)

/-- **A procedure that runs alone** passes through the states of a protocol, if the handler gives answers
    that the protocol reckons with and `R` ties its states to the worlds of the handler, unless something
    happens that can never be undone. -/
theorem Follows.run_unless {ω : Type} {handle : (r : Request) → ω → r.Answer × ω} {R : S → ω → Prop}
    {Spoilt : ω → Prop} (hspoilt : ∀ r w, Spoilt w → Spoilt (handle r w).2)
    (hserve : ∀ s w r, R s w → P.may s r → Spoilt (handle r w).2 ∨
      (P.heard s r (handle r w).1 ∧ R (P.next s r (handle r w).1) (handle r w).2))
    {Q : S → α → Prop} {p : Procedure α} (hp : p.Follows P Q s) {w : ω} (hR : R s w) :
    Spoilt (p.run handle w).2 ∨ ∃ s', Q s' (p.run handle w).1 ∧ R s' (p.run handle w).2 := by
  induction p generalizing s w with
  | done a => exact .inr ⟨s, hp, hR⟩
  | step r next ih =>
      rcases hserve s w r hR hp.1 with hbad | ⟨hheard, hR'⟩
      · exact .inl (spoilt_run hspoilt (next _) hbad)
      · exact ih _ (hp.2 _ hheard) hR'

theorem Follows.run {ω : Type} {handle : (r : Request) → ω → r.Answer × ω} {R : S → ω → Prop}
    (hserve : ∀ s w r, R s w → P.may s r →
      P.heard s r (handle r w).1 ∧ R (P.next s r (handle r w).1) (handle r w).2)
    {Q : S → α → Prop} {p : Procedure α} (hp : p.Follows P Q s) {w : ω} (hR : R s w) :
    ∃ s', Q s' (p.run handle w).1 ∧ R s' (p.run handle w).2 := by
  have hnever : ∀ r w, False → (fun _ : ω => False) (handle r w).2 := fun _ _ h => h
  rcases hp.run_unless hnever (fun s w r hR hmay => .inr (hserve s w r hR hmay)) hR with h | h
  · exact h.elim
  · exact h

end Procedure

/-! ## Asides -/

namespace Protocol

variable {S : Type} {P : Protocol S} {s : S}

/-- A request that may always come and changes nothing. -/
def Ignores (P : Protocol S) (r : Request) : Prop := ∀ s, P.may s r ∧ ∀ x, P.next s r x = s

/-- Only offerings and records matter: draws, the registry of references and the log do not. -/
structure LedgerOnly (P : Protocol S) : Prop where
  draw : P.Ignores .draw
  claim : ∀ reference id, P.Ignores (.claim reference id)
  enter : ∀ reference id, P.Ignores (.enter reference id)
  forget : ∀ reference, P.Ignores (.forget reference)
  log : ∀ event, P.Ignores (.log event)

theorem Ignores.follows {r : Request} (h : P.Ignores r) {Q : S → r.Answer → Prop}
    (hQ : ∀ x, Q s x) : (Procedure.ask r).Follows P Q s := by
  refine ⟨(h s).1, fun x _ => ?_⟩
  rw [(h s).2 x]
  exact hQ x

/-- An ignored first request may be left out. -/
theorem Ignores.follows_bind {α : Type} {r : Request} (h : P.Ignores r) {Q : S → α → Prop}
    {f : r.Answer → Procedure α} (hf : ∀ x, (f x).Follows P Q s) :
    (Procedure.ask r >>= f).Follows P Q s :=
  Procedure.follows_bind.mpr (h.follows hf)

end Protocol

/-! ## Reserving and releasing -/

namespace Desk

open Procedure

/-- What the checks on an offering as it was found come to. -/
def judge (d : Desk) (id : OfferingId) (holder : Holder) :
    Except Failure (Option Offering) → Except BookingError Unit
  | .error cause => .error (.infrastructure cause)
  | .ok none => .error (.notFound (Offering.unknown id).message)
  | .ok (some o) =>
    if !o.status.acceptsBookings then .error (.notBookable o.status)
    else if o.isFull then .error .capacityExceeded
    else if !(d.strategy.validate holder.level o).valid then
      .error (.ineligible (d.strategy.validate holder.level o).message)
    else .ok ()

/-- What the attempt to take a spot comes to. -/
def settle (id : OfferingId) : Except Failure Reservation → Except BookingError Offering
  | .error cause => .error (.infrastructure cause)
  | .ok (.reserved o) => .ok o
  | .ok (.full _) => .error .capacityExceeded
  | .ok (.notBookable o) => .error (.notBookable o.status)
  | .ok .notFound => .error (.notFound (Offering.unknown id).message)

/-- What the attempt to free a spot comes to. -/
def freed (id : OfferingId) : Except Failure Freeing → Except ReleaseError Snapshot
  | .error cause => .error (.infrastructure cause)
  | .ok (.released o) => .ok o.snapshot
  | .ok (.empty _) => .error .nothingToRelease
  | .ok .notFound => .error (.notFound (Offering.unknown id).message)

/-- A favourable judgement: the offering was there, open, not full, and the holder eligible for it. -/
theorem of_judge_eq_ok {d : Desk} {id : OfferingId} {holder : Holder}
    {x : Except Failure (Option Offering)} (h : d.judge id holder x = .ok ()) :
    ∃ o, x = .ok (some o) ∧ o.status = .published ∧ o.isFull = false ∧
      (d.strategy.validate holder.level o).valid = true := by
  rcases x with cause | (_ | o)
  · cases h
  · cases h
  · simp only [judge] at h
    split at h
    · cases h
    · next hopen =>
        split at h
        · cases h
        · next hfree =>
            split at h
            · cases h
            · next hvalid =>
                refine ⟨o, rfl, ?_, by simpa using hfree, by simpa using hvalid⟩
                simpa [Status.acceptsBookings] using hopen

variable {S : Type} {P : Protocol S} {s : S}

theorem follows_checkEligibility (hlog : ∀ event, P.Ignores (.log event)) {d : Desk}
    {level : Option Level} {o : Offering} {Q : S → Verdict → Prop}
    (hQ : Q s (d.strategy.validate level o)) : (d.checkEligibility level o).Follows P Q s := by
  unfold checkEligibility
  split
  · exact (hlog _).follows_bind fun _ => hQ
  · exact hQ

/-- **Reserving** is one look-up, one judgement and, if that is favourable, one attempt. -/
theorem follows_reserve (hlog : ∀ event, P.Ignores (.log event)) {d : Desk} {id : OfferingId}
    {holder : Holder} {Q : S → Except BookingError Offering → Prop}
    (hfind : P.may s (.find id))
    (hrefused : ∀ x e, P.heard s (.find id) x → d.judge id holder x = .error e →
        Q (P.next s (.find id) x) (.error e))
    (hreserve : ∀ x, P.heard s (.find id) x → d.judge id holder x = .ok () →
        P.may (P.next s (.find id) x) (.reserve id) ∧
        ∀ y, P.heard (P.next s (.find id) x) (.reserve id) y →
          Q (P.next (P.next s (.find id) x) (.reserve id) y) (settle id y)) :
    (d.reserve id holder).Follows P Q s := by
  unfold reserve
  refine follows_bind.mpr (follows_ask.mpr ⟨hfind, ?_⟩)
  rintro (cause | (_ | o)) hx
  · exact (hlog _).follows_bind fun _ => hrefused _ _ hx rfl
  · exact hrefused _ _ hx rfl
  · have hr := fun e => hrefused (.ok (some o)) e hx
    have hs := hreserve (.ok (some o)) hx
    simp only [judge] at hr hs
    -- the desk and `judge` make the same checks in the same order, so they are decided together
    by_cases h₁ : (!o.status.acceptsBookings) = true
    · simp only [h₁, if_true] at hr ⊢
      exact (hlog _).follows_bind fun _ => hr _ rfl
    · by_cases h₂ : o.isFull = true
      · simp only [h₁, h₂, if_true] at hr ⊢
        exact (hlog _).follows_bind fun _ => hr _ rfl
      · simp only [h₁, h₂] at hr hs ⊢
        refine follows_bind.mpr (follows_checkEligibility hlog ?_)
        by_cases h₃ : (!(d.strategy.validate holder.level o).valid) = true
        · simp only [h₃, if_true] at hr ⊢
          exact (hlog _).follows_bind fun _ => hr _ rfl
        · simp only [h₃] at hs ⊢
          -- all checks have passed, and the spot is asked for
          obtain ⟨hmay, hsettle⟩ := hs rfl
          refine follows_bind.mpr (follows_ask.mpr ⟨hmay, ?_⟩)
          rintro (cause | (_ | _ | _ | _)) hy
          · exact (hlog _).follows_bind fun _ => hsettle _ hy
          · exact hsettle _ hy
          · exact (hlog _).follows_bind fun _ => hsettle _ hy
          · exact (hlog _).follows_bind fun _ => hsettle _ hy
          · exact hsettle _ hy

/-- **Releasing** is one attempt. -/
theorem follows_release (hlog : ∀ event, P.Ignores (.log event)) {id : OfferingId}
    {Q : S → Except ReleaseError Snapshot → Prop} (hmay : P.may s (.release id))
    (hQ : ∀ x, P.heard s (.release id) x → Q (P.next s (.release id) x) (freed id x)) :
    (release id).Follows P Q s := by
  unfold release
  refine follows_bind.mpr (follows_ask.mpr ⟨hmay, ?_⟩)
  rintro (cause | (_ | _ | _)) hx
  · exact (hlog _).follows_bind fun _ => hQ _ hx
  · exact (hlog _).follows_bind fun _ => hQ _ hx
  · exact (hlog _).follows_bind fun _ => hQ _ hx
  · exact hQ _ hx

/-! ## Operations -/

theorem claimOrRedraw_rule (hdraw : P.Ignores .draw) (hlog : ∀ event, P.Ignores (.log event))
    {o : Offering} {firstName : String} {attempts left : Nat} {candidate : String} {Q : S → String → Prop}
    (hclaim : ∀ reference, P.may s (.claim reference o.id) ∧
      (P.heard s (.claim reference o.id) true → Q (P.next s (.claim reference o.id) true) reference) ∧
      (P.heard s (.claim reference o.id) false → P.next s (.claim reference o.id) false = s))
    (hexhausted : ∀ reference, P.heard s (.log (.redrawsExhausted reference attempts o.id)) () →
      (ask (.enter reference o.id)).Follows P (fun s _ => Q s reference) s) :
    (claimOrRedraw o firstName attempts left candidate).Follows P Q s := by
  -- every draw and every claim in vain leaves `s` alone, so it is the same for all candidates
  induction left generalizing candidate with
  | zero =>
      unfold claimOrRedraw
      refine Procedure.follows_bind.mpr ⟨(hlog _ s).1, fun x hx => ?_⟩
      rw [(hlog _ s).2 x]
      exact Procedure.follows_bind.mpr (hexhausted candidate hx)
  | succ left ih =>
      unfold claimOrRedraw
      obtain ⟨hmay, hmine, htaken⟩ := hclaim candidate
      refine Procedure.follows_bind.mpr ⟨hmay, ?_⟩
      rintro (_ | _) hx
      · -- the candidate is taken
        rw [htaken hx]
        by_cases h : left = 0
        · simp only [h, if_true]
          exact h ▸ ih
        · simp only [h, if_false]
          exact hdraw.follows_bind fun _ => ih
      · by_cases h : left + 1 < attempts
        · simp only [h, if_true]
          exact (hlog _).follows_bind fun _ => hmine hx
        · simp only [h, if_false]
          exact hmine hx

/-- **Issuing** a reference claims the first that is free. It is entered whatever is there when references
    need not be unique, or when the draws are exhausted. -/
theorem issue_rule (hdraw : P.Ignores .draw) (hlog : ∀ event, P.Ignores (.log event)) {d : Desk}
    {o : Offering} {firstName : String} {Q : S → String → Prop}
    (hclaim : ∀ reference, P.may s (.claim reference o.id) ∧
      (P.heard s (.claim reference o.id) true → Q (P.next s (.claim reference o.id) true) reference) ∧
      (P.heard s (.claim reference o.id) false → P.next s (.claim reference o.id) false = s))
    (henter : ∀ reference, (d.rule.unique = true →
        P.heard s (.log (.redrawsExhausted reference d.rule.attempts o.id)) ()) →
      (ask (.enter reference o.id)).Follows P (fun s _ => Q s reference) s) :
    (d.issue o firstName).Follows P Q s := by
  unfold issue
  refine hdraw.follows_bind fun suffix => ?_
  split
  · exact claimOrRedraw_rule hdraw hlog hclaim fun reference hx => henter reference fun _ => hx
  · next hshared => exact Procedure.follows_bind.mpr (henter _ fun hunique => absurd hunique hshared)

/-- For an observer of the ledger, issuing is nothing at all. -/
theorem follows_issue (hP : P.LedgerOnly) {d : Desk} {o : Offering} {firstName : String}
    {Q : S → String → Prop} (hQ : ∀ reference, Q s reference) :
    (d.issue o firstName).Follows P Q s := by
  refine issue_rule hP.draw hP.log (fun reference => ⟨(hP.claim reference o.id s).1, ?_, ?_⟩) ?_
  · intro _
    rw [(hP.claim reference o.id s).2 true]
    exact hQ reference
  · intro _
    exact (hP.claim reference o.id s).2 false
  · intro reference _
    exact (hP.enter reference o.id).follows fun _ => hQ reference

/-- **Booking** reserves, then issues. -/
theorem book_rule (hlog : ∀ event, P.Ignores (.log event)) {d : Desk} {now : Timestamp}
    {id : OfferingId} {holder : Holder} {Q : S → Except BookingError Booking → Prop}
    (h : (d.reserve id holder).Follows P (fun s x => match x with
      | .error e => Q s (.error e)
      | .ok o => (d.issue o holder.firstName).Follows P
          (fun s reference => Q s (.ok ⟨reference, id, holder.firstName, now⟩)) s) s) :
    (d.book now id holder).Follows P Q s := by
  refine follows_bind.mpr (h.mono ?_)
  rintro s (e | o) hQ
  · exact hQ
  · refine follows_bind.mpr (hQ.mono fun s reference hQ => ?_)
    exact (hlog _).follows_bind fun _ => hQ

/-- For an observer of the ledger, booking is reserving. -/
theorem follows_book (hP : P.LedgerOnly) {d : Desk} {now : Timestamp} {id : OfferingId}
    {holder : Holder} {Q : S → Except BookingError Booking → Prop}
    (h : (d.reserve id holder).Follows P (fun s x => match x with
      | .error e => Q s (.error e)
      | .ok _ => ∀ reference, Q s (.ok ⟨reference, id, holder.firstName, now⟩)) s) :
    (d.book now id holder).Follows P Q s := by
  refine book_rule hP.log (h.mono ?_)
  rintro s (e | o) hQ
  · exact hQ
  · exact follows_issue hP hQ

/-- **Undoing** a booking is one attempt to free its spot; the answer is the cause in any case. -/
theorem follows_undo (hlog : ∀ event, P.Ignores (.log event)) {id : OfferingId} {cause : Failure}
    {Q : S → BookingError → Prop} (hmay : P.may s (.release id))
    (hQ : ∀ x, P.heard s (.release id) x → Q (P.next s (.release id) x) (.infrastructure cause)) :
    (undo id cause).Follows P Q s := by
  refine follows_bind.mpr (follows_ask.mpr ⟨hmay, ?_⟩)
  rintro (rollback | (_ | _ | _)) hx <;> exact (hlog _).follows_bind fun _ => hQ _ hx

/-- **Storing** under a fresh reference: `J` holds while the spot is booked without a record, and `K` while
    a reference is issued without one. -/
theorem storeUnderFresh_rule (hlog : ∀ event, P.Ignores (.log event)) {d : Desk} {now : Timestamp}
    {id : OfferingId} {holder : Holder} {o : Offering} {left : Nat}
    {Q : S → Except BookingError Booking → Prop} (J : S → Prop) (K : S → String → Prop) (hJ : J s)
    (hissue : ∀ s, J s → (d.issue o holder.firstName).Follows P K s)
    (hstore : ∀ s reference, K s reference →
      P.may s (.store ⟨reference, id, holder.firstName, now⟩) ∧
      ∀ x, P.heard s (.store ⟨reference, id, holder.firstName, now⟩) x → match x with
        | .ok true => Q (P.next s (.store ⟨reference, id, holder.firstName, now⟩) x)
            (.ok ⟨reference, id, holder.firstName, now⟩)
        | _ => (ask (.forget reference)).Follows P (fun s _ => J s)
            (P.next s (.store ⟨reference, id, holder.firstName, now⟩) x))
    (hundo : ∀ s cause, J s → P.may s (.release id) ∧ ∀ x, P.heard s (.release id) x →
        Q (P.next s (.release id) x) (.error (.infrastructure cause))) :
    (d.storeUnderFresh now id holder o left).Follows P Q s := by
  -- on the attempts left, with `J` as the invariant of the loop
  induction left generalizing s with
  | zero =>
      -- no reference was free, and the spot goes back
      obtain ⟨hrelease, hQ⟩ := hundo s (noReferenceLeft d.rule.attempts) hJ
      exact follows_bind.mpr (follows_undo hlog hrelease hQ)
  | succ left ih =>
      refine follows_bind.mpr ((hissue s hJ).mono fun s reference hK => ?_)
      obtain ⟨hmay, hstored⟩ := hstore s reference hK
      refine follows_bind.mpr (follows_ask.mpr ⟨hmay, ?_⟩)
      rintro (cause | (_ | _)) hx
      · refine follows_bind.mpr ((hstored _ hx).mono fun s _ hJ => ?_)
        obtain ⟨hrelease, hQ⟩ := hundo s cause hJ
        exact follows_bind.mpr (follows_undo hlog hrelease hQ)
      · refine follows_bind.mpr ((hstored _ hx).mono fun s _ hJ => ?_)
        exact (hlog _).follows_bind fun _ => ih hJ
      · exact (hlog _).follows_bind fun _ => hstored _ hx

/-- For an observer of the ledger, `J` is kept by every record that could not be stored and ends with the
    record or with the spot. -/
theorem follows_storeUnderFresh (hP : P.LedgerOnly) {d : Desk} {now : Timestamp} {id : OfferingId}
    {holder : Holder} {o : Offering} {left : Nat} {Q : S → Except BookingError Booking → Prop}
    (J : S → Prop) (hJ : J s)
    (hmay : ∀ s reference, J s → P.may s (.store ⟨reference, id, holder.firstName, now⟩))
    (hstored : ∀ s reference, J s →
        P.heard s (.store ⟨reference, id, holder.firstName, now⟩) (.ok true) →
        Q (P.next s (.store ⟨reference, id, holder.firstName, now⟩) (.ok true))
          (.ok ⟨reference, id, holder.firstName, now⟩))
    (hrefused : ∀ s reference x, J s → P.heard s (.store ⟨reference, id, holder.firstName, now⟩) x →
        x ≠ .ok true → J (P.next s (.store ⟨reference, id, holder.firstName, now⟩) x))
    (hundo : ∀ s cause, J s → P.may s (.release id) ∧ ∀ x, P.heard s (.release id) x →
        Q (P.next s (.release id) x) (.error (.infrastructure cause))) :
    (d.storeUnderFresh now id holder o left).Follows P Q s := by
  refine storeUnderFresh_rule hP.log J (fun s _ => J s) hJ ?_ ?_ hundo
  · intro s hJ
    exact follows_issue hP fun _ => hJ
  · intro s reference hJ
    refine ⟨hmay s reference hJ, ?_⟩
    rintro (cause | (_ | _)) hx
    · exact (hP.forget _).follows fun _ => hrefused s reference _ hJ hx nofun
    · exact (hP.forget _).follows fun _ => hrefused s reference _ hJ hx nofun
    · exact hstored s reference hJ hx

/-- **Cancelling** a stored booking takes the record out and the reference, then frees the spot, and puts
    both back if that fails. -/
theorem cancelRecorded_rule (hlog : ∀ event, P.Ignores (.log event)) {reference : String}
    {Q : S → Except ReleaseError Snapshot → Prop} (hmay : P.may s (.remove reference))
    (herror : ∀ cause, P.heard s (.remove reference) (.error cause) →
        Q (P.next s (.remove reference) (.error cause)) (.error (.infrastructure cause)))
    (habsent : P.heard s (.remove reference) (.ok none) →
        Q (P.next s (.remove reference) (.ok none)) (.error (.notFound (Booking.unknown reference))))
    (hremoved : ∀ b, P.heard s (.remove reference) (.ok (some b)) →
        (ask (.forget reference)).Follows P (fun s _ => P.may s (.release b.offeringId) ∧
          ∀ x, P.heard s (.release b.offeringId) x → match x with
            | .error cause => (ask (.store b)).Follows P
                (fun s _ => (ask (.enter reference b.offeringId)).Follows P
                  (fun s _ => Q s (.error (.infrastructure cause))) s)
                (P.next s (.release b.offeringId) x)
            | .ok _ => Q (P.next s (.release b.offeringId) x) (freed b.offeringId x))
          (P.next s (.remove reference) (.ok (some b)))) :
    (cancelRecorded reference).Follows P Q s := by
  refine follows_bind.mpr (follows_ask.mpr ⟨hmay, ?_⟩)
  rintro (cause | (_ | b)) hx
  · exact (hlog _).follows_bind fun _ => herror cause hx
  · exact habsent hx
  · refine follows_bind.mpr ((hremoved b hx).mono fun s _ ⟨hrelease, hx⟩ => ?_)
    refine follows_bind.mpr (follows_release hlog hrelease ?_)
    rintro (cause | (_ | _ | _)) hy
    · -- the spot could not be freed, so the record is put back
      refine follows_bind.mpr ((hx _ hy).mono fun s answer henter => ?_)
      rcases answer with restore | stored
      · exact (hlog _).follows_bind fun _ => follows_bind.mpr henter
      · exact follows_bind.mpr henter
    · exact (hlog _).follows_bind fun _ => hx _ hy
    · exact (hlog _).follows_bind fun _ => hx _ hy
    · exact (hlog _).follows_bind fun _ => hx _ hy

/-- For an observer of the ledger, only the record and the spot go and come back. -/
theorem follows_cancelRecorded (hP : P.LedgerOnly) {reference : String}
    {Q : S → Except ReleaseError Snapshot → Prop} (hmay : P.may s (.remove reference))
    (herror : ∀ cause, P.heard s (.remove reference) (.error cause) →
        Q (P.next s (.remove reference) (.error cause)) (.error (.infrastructure cause)))
    (habsent : P.heard s (.remove reference) (.ok none) →
        Q (P.next s (.remove reference) (.ok none)) (.error (.notFound (Booking.unknown reference))))
    (hremoved : ∀ b, P.heard s (.remove reference) (.ok (some b)) →
        P.may (P.next s (.remove reference) (.ok (some b))) (.release b.offeringId) ∧
        ∀ x, P.heard (P.next s (.remove reference) (.ok (some b))) (.release b.offeringId) x →
          match x with
          | .error cause =>
            (ask (.store b)).Follows P (fun s _ => Q s (.error (.infrastructure cause)))
              (P.next (P.next s (.remove reference) (.ok (some b))) (.release b.offeringId) x)
          | .ok _ =>
            Q (P.next (P.next s (.remove reference) (.ok (some b))) (.release b.offeringId) x)
              (freed b.offeringId x)) :
    (cancelRecorded reference).Follows P Q s := by
  refine cancelRecorded_rule hP.log hmay herror habsent fun b hx => ?_
  obtain ⟨hrelease, hfreed⟩ := hremoved b hx
  refine (hP.forget _).follows fun _ => ⟨hrelease, ?_⟩
  rintro (cause | x) hy
  · exact (hfreed _ hy).mono fun s _ hQ => (hP.enter _ _).follows fun _ => hQ
  · exact hfreed _ hy

/-- **Cancelling** by the registry takes the reference out and frees a spot of the offering entered there,
    and puts the reference back if that fails. -/
theorem cancel_rule (hlog : ∀ event, P.Ignores (.log event)) {reference : String}
    {Q : S → Except ReleaseError Snapshot → Prop} (hmay : P.may s (.forget reference))
    (habsent : P.heard s (.forget reference) none →
        Q (P.next s (.forget reference) none) (.error (.notFound (Booking.unknown reference))))
    (hentered : ∀ id, P.heard s (.forget reference) (some id) →
        P.may (P.next s (.forget reference) (some id)) (.release id) ∧
        ∀ x, P.heard (P.next s (.forget reference) (some id)) (.release id) x → match x with
          | .error cause => (ask (.enter reference id)).Follows P
              (fun s _ => Q s (.error (.infrastructure cause)))
              (P.next (P.next s (.forget reference) (some id)) (.release id) x)
          | .ok _ => Q (P.next (P.next s (.forget reference) (some id)) (.release id) x) (freed id x)) :
    (cancel reference).Follows P Q s := by
  refine follows_bind.mpr (follows_ask.mpr ⟨hmay, ?_⟩)
  rintro (_ | id) hx
  · exact habsent hx
  · obtain ⟨hrelease, hfreed⟩ := hentered id hx
    refine follows_bind.mpr (follows_release hlog hrelease ?_)
    rintro (cause | (_ | _ | _)) hy
    · exact follows_bind.mpr (hfreed _ hy)
    · exact (hlog _).follows_bind fun _ => hfreed _ hy
    · exact (hlog _).follows_bind fun _ => hfreed _ hy
    · exact (hlog _).follows_bind fun _ => hfreed _ hy

/-- For an observer of the ledger, a spot of some offering is freed, whichever was entered. -/
theorem follows_cancel (hP : P.LedgerOnly) {reference : String}
    {Q : S → Except ReleaseError Snapshot → Prop}
    (habsent : Q s (.error (.notFound (Booking.unknown reference))))
    (hentered : ∀ id, P.may s (.release id) ∧
        ∀ x, P.heard s (.release id) x → Q (P.next s (.release id) x) (freed id x)) :
    (cancel reference).Follows P Q s := by
  have hforget := hP.forget reference s
  refine cancel_rule hP.log hforget.1 (fun _ => ?_) (fun id _ => ?_)
  · rw [hforget.2 none]
    exact habsent
  · rw [hforget.2 (some id)]
    refine ⟨(hentered id).1, ?_⟩
    rintro (cause | x) hx
    · exact (hP.enter _ _).follows fun _ => (hentered id).2 _ hx
    · exact (hentered id).2 _ hx

/-- The **availability** is what one look-up shows. -/
theorem follows_availability {id : OfferingId} {Q : S → Except Failure Snapshot → Prop}
    (hmay : P.may s (.find id))
    (hQ : ∀ x, P.heard s (.find id) x → Q (P.next s (.find id) x) (match x with
      | .error cause => .error cause
      | .ok none => .error (Offering.unknown id)
      | .ok (some o) => .ok o.snapshot)) :
    (availability id).Follows P Q s := by
  refine follows_bind.mpr (follows_ask.mpr ⟨hmay, ?_⟩)
  rintro (cause | (_ | o)) hx <;> exact hQ _ hx

end Desk

end DiveSchool
