import DiveSchool.Proofs.Traffic
import DiveSchool.Proofs.Row

/-!
# `DiveSchool.Proofs.Beside` — two procedures side by side

Two runs that start in different worlds can be compared step by step as long as both make the same request
and hear answers that are alike. `Procedure.Beside` says this of two procedures, whatever the answers are,
up to a point where what is left of them is related by `R`; whatever two worlds have in common and every
request keeps is then still common to both when they have run. The desk makes the same requests for
offerings that differ in their moments alone, and it comes to the same results.

## Contents
- **Side by side.** `Procedure.Beside` and its rules, one per way to build a procedure.
- **Running.** `Beside.run`: two worlds, two handlers, one relation between them.
- **Alike answers.** `Request.Alike`: offerings are alike up to their moments.
- **Operations.** One rule for each operation of the desk.
-/

namespace DiveSchool

/-! ## Side by side -/

namespace Procedure

variable {α β γ δ : Type} {M : Request → Prop} {A : (r : Request) → r.Answer → r.Answer → Prop}

/-- Two procedures make requests out of `M`, the same on both sides, as long as they are answered as `A`
    has it, until `R` relates what is left of them. What they write to the log may differ. -/
inductive Beside (M : Request → Prop) (A : (r : Request) → r.Answer → r.Answer → Prop)
    (R : Procedure α → Procedure β → Prop) : Procedure α → Procedure β → Prop
  | rest {p : Procedure α} {q : Procedure β} (h : R p q) : Beside M A R p q
  | step {r : Request} {next : r.Answer → Procedure α} {next' : r.Answer → Procedure β} (hr : M r)
      (h : ∀ x y, A r x y → Beside M A R (next x) (next' y)) : Beside M A R (step r next) (step r next')
  | log {e e' : Event} {next : Unit → Procedure α} {next' : Unit → Procedure β}
      (h : Beside M A R (next ()) (next' ())) :
      Beside M A R (step (.log e) next) (step (.log e') next')

/-- Nothing is left on either side, and the results are related. -/
inductive Both (Q : α → β → Prop) : Procedure α → Procedure β → Prop
  | done {a : α} {b : β} (h : Q a b) : Both Q (done a) (done b)

theorem beside_done {Q : α → β → Prop} {a : α} {b : β} (h : Q a b) :
    (done a).Beside M A (Both Q) (done b) := .rest (.done h)

/-- What follows on both sides is compared from where the first procedures are no longer side by side. -/
theorem Beside.append {R : Procedure α → Procedure β → Prop} {R' : Procedure γ → Procedure δ → Prop}
    {p : Procedure α} {q : Procedure β} {f : α → Procedure γ} {g : β → Procedure δ}
    (h : p.Beside M A R q) (hR : ∀ p q, R p q → (p >>= f).Beside M A R' (q >>= g)) :
    (p >>= f).Beside M A R' (q >>= g) := by
  induction h with
  | rest h => exact hR _ _ h
  | step hr _ ih => exact .step hr ih
  | log _ ih => exact .log ih

/-- **One procedure after another**: the second ones are compared on related results of the first. -/
theorem Beside.bind {Q : α → β → Prop} {R : Procedure γ → Procedure δ → Prop} {p : Procedure α}
    {q : Procedure β} {f : α → Procedure γ} {g : β → Procedure δ} (h : p.Beside M A (Both Q) q)
    (hf : ∀ a b, Q a b → (f a).Beside M A R (g b)) : (p >>= f).Beside M A R (q >>= g) :=
  h.append fun _ _ ⟨hQ⟩ => hf _ _ hQ

/-- One request on both sides, and what follows alike answers. -/
theorem beside_ask_bind {R : Procedure γ → Procedure δ → Prop} {r : Request} {f : r.Answer → Procedure γ}
    {g : r.Answer → Procedure δ} (hr : M r) (h : ∀ x y, A r x y → (f x).Beside M A R (g y)) :
    (ask r >>= f).Beside M A R (ask r >>= g) := .step hr h

/-- What is logged makes no difference. -/
theorem beside_log_bind {R : Procedure γ → Procedure δ → Prop} {e e' : Event}
    {f : Unit → Procedure γ} {g : Unit → Procedure δ} (h : (f ()).Beside M A R (g ())) :
    (log e >>= f).Beside M A R (log e' >>= g) := .log h

/-- A procedure runs beside itself on equal answers. -/
theorem beside_self (hM : ∀ r, M r) (hA : ∀ r x y, A r x y → x = y) (p : Procedure α) :
    p.Beside M A (Both Eq) p := by
  induction p with
  | done a => exact beside_done rfl
  | step r next ih =>
      refine .step (hM r) fun x y hxy => ?_
      rw [hA r x y hxy]
      exact ih y

/-! ## Running -/

/-- **Two runs side by side** come to related results in related worlds, if alike requests get alike
    answers and leave the worlds related, and what is left in the end does so. -/
theorem Beside.run {ω ω' : Type} {handle : (r : Request) → ω → r.Answer × ω}
    {handle' : (r : Request) → ω' → r.Answer × ω'} {W : ω → ω' → Prop} {Q : α → β → Prop}
    (hserve : ∀ r w v, M r → W w v →
      A r (handle r w).1 (handle' r v).1 ∧ W (handle r w).2 (handle' r v).2)
    (hlog : ∀ e e' w v, W w v → W (handle (.log e) w).2 (handle' (.log e') v).2)
    {R : Procedure α → Procedure β → Prop}
    (hrest : ∀ p q, R p q → ∀ w v, W w v →
      Q (p.run handle w).1 (q.run handle' v).1 ∧ W (p.run handle w).2 (q.run handle' v).2)
    {p : Procedure α} {q : Procedure β} (h : p.Beside M A R q) {w : ω} {v : ω'} (hW : W w v) :
    Q (p.run handle w).1 (q.run handle' v).1 ∧ W (p.run handle w).2 (q.run handle' v).2 := by
  induction h generalizing w v with
  | rest h => exact hrest _ _ h w v hW
  | step hr _ ih =>
      obtain ⟨hanswer, hafter⟩ := hserve _ w v hr hW
      exact ih _ _ hanswer hafter
  | log _ ih => exact ih (hlog _ _ w v hW)

/-- Procedures with nothing left have run. -/
theorem Both.run {ω ω' : Type} {handle : (r : Request) → ω → r.Answer × ω}
    {handle' : (r : Request) → ω' → r.Answer × ω'} {W : ω → ω' → Prop} {Q : α → β → Prop}
    {p : Procedure α} {q : Procedure β} (h : Both Q p q) (w : ω) (v : ω') (hW : W w v) :
    Q (p.run handle w).1 (q.run handle' v).1 ∧ W (p.run handle w).2 (q.run handle' v).2 := by
  obtain ⟨hQ⟩ := h
  exact ⟨hQ, hW⟩

end Procedure

/-! ## Alike answers -/

/-- Answers that are the same up to the moments of offerings. Records are not compared. -/
def Request.Alike : (r : Request) → r.Answer → r.Answer → Prop
  | find _, x, y => x.map (Option.map Offering.timeless) = y.map (Option.map Offering.timeless)
  | reserve _, x, y => x.map Reservation.timeless = y.map Reservation.timeless
  | release _, x, y => x.map Freeing.timeless = y.map Freeing.timeless
  | store _, _, _ => True
  | remove _, _, _ => True
  | draw, x, y => x = y
  | claim _ _, x, y => x = y
  | enter _ _, _, _ => True
  | forget _, x, y => x = y
  | log _, _, _ => True

/-- The booking without its moment. -/
def Booking.timeless (b : Booking) : Booking := { b with issuedAt := default }

/-- The ending without moments. -/
def Ending.timeless : Ending → Ending
  | booked outcome => booked (outcome.map Booking.timeless)
  | freed outcome => freed outcome
  | shown outcome => shown outcome

/-! ## Operations -/

namespace Desk

open Procedure

variable {M : Request → Prop} {o o' : Offering}

theorem beside_checkEligibility (d : Desk) (level : Option Level) (h : o.timeless = o'.timeless) :
    (d.checkEligibility level o).Beside M Request.Alike (Both Eq) (d.checkEligibility level o') := by
  have hrule : d.strategy.firedRule? level o = d.strategy.firedRule? level o' :=
    Offering.eq_of_timeless _ h fun _ => by cases d.strategy <;> rfl
  have hverdict : d.strategy.validate level o = d.strategy.validate level o' :=
    Offering.eq_of_timeless _ h fun _ => by cases d.strategy <;> rfl
  unfold checkEligibility
  rw [hrule, hverdict]
  split
  · exact beside_log_bind (beside_done rfl)
  · exact beside_done rfl

/-- **Reserving** on both sides comes to the same offering up to its moments, or to the same error. -/
theorem beside_reserve (d : Desk) {id : OfferingId} (holder : Holder) (hfind : M (.find id))
    (hreserve : M (.reserve id)) : (d.reserve id holder).Beside M Request.Alike
      (Both fun x y => x.map Offering.timeless = y.map Offering.timeless) (d.reserve id holder) := by
  unfold reserve
  refine beside_ask_bind hfind ?_
  rintro (cause | (_ | o)) (cause' | (_ | o')) hxy
  all_goals try cases hxy
  · exact beside_log_bind (beside_done rfl)
  · exact beside_done rfl
  · have h : o.timeless = o'.timeless := Option.some.inj (Except.ok.inj hxy)
    have hstatus : o.status = o'.status := Offering.eq_of_timeless _ h
    have hfull : o.isFull = o'.isFull := Offering.eq_of_timeless _ h
    simp only [hstatus, hfull]
    -- the same checks pass or fail on both sides
    split
    · exact beside_log_bind (beside_done rfl)
    · split
      · exact beside_log_bind (beside_done rfl)
      · refine (beside_checkEligibility d holder.level h).bind ?_
        rintro verdict _ rfl
        split
        · exact beside_log_bind (beside_done rfl)
        · refine beside_ask_bind hreserve ?_
          rintro (cause | (r | r | r | _)) (cause' | (r' | r' | r' | _)) hxy
          all_goals try cases hxy
          · exact beside_log_bind (beside_done rfl)
          · exact beside_done (congrArg Except.ok (Reservation.reserved.inj (Except.ok.inj hxy)))
          · exact beside_log_bind (beside_done rfl)
          · have hrow : r.timeless = r'.timeless := Reservation.notBookable.inj (Except.ok.inj hxy)
            have hstatus : r.status = r'.status := Offering.eq_of_timeless _ hrow
            exact beside_log_bind (beside_done (by rw [hstatus]))
          · exact beside_done rfl

/-- **Releasing** on both sides comes to the same. -/
theorem beside_release {id : OfferingId} (hrelease : M (.release id)) :
    (release id).Beside M Request.Alike (Both Eq) (release id) := by
  unfold release
  refine beside_ask_bind hrelease ?_
  rintro (cause | (o | o | _)) (cause' | (o' | o' | _)) hxy
  all_goals try cases hxy
  · exact beside_log_bind (beside_done rfl)
  · have hrow : o.timeless = o'.timeless := Freeing.released.inj (Except.ok.inj hxy)
    have hsnapshot : o.snapshot = o'.snapshot := Offering.eq_of_timeless _ hrow
    exact beside_log_bind (beside_done (congrArg Except.ok hsnapshot))
  · exact beside_log_bind (beside_done rfl)
  · exact beside_done rfl

/-- The **availability** is the same on both sides. -/
theorem beside_availability {id : OfferingId} (hfind : M (.find id)) :
    (availability id).Beside M Request.Alike (Both Eq) (availability id) := by
  unfold availability
  refine beside_ask_bind hfind ?_
  rintro (cause | (_ | o)) (cause' | (_ | o')) hxy
  all_goals try cases hxy
  · exact beside_done rfl
  · exact beside_done rfl
  · have hrow : o.timeless = o'.timeless := Option.some.inj (Except.ok.inj hxy)
    have hsnapshot : o.snapshot = o'.snapshot := Offering.eq_of_timeless _ hrow
    exact beside_done (congrArg Except.ok hsnapshot)

section Registry

variable (hdraw : M .draw)

include hdraw in
theorem beside_drawReference (h : o.timeless = o'.timeless) (firstName : String) :
    (drawReference o firstName).Beside M Request.Alike (Both Eq) (drawReference o' firstName) := by
  have hname : o.name = o'.name := Offering.eq_of_timeless _ h
  refine beside_ask_bind hdraw ?_
  rintro suffix _ rfl
  rw [hname]
  exact beside_done rfl

variable (hclaim : ∀ reference id, M (.claim reference id)) (henter : ∀ reference id, M (.enter reference id))

include hdraw hclaim henter in
theorem beside_claimOrRedraw (h : o.timeless = o'.timeless) (firstName : String) (attempts left : Nat)
    (candidate : String) : (claimOrRedraw o firstName attempts left candidate).Beside M Request.Alike
      (Both Eq) (claimOrRedraw o' firstName attempts left candidate) := by
  have hid : o.id = o'.id := Offering.eq_of_timeless _ h
  induction left generalizing candidate with
  | zero =>
      unfold claimOrRedraw
      rw [hid]
      exact beside_log_bind (beside_ask_bind (henter _ _) fun _ _ _ => beside_done rfl)
  | succ left ih =>
      unfold claimOrRedraw
      rw [hid]
      refine beside_ask_bind (hclaim _ _) ?_
      rintro (_ | _) _ rfl
      · -- the candidate is taken on both sides
        by_cases hlast : left = 0
        · simp only [hlast, if_true]
          exact hlast ▸ ih candidate
        · simp only [hlast, if_false]
          refine (beside_drawReference hdraw h firstName).bind ?_
          rintro next _ rfl
          exact ih next
      · by_cases hredrawn : left + 1 < attempts
        · simp only [hredrawn, if_true]
          exact beside_log_bind (beside_done rfl)
        · simp only [hredrawn, if_false]
          exact beside_done rfl

include hdraw hclaim henter in
/-- **Issuing** on both sides comes to the same reference, if draws and claims are answered alike. -/
theorem beside_issue (d : Desk) (h : o.timeless = o'.timeless) (firstName : String) :
    (d.issue o firstName).Beside M Request.Alike (Both Eq) (d.issue o' firstName) := by
  unfold issue
  refine (beside_drawReference hdraw h firstName).bind ?_
  rintro candidate _ rfl
  split
  · exact beside_claimOrRedraw hdraw hclaim henter h firstName _ _ candidate
  · have hid : o.id = o'.id := Offering.eq_of_timeless _ h
    rw [hid]
    exact beside_ask_bind (henter _ _) fun _ _ _ => beside_done rfl

end Registry

section Anything

variable (hM : ∀ r, M r)
include hM

/-- **Booking** on both sides comes to the same booking up to its moment, or to the same error. -/
theorem beside_book (d : Desk) (now now' : Timestamp) (id : OfferingId) (holder : Holder) :
    (d.book now id holder).Beside M Request.Alike
      (Both fun x y => x.map Booking.timeless = y.map Booking.timeless) (d.book now' id holder) := by
  unfold book
  refine (beside_reserve d holder (hM _) (hM _)).bind ?_
  rintro (e | o) (e' | o') h
  · cases h
    exact beside_done rfl
  · cases h
  · cases h
  · refine (beside_issue (hM _) (fun _ _ => hM _) (fun _ _ => hM _) d (Except.ok.inj h) holder.firstName).bind ?_
    rintro reference _ rfl
    exact beside_log_bind (beside_done rfl)

/-- **Cancelling** on both sides comes to the same. -/
theorem beside_cancel (reference : String) :
    (cancel reference).Beside M Request.Alike (Both Eq) (cancel reference) := by
  unfold cancel
  refine beside_ask_bind (hM _) ?_
  rintro (_ | id) _ rfl
  · exact beside_done rfl
  · refine (beside_release (hM _)).bind ?_
    rintro outcome _ rfl
    split
    · exact beside_ask_bind (hM _) fun _ _ _ => beside_done rfl
    · exact beside_log_bind (beside_done rfl)

end Anything

end Desk

end DiveSchool
