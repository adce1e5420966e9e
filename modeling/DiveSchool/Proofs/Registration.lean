import Mathlib.Data.List.Count
import Mathlib.Data.List.Nodup
import Mathlib.Data.Nat.Cast.Basic
import DiveSchool.Proofs.Admission
import DiveSchool.Proofs.Cancellation
import DiveSchool.Proofs.Errand

/-!
# `DiveSchool.Proofs.Registration` — every live reference is in the registry

Reserving, claiming a reference, forgetting one and releasing are separate steps, and plain releases free
spots without asking whose they are. So neither the registry nor the counters alone tell how many bookings
there are. What ties them together at every moment is how far each call has got: a `Stage` of it, read off
its trail.

No attempt to free a spot fails here, and no draw of references is exhausted; everything else may.

## Contents
- **Stages.** `Stage` and `stages`, which stages a call goes through and how it ends in each.
- **Calls.** Every call without records keeps to the charter, if references must be unique.
- **Registry.** `Registry.Effect`, all that a request does to the registry.
- **Postings.** `Posting`, all that a request does to the counters, the registry and the stage of its caller
  together; it conserves references and spots.
- **Accounts.** `Traffic.outstanding`, `Traffic.issued`, `Traffic.withdrawn`.
- **Runs.** `Registered` is kept by every `Traffic.Regular` move.
- **Main result.** `registry_accounts_for_bookings`.
-/

namespace DiveSchool

/-! ## Stages -/

/-- How far a call has got. -/
inductive Stage where
  /-- Nothing has come of it yet. -/
  | fresh
  /-- A booking has its spot and no reference yet. -/
  | held (id : OfferingId)
  /-- A booking has its spot and its reference. -/
  | issued (reference : String) (id : OfferingId)
  /-- A cancellation has taken a reference out and not yet tried to free the spot. -/
  | forgot (reference : String) (id : OfferingId)
  /-- A cancellation has freed the spot. -/
  | cancelled (reference : String) (id : OfferingId)
  /-- A cancellation has found no spot to free. -/
  | missed (reference : String) (id : OfferingId)
  /-- A cancellation has found no offering. -/
  | gone (reference : String) (id : OfferingId)
  /-- A plain release has freed a spot. -/
  | released (id : OfferingId)
  deriving DecidableEq, Repr

namespace Stage

/-- The stage after an answer. -/
def after : Stage → (r : Request) → r.Answer → Stage
  | fresh, .reserve id, .ok (.reserved _) => held id
  | held _, .claim reference id, true => issued reference id
  | fresh, .forget reference, some id => forgot reference id
  | fresh, .release id, .ok (.released _) => released id
  | forgot reference id, .release _, .ok (.released _) => cancelled reference id
  | forgot reference id, .release _, .ok (.empty _) => missed reference id
  | forgot reference id, .release _, .ok .notFound => gone reference id
  | s, _, _ => s

/-- What a call may ask at a stage. -/
def may (c : Call) : Stage → Request → Prop
  | _, .find _ | _, .draw | _, .log _ => True
  | fresh, .reserve id => ∃ now holder, c = .book now id holder
  | fresh, .forget reference => c = .cancel reference
  | fresh, .release id => c = .release id
  | held id, .claim _ id' => id' = id
  | forgot _ id, .release id' => id' = id
  | _, _ => False

/-- The stages that a call can get to. -/
inductive Reaches : Call → Stage → Prop
  | fresh {c : Call} : Reaches c fresh
  | held {now : Timestamp} {id : OfferingId} {holder : Holder} : Reaches (.book now id holder) (held id)
  | issued {now : Timestamp} {id : OfferingId} {holder : Holder} {reference : String} :
      Reaches (.book now id holder) (issued reference id)
  | forgot {reference : String} {id : OfferingId} : Reaches (.cancel reference) (forgot reference id)
  | cancelled {reference : String} {id : OfferingId} : Reaches (.cancel reference) (cancelled reference id)
  | missed {reference : String} {id : OfferingId} : Reaches (.cancel reference) (missed reference id)
  | gone {reference : String} {id : OfferingId} : Reaches (.cancel reference) (gone reference id)
  | released {id : OfferingId} : Reaches (.release id) (released id)

theorem Reaches.after {c : Call} {s : Stage} {r : Request} (h : Reaches c s) (hmay : s.may c r)
    (x : r.Answer) : Reaches c (s.after r x) := by
  unfold Stage.after
  split
  · obtain ⟨now, holder, rfl⟩ := hmay
    exact .held
  · obtain rfl := hmay
    cases h
    exact .issued
  · obtain rfl := hmay
    exact .forgot
  · obtain rfl := hmay
    exact .released
  · cases h
    exact .cancelled
  · cases h
    exact .missed
  · cases h
    exact .gone
  · exact h

/-- The reference that was issued, and the offering it was entered with. -/
def issued? : Stage → Option (String × OfferingId)
  | issued reference id => some (reference, id)
  | _ => none

/-- The reference that was taken out, and the offering it was entered with. -/
def withdrawn? : Stage → Option (String × OfferingId)
  | forgot reference id | cancelled reference id | missed reference id | gone reference id =>
    some (reference, id)
  | _ => none

/-- The offering of which a spot is still to be freed. -/
def owed? : Stage → Option OfferingId
  | forgot _ id => some id
  | _ => none

/-- The offering of which no spot could be freed. -/
def missed? : Stage → Option OfferingId
  | missed _ id => some id
  | _ => none

/-- What a call has come to, and the stage it has ended in. -/
inductive Closes : Call → Stage → Ending → Prop
  | booked {now : Timestamp} {id : OfferingId} {holder : Holder} {b : Booking} (hid : b.offeringId = id) :
      Closes (.book now id holder) (issued b.reference id) (.booked (.ok b))
  | refused {now : Timestamp} {id : OfferingId} {holder : Holder} {e : BookingError} :
      Closes (.book now id holder) fresh (.booked (.error e))
  | released {id : OfferingId} {n : Snapshot} : Closes (.release id) (released id) (.freed (.ok n))
  | unreleased {id : OfferingId} {e : ReleaseError} : Closes (.release id) fresh (.freed (.error e))
  | cancelled {reference : String} {id : OfferingId} {n : Snapshot} :
      Closes (.cancel reference) (cancelled reference id) (.freed (.ok n))
  | missed {reference : String} {id : OfferingId} :
      Closes (.cancel reference) (missed reference id) (.freed (.error .nothingToRelease))
  | gone {reference message : String} {id : OfferingId} :
      Closes (.cancel reference) (gone reference id) (.freed (.error (.notFound message)))
  | unknown {reference message : String} :
      Closes (.cancel reference) fresh (.freed (.error (.notFound message)))
  | shown {id : OfferingId} {x : Except Failure Snapshot} : Closes (.availability id) fresh (.shown x)

end Stage

/-- The stages of a call, provided that no attempt to free a spot fails and no draws are exhausted. -/
def stages : Charter Stage where
  protocol c :=
    { start := .fresh
      may := Stage.may c
      heard := fun _ r x => match r, x with
        | .reserve id, .ok (.reserved o) => o.id = id
        | .release _, .error _ => False
        | .log event, _ => event.exhausts = false
        | _, _ => True
      next := Stage.after }
  ends := Stage.Closes

/-- How far a caller has got. -/
def Caller.stage (c : Caller) : Stage := stages.stateOf c

/-! ## Calls -/

theorem stages_ignores_draw (c : Call) : (stages.protocol c).Ignores .draw :=
  fun s => ⟨by cases s <;> exact trivial, fun _ => by cases s <;> rfl⟩

theorem stages_ignores_log (c : Call) (event : Event) : (stages.protocol c).Ignores (.log event) :=
  fun s => ⟨by cases s <;> exact trivial, fun _ => by cases s <;> rfl⟩

/-- **Issuing** claims one reference. As no draws are exhausted, nothing is entered over what is there. -/
theorem follows_issue_stages {d : Desk} (hunique : d.rule.unique = true) (c : Call) {o : Offering}
    {firstName : String} :
    (d.issue o firstName).Follows (stages.protocol c)
      (fun s reference => s = .issued reference o.id) (.held o.id) := by
  refine Desk.issue_rule (stages_ignores_draw c) (stages_ignores_log c) ?_ ?_
  · exact fun reference => ⟨rfl, fun _ => rfl, fun _ => rfl⟩
  · intro reference hexhausted
    cases hexhausted hunique

/-- **Every call without records** keeps to the charter. -/
theorem grants_stages {d : Desk} (hunique : d.rule.unique = true) (v : Dealing) (now : Timestamp) :
    stages.Grants d (v.call now) := by
  have hlog := stages_ignores_log (v.call now)
  cases v with
  | book id holder =>
      refine Procedure.follows_bind.mpr (Desk.book_rule hlog (Desk.follows_reserve hlog trivial ?_ ?_))
      · exact fun _ _ _ _ => .refused
      · intro _ _ _
        refine ⟨⟨now, holder, rfl⟩, fun y hy => ?_⟩
        rcases y with cause | (o | _ | _ | _)
        · exact .refused
        · -- the reference is claimed for the offering whose spot is held
          obtain rfl : o.id = id := hy
          refine (follows_issue_stages hunique _).mono fun s reference hs => ?_
          subst hs
          exact Stage.Closes.booked (b := ⟨reference, o.id, holder.firstName, now⟩) rfl
        · exact .refused
        · exact .refused
        · exact .refused
  | release id =>
      refine Procedure.follows_bind.mpr (Desk.follows_release hlog rfl ?_)
      rintro (cause | (_ | _ | _)) hx
      · exact hx.elim
      · exact .released
      · exact .unreleased
      · exact .unreleased
  | cancel reference =>
      refine Procedure.follows_bind.mpr
        (Desk.cancel_rule hlog rfl (fun _ => .unknown) fun id _ => ⟨rfl, ?_⟩)
      rintro (cause | (_ | _ | _)) hx
      · exact hx.elim
      · exact .cancelled
      · exact .missed
      · exact .gone
  | availability id =>
      exact Procedure.follows_bind.mpr (Desk.follows_availability trivial fun _ _ => .shown)

/-! ## Registry -/

/-- Whether a request is one to the registry. -/
def Request.registers : Request → Bool
  | claim _ _ | enter _ _ | forget _ => true
  | _ => false

namespace Registry

variable {g : Registry} {reference : String} {id : OfferingId}

/-- What a request can be answered, and what it then does to the registry. -/
inductive Effect (g : Registry) : (r : Request) → r.Answer → Registry → Prop
  | nothing {r : Request} {x : r.Answer} (hr : r.registers = false) : Effect g r x g
  | claimed {reference : String} {id : OfferingId} (hnew : g.get? reference = none) :
      Effect g (.claim reference id) true (g.insert reference id)
  | taken {reference : String} {id : OfferingId} : Effect g (.claim reference id) false g
  | entered {reference : String} {id : OfferingId} :
      Effect g (.enter reference id) () (g.insert reference id)
  | forgotten {reference : String} {id : OfferingId} (h : g.get? reference = some id) :
      Effect g (.forget reference) (some id) (g.erase reference)
  | absent {reference : String} : Effect g (.forget reference) none g

/-- **Everything a request can do** to the registry, served or failing. -/
theorem effect (fault : Option Failure) (r : Request) (w : World Memory) :
    Effect w.registry r (respond fault r w).1 (respond fault r w).2.registry := by
  rcases Traffic.respond_cases fault r w with ⟨f, x, hx, h⟩ | h
  · -- no request to the registry fails
    rw [h]
    cases r <;> first | exact .nothing rfl | cases hx
  · rw [h]
    cases r with
    | claim reference id =>
        cases hclaim : w.registry.claim? reference id with
        | none =>
            simp only [Ledger.serve, hclaim]
            exact .taken
        | some g =>
            simp only [Ledger.serve, hclaim]
            unfold claim? at hclaim
            split at hclaim
            · cases hclaim
            · next hnew =>
                cases hclaim
                exact .claimed (by simpa [Table.contains] using hnew)
    | enter reference id => exact .entered
    | forget reference =>
        show Effect _ (.forget reference) (w.registry.get? reference) (w.registry.erase reference)
        cases h : w.registry.get? reference with
        | some id => exact .forgotten h
        | none =>
            rw [Table.erase_of_get?_eq_none h]
            exact .absent
    | _ => exact .nothing rfl

/-- Whether a reference is entered for an offering, as a number. -/
def entry (g : Registry) (p : String × OfferingId) : Int := if g.get? p.1 = some p.2 then 1 else 0

theorem entry_insert (h : g.get? reference = none) (p : String × OfferingId) :
    entry (g.insert reference id) p = g.entry p + if (reference, id) = p then 1 else 0 := by
  obtain ⟨reference', id'⟩ := p
  simp only [entry, Table.get?_insert]
  by_cases hsame : reference' = reference
  · subst hsame
    simp [h]
  · simp [hsame, Ne.symm hsame]

theorem entry_erase (h : g.get? reference = some id) (p : String × OfferingId) :
    entry (g.erase reference) p + (if (reference, id) = p then 1 else 0) = g.entry p := by
  obtain ⟨reference', id'⟩ := p
  simp only [entry, Table.get?_erase]
  by_cases hsame : reference' = reference
  · subst hsame
    simp [h]
  · simp [hsame, Ne.symm hsame]

theorem count_insert (h : g.get? reference = none) (id id' : OfferingId) :
    ((g.insert reference id).values.count id' : Int) =
      g.values.count id' + if id = id' then 1 else 0 := by
  rw [Table.values_insert h, List.count_append, List.count_singleton]
  by_cases hid : id = id' <;> simp [hid]

theorem count_erase (h : g.get? reference = some id) (id' : OfferingId) :
    ((g.erase reference).values.count id' : Int) + (if id = id' then 1 else 0) = g.values.count id' := by
  have herase := Table.countP_values_erase (· == id') h
  simp only [beq_iff_eq] at herase
  unfold List.count
  by_cases hid : id = id' <;> simp only [hid, if_true, if_false] at herase ⊢ <;> omega

end Registry

/-! ## Postings -/

namespace Stage

/-- By how many spots the counter of an offering exceeds its entries in the registry on account of a call. -/
def weight (s : Stage) (id : OfferingId) : Int :=
  (if s = held id then 1 else 0) + (if s.owed? = some id then 1 else 0) -
    (if s = released id then 1 else 0) + if s.missed? = some id then 1 else 0

variable (reference : String) (id id' : OfferingId)

@[simp] theorem weight_fresh : fresh.weight id = 0 := rfl

@[simp] theorem weight_held : (held id').weight id = if id' = id then 1 else 0 := by
  simp [weight, owed?, missed?]

@[simp] theorem weight_issued : (issued reference id').weight id = 0 := rfl

@[simp] theorem weight_forgot : (forgot reference id').weight id = if id' = id then 1 else 0 := by
  simp [weight, owed?, missed?]

@[simp] theorem weight_cancelled : (cancelled reference id').weight id = 0 := rfl

@[simp] theorem weight_missed : (missed reference id').weight id = if id' = id then 1 else 0 := by
  simp [weight, owed?, missed?]

@[simp] theorem weight_gone : (gone reference id').weight id = 0 := rfl

@[simp] theorem weight_released : (released id').weight id = -if id' = id then 1 else 0 := by
  simp [weight, owed?, missed?]

end Stage

/-- What a request of a call without records does to the counters, to the registry and to the stage of the
    call, provided that no attempt to free a spot fails and no draws are exhausted. -/
inductive Posting (m : Memory) (g : Registry) : Stage → Memory → Registry → Stage → Prop
  | nothing {s : Stage} {m' : Memory} (h : m'.offerings = m.offerings) : Posting m g s m' g s
  | held {id : OfferingId} {o : Offering} {now : Timestamp} (ho : m.offerings.get? id = some o)
      (hfree : o.isFull = false) : Posting m g .fresh (m.put (o.taken now)) g (.held id)
  | issued {reference : String} {id : OfferingId} (hnew : g.get? reference = none) :
      Posting m g (.held id) m (g.insert reference id) (.issued reference id)
  | forgot {reference : String} {id : OfferingId} (h : g.get? reference = some id) :
      Posting m g .fresh m (g.erase reference) (.forgot reference id)
  | cancelled {reference : String} {id : OfferingId} {o : Offering} {now : Timestamp}
      (ho : m.offerings.get? id = some o) (hbooked : 0 < o.bookings.toInt) :
      Posting m g (.forgot reference id) (m.put (o.vacated now)) g (.cancelled reference id)
  | missed {reference : String} {id : OfferingId} :
      Posting m g (.forgot reference id) m g (.missed reference id)
  | gone {reference : String} {id : OfferingId} (hnone : m.offerings.get? id = none) :
      Posting m g (.forgot reference id) m g (.gone reference id)
  | released {id : OfferingId} {o : Offering} {now : Timestamp} (ho : m.offerings.get? id = some o)
      (hbooked : 0 < o.bookings.toInt) :
      Posting m g .fresh (m.put (o.vacated now)) g (.released id)

/-- An attempt to free a spot that finds no offering is right about it. -/
def Memory.Honest (m : Memory) : (r : Request) → r.Answer → Prop
  | .release id, .ok .notFound => m.offerings.get? id = none
  | _, _ => True

theorem Memory.Sound.honest {w : World Memory} (hm : w.state.Sound) (fault : Option Failure)
    (r : Request) : w.state.Honest r (respond fault r w).1 := by
  cases r with
  | release id =>
      rcases Traffic.respond_cases fault (.release id) w with ⟨f, x, hx, h⟩ | h
      · rw [h]
        cases hx
        exact trivial
      · rw [h]
        show w.state.Honest (.release id) (w.state.release w.now id).answer
        have hstep := hm.releaseStep w.now id
        generalize w.state.release w.now id = reply at hstep
        cases hstep with
        | absent hnone => exact hnone
        | _ => exact trivial
  | _ => exact trivial

/-- **Everything a request can do** in a sound ledger, as far as stages tell. -/
theorem Memory.Sound.posting {w : World Memory} (hm : w.state.Sound) {c : Call} {s : Stage}
    {fault : Option Failure} {r : Request} (hmay : s.may c r)
    (hheard : (stages.protocol c).heard s r (respond fault r w).1) :
    Posting w.state w.registry s (respond fault r w).2.state (respond fault r w).2.registry
      (s.after r (respond fault r w).1) := by
  have heffect := hm.requestEffect fault r
  have hregistry := Registry.effect fault r w
  have hhonest := hm.honest fault r
  generalize respond fault r w = y at heffect hregistry hhonest hheard ⊢
  obtain ⟨x, m', g', generator, now, log⟩ := y
  change Memory.RequestEffect w.state w.now r x m' at heffect
  change Registry.Effect w.registry r x g' at hregistry
  -- first what became of the ledger, then what became of the registry, then the stage
  cases heffect with
  | took ho _ hfree =>
      cases hregistry
      cases s with
      | fresh => exact .held ho hfree
      | _ => exact hmay.elim
  | freed ho hbooked =>
      cases hregistry
      cases s with
      | fresh => exact .released ho hbooked
      | forgot reference id =>
          obtain rfl := hmay
          exact .cancelled ho hbooked
      | _ => exact hmay.elim
  | looked ho =>
      cases hregistry
      cases s <;> exact .nothing rfl
  | stored hnew => cases s <;> exact hmay.elim
  | removed h => cases s <;> exact hmay.elim
  | nothing hidle =>
      cases hregistry with
      | claimed hnew =>
          cases s with
          | held id =>
              obtain rfl := hmay
              exact .issued hnew
          | _ => exact hmay.elim
      | entered => cases s <;> exact hmay.elim
      | forgotten h =>
          cases s with
          | fresh => exact .forgot h
          | _ => exact hmay.elim
      | taken => cases s <;> exact .nothing rfl
      | absent => cases s <;> exact .nothing rfl
      | nothing hr =>
          cases r with
          | reserve id =>
              rcases x with cause | (o | _ | _ | _)
              · cases s <;> exact .nothing rfl
              · exact hidle.elim
              · cases s <;> exact .nothing rfl
              · cases s <;> exact .nothing rfl
              · cases s <;> exact .nothing rfl
          | release id =>
              rcases x with cause | (o | _ | _)
              · exact hheard.elim
              · exact hidle.elim
              · cases s with
                | forgot reference id => exact .missed
                | _ => exact .nothing rfl
              · cases s with
                | forgot reference id =>
                    obtain rfl := hmay
                    exact .gone hhonest
                | _ => exact .nothing rfl
          | claim _ _ => cases hr
          | enter _ _ => cases hr
          | forget _ => cases hr
          | _ => cases s <;> exact .nothing rfl

namespace Posting

variable {m m' : Memory} {g g' : Registry} {s s' : Stage} {id : OfferingId} {o : Offering}

/-- **References are conserved**: one that is entered is issued, and one that is taken out is withdrawn. -/
theorem references (h : Posting m g s m' g' s') (p : String × OfferingId) :
    g'.entry p + (if s'.withdrawn? = some p then 1 else 0) + (if s.issued? = some p then 1 else 0) =
      g.entry p + (if s.withdrawn? = some p then 1 else 0) + if s'.issued? = some p then 1 else 0 := by
  cases h with
  | issued hnew =>
      rw [Registry.entry_insert hnew]
      simp [Stage.issued?, Stage.withdrawn?]
  | forgot h =>
      have herase := Registry.entry_erase h p
      simp [Stage.issued?, Stage.withdrawn?]
      omega
  | nothing _ => omega
  | _ => rfl

/-- **Spots are conserved**: what the counter of an offering gains beyond the entries of the registry, the
    stage of the caller gains too. -/
theorem spots (h : Posting m g s m' g' s') (hm : m.Sound) (ho : m'.offerings.get? id = some o) :
    ∃ o', m.offerings.get? id = some o' ∧
      o.bookings.toInt + g.values.count id + s.weight id =
        o'.bookings.toInt + g'.values.count id + s'.weight id := by
  cases h with
  | nothing h => exact ⟨o, h ▸ ho, rfl⟩
  | held ho' hfree =>
      -- the counter gains one, and so does the caller
      obtain ⟨o₁, ho₁, hbookings⟩ := hm.bookings_put_taken ho' hfree ho
      refine ⟨o₁, ho₁, ?_⟩
      rw [Stage.weight_fresh, Stage.weight_held]
      omega
  | @issued reference id' hnew =>
      -- the registry gains what the caller loses
      refine ⟨o, ho, ?_⟩
      have hinsert := Registry.count_insert hnew id' id
      rw [Stage.weight_held, Stage.weight_issued]
      omega
  | forgot h =>
      -- and here the other way round
      refine ⟨o, ho, ?_⟩
      have herase := Registry.count_erase h id
      rw [Stage.weight_fresh, Stage.weight_forgot]
      omega
  | cancelled ho' hbooked =>
      obtain ⟨o₁, ho₁, hbookings⟩ := hm.bookings_put_vacated ho' hbooked ho
      refine ⟨o₁, ho₁, ?_⟩
      rw [Stage.weight_forgot, Stage.weight_cancelled]
      omega
  | missed =>
      refine ⟨o, ho, ?_⟩
      rw [Stage.weight_forgot, Stage.weight_missed]
  | @gone reference id' hnone =>
      -- no spot of this offering was owed
      refine ⟨o, ho, ?_⟩
      have hne : id' ≠ id := fun hid => nomatch (hid ▸ hnone).symm.trans ho
      rw [Stage.weight_forgot, Stage.weight_gone, if_neg hne]
  | released ho' hbooked =>
      obtain ⟨o₁, ho₁, hbookings⟩ := hm.bookings_put_vacated ho' hbooked ho
      refine ⟨o₁, ho₁, ?_⟩
      rw [Stage.weight_fresh, Stage.weight_released]
      omega

end Posting

/-! ## Accounts -/

namespace Traffic

/-- The references that were issued, each with its offering. -/
def issued (t : Traffic) : List (String × OfferingId) := t.callers.filterMap (·.stage.issued?)

/-- The references that were taken out again by cancellations, each with its offering. -/
def withdrawn (t : Traffic) : List (String × OfferingId) := t.callers.filterMap (·.stage.withdrawn?)

/-- The references of the bookings that were issued and not yet cancelled, each with its offering. -/
def live (t : Traffic) : List (String × OfferingId) := t.issued.diff t.withdrawn

/-- By how many spots the counter of an offering has come to exceed its entries in the registry: there is a
    spot for each booking without a reference yet, for each cancellation that has not yet freed one and for
    each that found none, and there is none any more for each plain release. -/
def outstanding (t : Traffic) (id : OfferingId) : Int :=
  t.callers.countP (·.stage = .held id) + t.callers.countP (·.stage.owed? = some id) -
    t.callers.countP (·.stage = .released id) + t.callers.countP (·.stage.missed? = some id)

variable {d : Desk} {t : Traffic} {i : Nat} {fault : Option Failure} {c : Caller} {r : Request}
  {next : r.Answer → Procedure Ending}

/-- A served caller counts as it was before or as it is after. -/
theorem countP_stage_serve (hturn : t.Turn i c r next) (fault : Option Failure) (P : Stage → Prop)
    [DecidablePred P] :
    ((t.step d (.serve i fault)).callers.countP (P ·.stage) : Int) + (if P c.stage then 1 else 0) =
      t.callers.countP (P ·.stage) +
        if P (c.stage.after r (respond fault r t.world).1) then 1 else 0 := by
  have htally := stages.tally_serve (d := d) (p := fun _ s => P s) hturn fault
  simp only [decide_eq_true_eq] at htally
  change (t.step d (.serve i fault)).callers.countP (P ·.stage) + (if P c.stage then 1 else 0) =
    t.callers.countP (P ·.stage) +
      (if P (c.stage.after r (respond fault r t.world).1) then 1 else 0) at htally
  by_cases hbefore : P c.stage <;>
    by_cases hafter : P (c.stage.after r (respond fault r t.world).1) <;>
      simp only [hbefore, hafter, if_true, if_false] at htally ⊢ <;> omega

theorem outstanding_serve (hturn : t.Turn i c r next) (fault : Option Failure) (id : OfferingId) :
    (t.step d (.serve i fault)).outstanding id + c.stage.weight id =
      t.outstanding id + (c.stage.after r (respond fault r t.world).1).weight id := by
  have hheld := countP_stage_serve (d := d) hturn fault (· = .held id)
  have howed := countP_stage_serve (d := d) hturn fault (·.owed? = some id)
  have hreleased := countP_stage_serve (d := d) hturn fault (· = .released id)
  have hmissed := countP_stage_serve (d := d) hturn fault (·.missed? = some id)
  unfold outstanding Stage.weight
  omega

theorem countP_stage_call (t : Traffic) (d : Desk) (c : Call) (P : Stage → Prop) [DecidablePred P]
    (hP : ¬ P .fresh) :
    (t.step d (.call c)).callers.countP (P ·.stage) = t.callers.countP (P ·.stage) := by
  show (t.callers ++ [Caller.fresh d c]).countP _ = _
  rw [List.countP_append, List.countP_singleton, if_neg, Nat.add_zero]
  rw [decide_eq_true_eq]
  exact hP

theorem outstanding_call (t : Traffic) (d : Desk) (c : Call) (id : OfferingId) :
    (t.step d (.call c)).outstanding id = t.outstanding id := by
  simp only [outstanding]
  rw [countP_stage_call t d c (· = .held id) nofun, countP_stage_call t d c (·.owed? = some id) nofun,
    countP_stage_call t d c (· = .released id) nofun, countP_stage_call t d c (·.missed? = some id) nofun]

theorem count_issued (t : Traffic) (p : String × OfferingId) :
    t.issued.count p = t.callers.countP (·.stage.issued? = some p) := by
  rw [issued, List.count_filterMap]
  exact List.countP_congr fun c _ => by rw [beq_iff_eq, decide_eq_true_eq]

theorem count_withdrawn (t : Traffic) (p : String × OfferingId) :
    t.withdrawn.count p = t.callers.countP (·.stage.withdrawn? = some p) := by
  rw [withdrawn, List.count_filterMap]
  exact List.countP_congr fun c _ => by rw [beq_iff_eq, decide_eq_true_eq]

/-! ## Runs -/

/-- Only calls without records are made, no offering is written, no attempt to free a spot fails, and no call
    reports that all draws were in vain. -/
def Regular (t : Traffic) : Move → Prop
  | .write _ => False
  | .call c => ∃ v now, c = Dealing.call now v
  | .serve i fault =>
    (∀ c id next, t.Turn i c (.release id) next →
      ∀ e, (respond fault (.release id) t.world).1 ≠ .error e) ∧
    ∀ c event next, t.Turn i c (.log event) next → event.exhausts = false
  | _ => True

end Traffic

/-- What holds of a regular run at every moment. -/
structure Registered (start : Memory) (t : Traffic) : Prop where
  sound : t.world.state.Sound
  kept : ∀ c ∈ t.callers, stages.KeptBy c
  reached : ∀ c ∈ t.callers, Stage.Reaches c.call c.stage
  /-- What is stored was stored at the start, and the other way round. -/
  lasting : ∀ id, start.Lasts id t.world.state
  /-- A reference is in the registry if it was issued once more often than withdrawn. -/
  entered : ∀ p, Registry.entry t.world.registry p + t.withdrawn.count p = t.issued.count p
  balanced : ∀ id o, t.world.state.offerings.get? id = some o →
    ∃ o₀, start.offerings.get? id = some o₀ ∧
      o.bookings.toInt = o₀.bookings.toInt + t.world.registry.values.count id + t.outstanding id

namespace Registered

variable {start : Memory} {d : Desk} {t : Traffic} {i : Nat} {fault : Option Failure} {c : Caller}
  {r : Request} {next : r.Answer → Procedure Ending} {mv : Move}

theorem heard (h : Registered start t) (hturn : t.Turn i c r next)
    (hmv : t.Regular (.serve i fault)) :
    (stages.protocol c.call).heard (stages.stateOf c) r (respond fault r t.world).1 := by
  cases r with
  | reserve id =>
      have heffect := h.sound.requestEffect fault (.reserve id)
      generalize (respond fault (.reserve id) t.world).2.state = m' at heffect
      generalize (respond fault (.reserve id) t.world).1 = x at heffect
      cases heffect with
      | nothing hx => rcases x with cause | (_ | _ | _ | _) <;> first | exact trivial | exact hx.elim
      | took ho _ _ => exact (h.sound _ _ ho).1
  | release id =>
      cases hx : (respond fault (.release id) t.world).1 with
      | error e => exact absurd hx (hmv.1 c id next hturn e)
      | ok x => exact trivial
  | log event => exact hmv.2 c event next hturn
  | _ => exact trivial

theorem posting (h : Registered start t) (hturn : t.Turn i c r next)
    (hmv : t.Regular (.serve i fault)) :
    Posting t.world.state t.world.registry c.stage (respond fault r t.world).2.state
      (respond fault r t.world).2.registry (c.stage.after r (respond fault r t.world).1) :=
  h.sound.posting ((h.kept c hturn.mem).may hturn) (h.heard hturn hmv)

theorem reached_step (h : Registered start t) :
    ∀ c ∈ (t.step d mv).callers, Stage.Reaches c.call c.stage := by
  intro c' hc'
  rcases Traffic.mem_callers_step hc' with hold | ⟨c, _, rfl⟩ | ⟨i, fault, c, r, next, _, hturn, rfl⟩
  · exact h.reached c' hold
  · exact .fresh
  · rw [Caller.stage, Charter.stateOf_answered]
    exact (h.reached c hturn.mem).after ((h.kept c hturn.mem).may hturn) _

/-- **One move** keeps the account of references. -/
theorem entered_step (h : Registered start t) (hmv : t.Regular mv) (p : String × OfferingId) :
    Registry.entry (t.step d mv).world.registry p + (t.step d mv).withdrawn.count p =
      (t.step d mv).issued.count p := by
  have hentered := h.entered p
  rw [Traffic.count_issued, Traffic.count_withdrawn] at hentered ⊢
  cases mv with
  | serve i fault =>
      rcases Traffic.turn_or_idle d t i fault with ⟨c, r, next, hturn⟩ | hidle
      · have hconserved := (h.posting hturn hmv).references p
        have hissued := Traffic.countP_stage_serve (d := d) hturn fault (·.issued? = some p)
        have hwithdrawn := Traffic.countP_stage_serve (d := d) hturn fault (·.withdrawn? = some p)
        have hregistry : (t.step d (.serve i fault)).world.registry =
            (respond fault r t.world).2.registry := by
          rw [Traffic.step_serve hturn]
        rw [hregistry]
        omega
      · rw [hidle]
        exact hentered
  | call c =>
      rw [Traffic.countP_stage_call t d c (·.issued? = some p) nofun,
        Traffic.countP_stage_call t d c (·.withdrawn? = some p) nofun]
      exact hentered
  | order o =>
      show Registry.entry (o.begun t.world).registry p + _ = _
      rw [Order.registry_begun]
      exact hentered
  | write p => exact hmv.elim
  | lock held => exact hentered
  | clock now => exact hentered

/-- **One move** keeps the account of spots. -/
theorem balanced_step (h : Registered start t) (hmv : t.Regular mv) (id : OfferingId) (o : Offering)
    (ho : (t.step d mv).world.state.offerings.get? id = some o) :
    ∃ o₀, start.offerings.get? id = some o₀ ∧ o.bookings.toInt =
      o₀.bookings.toInt + (t.step d mv).world.registry.values.count id + (t.step d mv).outstanding id := by
  cases mv with
  | serve i fault =>
      rcases Traffic.turn_or_idle d t i fault with ⟨c, r, next, hturn⟩ | hidle
      · have houtstanding := Traffic.outstanding_serve (d := d) hturn fault id
        have hworld : (t.step d (.serve i fault)).world = (respond fault r t.world).2 := by
          rw [Traffic.step_serve hturn]
        rw [hworld] at ho ⊢
        obtain ⟨o', ho', hconserved⟩ := (h.posting hturn hmv).spots h.sound ho
        obtain ⟨o₀, ho₀, hbalanced⟩ := h.balanced id o' ho'
        exact ⟨o₀, ho₀, by omega⟩
      · rw [hidle] at ho ⊢
        exact h.balanced id o ho
  | call c =>
      rw [Traffic.outstanding_call]
      exact h.balanced id o ho
  | order order =>
      obtain ⟨o', ho', hsame⟩ := h.sound.bookings_begun ho
      obtain ⟨o₀, ho₀, hbalanced⟩ := h.balanced id o' ho'
      refine ⟨o₀, ho₀, ?_⟩
      show o.bookings.toInt = _ + ((order.begun t.world).registry.values.count id : Int) + t.outstanding id
      rw [Order.registry_begun, hsame]
      exact hbalanced
  | write p => exact hmv.elim
  | lock held => exact h.balanced id o ho
  | clock now => exact h.balanced id o ho

/-- **One move** of a regular run. -/
theorem step (hunique : d.rule.unique = true) (h : Registered start t) (hmv : t.Regular mv) :
    Registered start (t.step d mv) where
  sound := Traffic.sound_step h.sound mv
  kept := by
    refine Charter.keptBy_step h.kept (fun c hcall => ?_) fun i fault c r next hserve hturn =>
      h.heard hturn (hserve ▸ hmv)
    subst hcall
    obtain ⟨v, now, rfl⟩ := hmv
    exact grants_stages hunique v now
  reached := h.reached_step
  lasting id o₀ ho₀ := by
    obtain ⟨o, ho, hterms⟩ := h.lasting id o₀ ho₀
    have hwrite : ∀ p, mv ≠ .write p := by
      rintro p rfl
      exact hmv
    obtain ⟨o', ho', hterms'⟩ := Traffic.lasts_step (d := d) h.sound (fun p _ hp => absurd hp (hwrite p)) o ho
    exact ⟨o', ho', hterms.trans hterms'⟩
  entered := h.entered_step hmv
  balanced := h.balanced_step hmv

/-- Before the first call nothing is issued and nothing is entered. -/
theorem opened (hm : t.world.state.Sound) (hempty : t.world.registry = .empty) (hcallers : t.callers = []) :
    Registered t.world.state t where
  sound := hm
  kept c hc := by
    rw [hcallers] at hc
    cases hc
  reached c hc := by
    rw [hcallers] at hc
    cases hc
  lasting id := .refl id _
  entered p := by
    rw [Traffic.issued, Traffic.withdrawn, hempty, hcallers]
    rfl
  balanced id o ho := by
    refine ⟨o, ho, ?_⟩
    rw [Traffic.outstanding, hempty, hcallers]
    show o.bookings.toInt = o.bookings.toInt + 0 + 0
    omega

/-! ## Consequences -/

/-- A reference is live as often as it is entered. -/
theorem count_live (h : Registered start t) (p : String × OfferingId) :
    (t.live.count p : Int) = Registry.entry t.world.registry p := by
  have hentered := h.entered p
  have hnonneg : 0 ≤ Registry.entry t.world.registry p := by
    unfold Registry.entry
    split <;> decide
  rw [Traffic.live, List.count_diff]
  omega

theorem mem_live (h : Registered start t) {reference : String} {id : OfferingId} :
    (reference, id) ∈ t.live ↔ t.world.registry.get? reference = some id := by
  have hcount := h.count_live (reference, id)
  rw [← List.count_pos_iff]
  unfold Registry.entry at hcount
  split at hcount
  · next hsome => exact ⟨fun _ => hsome, fun _ => by omega⟩
  · next hnot => exact ⟨fun _ => by omega, fun hsome => absurd hsome hnot⟩

/-- No two live references are the same, as each is entered once. -/
theorem nodup_live (h : Registered start t) : (t.live.map Prod.fst).Nodup := by
  have hpairs : t.live.Nodup := by
    refine List.nodup_iff_count_le_one.mpr fun p => ?_
    have hcount := h.count_live p
    unfold Registry.entry at hcount
    split at hcount <;> omega
  refine hpairs.map_on ?_
  rintro ⟨reference, id⟩ hp ⟨reference', id'⟩ hp' hsame
  -- the registry has one offering for each reference
  obtain rfl : reference = reference' := hsame
  have hid : some id = some id' := (h.mem_live.mp hp).symm.trans (h.mem_live.mp hp')
  rw [Option.some.inj hid]

end Registered

/-! ## Main result -/

/-- **The registry accounts for the bookings.** References are issued uniquely at a desk, its registry is
    empty at the start, and any number of bookings, cancellations, plain releases and look-ups run, in any
    order of their steps; no draws are exhausted and no attempt to free a spot fails. At every moment the
    references of the bookings that were issued and not yet cancelled are all different, and the registry
    holds just these, each with the offering that it was booked on. And the bookings of an offering are
    those it had at the start, its entries in the registry, the bookings that hold a spot without a
    reference yet, and the cancellations that have taken a reference out and not yet freed a spot, less the
    successful plain releases, and the cancellations that found no spot to free. A call gets to the stages
    of its kind only, and the stage that it ends in is what it comes to. -/
theorem registry_accounts_for_bookings {d : Desk} (hunique : d.rule.unique = true) {t : Traffic}
    (hm : t.world.state.Sound) (hempty : t.world.registry = .empty) (hcallers : t.callers = [])
    {moves : List Move} (hregular : Traffic.Along d Traffic.Regular t moves) :
    let t' := t.run d moves
    (t'.live.map Prod.fst).Nodup ∧
    (∀ reference id, t'.world.registry.get? reference = some id ↔ (reference, id) ∈ t'.live) ∧
    (∀ id o₀, t.world.state.offerings.get? id = some o₀ →
      ∃ o, t'.world.state.offerings.get? id = some o ∧
        o.bookings.toInt = o₀.bookings.toInt + t'.world.registry.values.count id +
          t'.callers.countP (·.stage = .held id) + t'.callers.countP (·.stage.owed? = some id) -
          t'.callers.countP (·.stage = .released id) + t'.callers.countP (·.stage.missed? = some id)) ∧
    ∀ c ∈ t'.callers, Stage.Reaches c.call c.stage ∧
      ∀ e, c.ending? = some e → Stage.Closes c.call c.stage e := by
  intro t'
  have h : Registered t.world.state t' :=
    Traffic.run_induction (fun _ _ h hmv => h.step hunique hmv) (.opened hm hempty hcallers) hregular
  refine ⟨h.nodup_live, fun reference id => h.mem_live.symm, fun id o₀ ho₀ => ?_, fun c hc =>
    ⟨h.reached c hc, fun e he => (h.kept c hc).ends he⟩⟩
  obtain ⟨o, ho, _⟩ := h.lasting id o₀ ho₀
  obtain ⟨o₀', ho₀', hbalanced⟩ := h.balanced id o ho
  obtain rfl : o₀ = o₀' := Option.some.inj (ho₀.symm.trans ho₀')
  refine ⟨o, ho, ?_⟩
  rw [Traffic.outstanding] at hbalanced
  omega

/-! ## One spot of three -/

namespace Traffic

variable {d : Desk} {t : Traffic}

/-- No move takes the report of draws in vain out of the log. -/
theorem exhausted_step (h : t.world.Exhausted) (mv : Move) : (t.step d mv).world.Exhausted := by
  obtain ⟨event, hmem, hexhausts⟩ := id h
  refine world_step (I := World.Exhausted) h (fun o _ => ⟨event, ?_, hexhausts⟩)
    (fun o _ _ => ⟨event, List.mem_append_left _ hmem, hexhausts⟩) (fun i fault c r next _ _ => ?_)
    (fun _ _ => h) fun _ _ => h
  · cases o with
    | add o => exact hmem
    | _ => exact List.mem_append_left _ hmem
  · rcases respond_cases fault r t.world with ⟨f, x, _, hr⟩ | hr
    · rw [hr]
      exact h
    · rw [hr]
      exact World.exhausted_serve r t.world h

/-- Where no lock is held, nothing fails and no draws were in vain, calls without records are regular. -/
theorem along_regular {moves : List Move} (hm : t.world.state.Sound) (hheld : t.world.state.held = [])
    (hmoves : ∀ mv ∈ moves, (∃ i, mv = .serve i none) ∨ ∃ v now, mv = .call (Dealing.call now v))
    (hdrawn : ¬ (t.run d moves).world.Exhausted) : Along d Regular t moves := by
  induction moves generalizing t with
  | nil => exact trivial
  | cons mv moves ih =>
      have hrest := fun mv hmv => hmoves mv (List.mem_cons_of_mem _ hmv)
      rcases hmoves mv List.mem_cons_self with ⟨i, rfl⟩ | ⟨v, now, rfl⟩
      · refine ⟨⟨fun c id next _ e => release_ne_error hm hheld e, fun c event next hturn => ?_⟩,
          ih (sound_step hm _) ((held_serve hm i none).trans hheld) hrest hdrawn⟩
        -- a report of draws in vain would still be in the log
        rw [Bool.eq_false_iff]
        intro hexhausts
        have hreported : (t.step d (.serve i none)).world.Exhausted := by
          rw [step_serve hturn]
          exact ⟨event, List.mem_append_right _ (List.mem_singleton_self event), hexhausts⟩
        exact hdrawn (run_always (I := fun t => t.world.Exhausted) (fun _ mv h => exhausted_step h mv)
          hreported moves)
      · exact ⟨⟨v, now, rfl⟩, ih hm hheld hrest hdrawn⟩

end Traffic

namespace TwoSpots

/-- Ann and Bob take turns until both have a booking. Then Ann's is cancelled, and before its spot is freed
    a plain release frees one. -/
def dealings : List Move :=
  [.call (Dealing.call default (.book ⟨1⟩ ⟨"Ann", none⟩)),
      .call (Dealing.call default (.book ⟨1⟩ ⟨"Bob", none⟩))] ++
    OneSpot.turns 5 ++
    [.call (Dealing.call default (.cancel "REEF_ANN_100")), .call (Dealing.call default (.release ⟨1⟩)),
      .serve 2 none, .serve 3 none]

end TwoSpots

open TwoSpots in
/-- Bob's is the only live reference, and one spot is booked: one for his entry and one for the spot that
    Ann's cancellation owes, less the one that the plain release has freed. -/
theorem one_live_reference :
    world.state.Sound ∧ world.registry = .empty ∧ Traffic.Along desk Traffic.Regular ⟨world, [], []⟩ dealings ∧
      (Traffic.run desk ⟨world, [], []⟩ dealings).live = [("REEF_BOB_100", ⟨1⟩)] ∧
      ((Traffic.run desk ⟨world, [], []⟩ dealings).live.map Prod.fst).Nodup ∧
      ∃ o, (Traffic.run desk ⟨world, [], []⟩ dealings).world.state.offerings.get? ⟨1⟩ = some o ∧
        o.bookings.toInt = 0 + 1 + 0 + 1 - 1 + 0 := by
  have hregular : Traffic.Along desk Traffic.Regular ⟨world, [], []⟩ dealings := by
    refine Traffic.along_regular fit_world.sound rfl (fun mv hmv => ?_) (by decide +kernel)
    simp only [dealings, List.mem_append, List.mem_cons, List.not_mem_nil, or_false] at hmv
    rcases hmv with (((rfl | rfl) | hturn) | (rfl | rfl | rfl | rfl))
    · exact .inr ⟨_, _, rfl⟩
    · exact .inr ⟨_, _, rfl⟩
    · exact .inl (OneSpot.mem_turns hturn)
    · exact .inr ⟨_, _, rfl⟩
    · exact .inr ⟨_, _, rfl⟩
    · exact .inl ⟨_, rfl⟩
    · exact .inl ⟨_, rfl⟩
  obtain ⟨hnodup, -, hspots, -⟩ :=
    registry_accounts_for_bookings rfl fit_world.sound rfl rfl hregular
  obtain ⟨o, ho, hbookings⟩ := hspots ⟨1⟩ trip rfl
  refine ⟨fit_world.sound, rfl, hregular, by decide +kernel, hnodup, o, ho, hbookings.trans ?_⟩
  decide +kernel

end DiveSchool
