import DiveSchool.Proofs.Beside
import DiveSchool.Proofs.Session
import DiveSchool.Ledger.Relational

/-!
# `DiveSchool.Proofs.Outage` — an outage leaves no trace

A pool that is closed refuses every statement. Each call meets that at another point: a booking when it
looks the offering up, a release when it starts its transaction, the cancellation of a record when it
removes the record, and a cancellation by the registry only after it has taken the reference out. In each
case the failure of the first query is all that comes of the call, and whatever the call had changed is put
back. So calls made during an outage make no difference to those made after it.

Calls are made one after another here, each at some moment.

## Contents
- **Closed pools.** What a query comes to on a closed pool.
- **Failing calls.** `Call.Fails`, the failure of the first query of a call; `Call.failing`, how the call ends.
- **Traces.** `World.Unharmed`: a difference that no call can notice (`Unharmed.run`).
- **Calls in an outage.** `outage`, what a call asks while every query fails; every call keeps to it.
- **Main result.** `outage_leaves_no_trace`.
-/

namespace DiveSchool

/-! ## Closed pools -/

namespace Database

open Session

section Closed

variable {α : Type} {db : Database} (hclosed : db.isOpen = false)
include hclosed

theorem statement_of_closed (kind : StatementKind) (failure : Refusal → Failure)
    (act : Tables → Except Refusal (α × Tables)) :
    statement kind failure act db = (.error (failure .closed), db) := by
  simp only [statement, carryOut, hclosed, Bool.not_false, if_true]

theorem transaction_of_closed (work : Session (Session.Ending α)) :
    transaction work db = (.error (notStarted .closed), db) := by
  have hstart : control .start notStarted db = (.error (notStarted .closed), db) :=
    statement_of_closed hclosed _ _ _
  show (control .start notStarted >>= fun _ => finish db _) db = _
  rw [bind_apply, hstart]

end Closed

/-- A query fails for now, and changes nothing. -/
def Unanswered {α : Type} (s : Session α) (db : Database) (f : Failure) : Prop :=
  s db = (.error f, db) ∧ f.isTransient = true

variable {db : Database}

theorem unanswered_find (h : db.isOpen = false) (id : OfferingId) :
    ∃ f, Unanswered (findOffering id) db f := ⟨_, statement_of_closed h _ _ _, rfl⟩

theorem unanswered_decrement (h : db.isOpen = false) (now : Timestamp) (id : OfferingId) :
    ∃ f, Unanswered (decrement now id) db f := ⟨_, transaction_of_closed h _, rfl⟩

theorem unanswered_remove (h : db.isOpen = false) (reference : String) :
    ∃ f, Unanswered (removeBooking reference) db f := ⟨_, statement_of_closed h _ _ _, rfl⟩

end Database

/-! ## Failing calls -/

namespace Call

/-- The first query of a call fails for now. -/
inductive Fails (w : World Database) : Call → Failure → Prop
  | book {now : Timestamp} {id : OfferingId} {holder : Holder} {f : Failure}
      (h : Database.Unanswered (Database.findOffering id) w.state f) : Fails w (.book now id holder) f
  | bookRecorded {now : Timestamp} {id : OfferingId} {holder : Holder} {f : Failure}
      (h : Database.Unanswered (Database.findOffering id) w.state f) :
      Fails w (.bookRecorded now id holder) f
  | release {id : OfferingId} {f : Failure}
      (h : Database.Unanswered (Database.decrement w.now id) w.state f) : Fails w (.release id) f
  | cancel {reference : String} {id : OfferingId} {f : Failure} (hentered : w.registry.get? reference = some id)
      (h : Database.Unanswered (Database.decrement w.now id) w.state f) : Fails w (.cancel reference) f
  | cancelRecorded {reference : String} {f : Failure}
      (h : Database.Unanswered (Database.removeBooking reference) w.state f) :
      Fails w (.cancelRecorded reference) f
  | availability {id : OfferingId} {f : Failure}
      (h : Database.Unanswered (Database.findOffering id) w.state f) : Fails w (.availability id) f

/-- A call that ends with a failure of the infrastructure. -/
def failing (f : Failure) : Call → Ending
  | book _ _ _ | bookRecorded _ _ _ => .booked (.error (.infrastructure f))
  | release _ | cancel _ | cancelRecorded _ => .freed (.error (.infrastructure f))
  | availability _ => .shown (.error f)

end Call

namespace Ending

/-- The failure that an ending stands for. -/
def failure? : Ending → Option Failure
  | booked (.error e) => some e.toFailure
  | freed (.error e) => some e.toFailure
  | shown (.error f) => some f
  | _ => none

/-- Whether trying again may help. -/
def isTransient : Ending → Bool
  | booked (.error e) => e.isTransient
  | freed (.error e) => e.isTransient
  | shown (.error f) => f.isTransient
  | _ => false

@[simp] theorem failure?_failing (c : Call) (f : Failure) : (c.failing f).failure? = some f := by
  cases c <;> rfl

@[simp] theorem isTransient_failing (c : Call) (f : Failure) :
    (c.failing f).isTransient = f.isTransient := by
  cases c <;> rfl

end Ending

/-! ## Traces -/

namespace World

/-- Tables, registry and generator are as they were: the registry has the same entries, whatever order they
    came in. What was logged may differ. -/
structure Unharmed (w w' : World Database) : Prop where
  state : w'.state = w.state
  registry : ∀ reference, w'.registry.get? reference = w.registry.get? reference
  generator : w'.generator = w.generator

namespace Unharmed

variable {w w' w'' : World Database}

theorem refl (w : World Database) : Unharmed w w := ⟨rfl, fun _ => rfl, rfl⟩

theorem trans (h : Unharmed w w') (h' : Unharmed w' w'') : Unharmed w w'' where
  state := h'.state.trans h.state
  registry reference := (h'.registry reference).trans (h.registry reference)
  generator := h'.generator.trans h.generator

/-- The same moment comes. -/
theorem clock (h : Unharmed w w') (now : Timestamp) : Unharmed { w with now } { w' with now } :=
  ⟨h.state, h.registry, h.generator⟩

/-- A request cannot notice the difference. -/
theorem serve (h : Unharmed w w') (hnow : w'.now = w.now) (r : Request) :
    (Database.ledger.serve r w).1 = (Database.ledger.serve r w').1 ∧
      Unharmed (Database.ledger.serve r w).2 (Database.ledger.serve r w').2 ∧
      (Database.ledger.serve r w').2.now = (Database.ledger.serve r w).2.now := by
  obtain ⟨state, registry, generator, now, log⟩ := w
  obtain ⟨state', registry', generator', now', log'⟩ := w'
  obtain ⟨hstate, hregistry, hgenerator⟩ := h
  simp only at hstate hregistry hgenerator hnow
  subst hstate hgenerator hnow
  cases r with
  | claim reference id =>
      have hcontains : registry'.contains reference = registry.contains reference :=
        congrArg Option.isSome (hregistry reference)
      simp only [Ledger.serve, Registry.claim?, hcontains]
      cases registry.contains reference with
      | true => exact ⟨rfl, ⟨rfl, hregistry, rfl⟩, rfl⟩
      | false =>
          refine ⟨rfl, ⟨rfl, fun reference' => ?_, rfl⟩, rfl⟩
          show (registry'.insert reference id).get? reference' = (registry.insert reference id).get? reference'
          rw [Table.get?_insert, Table.get?_insert, hregistry]
  | enter reference id =>
      refine ⟨rfl, ⟨rfl, fun reference' => ?_, rfl⟩, rfl⟩
      show (registry'.insert reference id).get? reference' = (registry.insert reference id).get? reference'
      rw [Table.get?_insert, Table.get?_insert, hregistry]
  | forget reference =>
      refine ⟨(hregistry reference).symm, ⟨rfl, fun reference' => ?_, rfl⟩, rfl⟩
      show (registry'.erase reference).get? reference' = (registry.erase reference).get? reference'
      rw [Table.get?_erase, Table.get?_erase, hregistry]
  | _ => exact ⟨rfl, ⟨rfl, hregistry, rfl⟩, rfl⟩

/-- **No procedure can notice the difference.** -/
theorem run (h : Unharmed w w') (hnow : w'.now = w.now) {α : Type} (p : Procedure α) :
    (Database.ledger.run p w).1 = (Database.ledger.run p w').1 ∧
      Unharmed (Database.ledger.run p w).2 (Database.ledger.run p w').2 := by
  have hself : p.Beside (fun _ => True) (fun _ x y => x = y) (Procedure.Both Eq) p :=
    Procedure.beside_self (fun _ => trivial) (fun _ _ _ h => h) p
  obtain ⟨hresult, hafter, -⟩ := hself.run (W := fun w w' => Unharmed w w' ∧ w'.now = w.now)
    (Q := fun x y => x = y) (fun r w w' _ h => h.1.serve h.2 r)
    (fun e e' w w' h => ⟨⟨h.1.state, h.1.registry, h.1.generator⟩, h.2⟩)
    (fun _ _ ⟨hQ⟩ _ _ hW => ⟨hQ, hW⟩) ⟨h, hnow⟩
  exact ⟨hresult, hafter⟩

end Unharmed

end World

/-! ## Calls in an outage -/

/-- An observer of a call while every query fails. It keeps in mind which entry is missing from the registry
    and is still to be put back; nothing is drawn and nothing is claimed. -/
def outage (w : World Database) : Protocol (Option (String × OfferingId)) where
  start := none
  may
    | none, .find _ | none, .remove _ | none, .forget _ | _, .release _ | _, .log _ => True
    | missing, .enter reference id => missing = some (reference, id)
    | _, _ => False
  heard
    | _, .find id, x => ∃ f, Database.Unanswered (Database.findOffering id) w.state f ∧ x = .error f
    | _, .release id, x =>
      ∃ f, Database.Unanswered (Database.decrement w.now id) w.state f ∧ x = .error f
    | _, .remove reference, x =>
      ∃ f, Database.Unanswered (Database.removeBooking reference) w.state f ∧ x = .error f
    | _, .forget reference, x => x = w.registry.get? reference
    | _, _, _ => True
  next
    | _, .forget reference, some id => some (reference, id)
    | _, .enter _ _, _ => none
    | missing, _, _ => missing

/-- What a call comes to in an outage: the first query fails for now, or none is made. -/
inductive Call.Ends (w : World Database) : Call → Ending → Prop
  | unknown {reference : String} (h : w.registry.get? reference = none) :
      Ends w (.cancel reference) (.freed (.error (.notFound (Booking.unknown reference))))
  | failed {c : Call} {f : Failure} (h : c.Fails w f) (htransient : f.isTransient = true) :
      Ends w c (c.failing f)

section Follows

variable {w : World Database}

theorem outage_ignores_log (w : World Database) (event : Event) : (outage w).Ignores (.log event) :=
  fun s => ⟨by cases s <;> exact trivial, fun _ => rfl⟩

/-- **Reserving** fails at the look-up. -/
theorem follows_reserve_outage (d : Desk) (id : OfferingId) (holder : Holder) :
    (d.reserve id holder).Follows (outage w) (fun missing x => missing = none ∧
      ∃ f, Database.Unanswered (Database.findOffering id) w.state f ∧ x = .error (.infrastructure f))
      none := by
  refine Desk.follows_reserve (outage_ignores_log w) trivial ?_ ?_
  · rintro x e ⟨f, hf, rfl⟩ hjudge
    cases hjudge
    exact ⟨rfl, f, hf, rfl⟩
  · rintro x ⟨f, -, rfl⟩ hjudge
    cases hjudge

/-- **Every call** ends with the failure of its first query, and nothing is missing from the registry then. -/
theorem follows_outage (d : Desk) (c : Call) :
    (c.procedure d).Follows (outage w) (fun missing e => missing = none ∧ c.Ends w e) none := by
  have hlog := outage_ignores_log w
  cases c with
  | book now id holder =>
      refine Procedure.follows_bind.mpr (Desk.book_rule hlog ((follows_reserve_outage d id holder).mono ?_))
      rintro missing x ⟨rfl, f, hf, rfl⟩
      exact ⟨rfl, .failed (.book hf) hf.2⟩
  | bookRecorded now id holder =>
      refine Procedure.follows_bind.mpr (Procedure.follows_bind.mpr
        ((follows_reserve_outage d id holder).mono ?_))
      rintro missing x ⟨rfl, f, hf, rfl⟩
      exact ⟨rfl, .failed (.bookRecorded hf) hf.2⟩
  | release id =>
      refine Procedure.follows_bind.mpr (Desk.follows_release hlog trivial ?_)
      rintro x ⟨f, hf, rfl⟩
      exact ⟨rfl, .failed (.release hf) hf.2⟩
  | cancel reference =>
      refine Procedure.follows_bind.mpr (Desk.cancel_rule hlog trivial ?_ ?_)
      · exact fun hnone => ⟨rfl, .unknown hnone.symm⟩
      · -- the reference is out of the registry when the release fails, and is put back
        refine fun id hsome => ⟨trivial, ?_⟩
        rintro x ⟨f, hf, rfl⟩
        exact Procedure.follows_ask.mpr ⟨rfl, fun _ _ => ⟨rfl, .failed (.cancel hsome.symm hf) hf.2⟩⟩
  | cancelRecorded reference =>
      refine Procedure.follows_bind.mpr (Desk.cancelRecorded_rule hlog trivial ?_ ?_ ?_)
      · rintro cause ⟨f, hf, hcause⟩
        cases hcause
        exact ⟨rfl, .failed (.cancelRecorded hf) hf.2⟩
      · rintro ⟨f, -, hnone⟩
        cases hnone
      · rintro b ⟨f, -, hsome⟩
        cases hsome
  | availability id =>
      refine Procedure.follows_bind.mpr (Desk.follows_availability trivial ?_)
      rintro x ⟨f, hf, rfl⟩
      exact ⟨rfl, .failed (.availability hf) hf.2⟩

end Follows

namespace World

/-- The world as it was, but for one entry that is missing from the registry. -/
structure Lacks (w : World Database) (missing : Option (String × OfferingId)) (w' : World Database) :
    Prop where
  state : w'.state = w.state
  generator : w'.generator = w.generator
  now : w'.now = w.now
  registry : ∀ reference, (∀ id, missing ≠ some (reference, id)) →
    w'.registry.get? reference = w.registry.get? reference
  entered : ∀ reference id, missing = some (reference, id) → w.registry.get? reference = some id

namespace Lacks

variable {w w' : World Database} {missing : Option (String × OfferingId)}

theorem refl (w : World Database) : Lacks w none w := ⟨rfl, rfl, rfl, fun _ _ => rfl, nofun⟩

/-- If nothing is missing, nothing has happened. -/
theorem unharmed (h : Lacks w none w') : Unharmed w w' :=
  ⟨h.state, fun reference => h.registry reference nofun, h.generator⟩

/-- What is logged does not matter. -/
theorem logged (h : Lacks w missing w') (log : List Event) : Lacks w missing { w' with log } :=
  ⟨h.state, h.generator, h.now, h.registry, h.entered⟩

/-- **One request** in an outage is answered as the observer reckons. -/
theorem serve (h : Lacks w missing w') (hclosed : w.state.isOpen = false) {r : Request}
    (hmay : (outage w).may missing r) :
    (outage w).heard missing r (Database.ledger.serve r w').1 ∧
      Lacks w ((outage w).next missing r (Database.ledger.serve r w').1) (Database.ledger.serve r w').2 := by
  obtain ⟨state, registry, generator, now, log⟩ := w'
  have hstate : state = w.state := h.state
  have hnow : now = w.now := h.now
  subst hstate hnow
  cases r with
  | find id =>
      obtain ⟨f, hf⟩ := Database.unanswered_find hclosed id
      have hserve : Database.ledger.serve (.find id) ⟨w.state, registry, generator, w.now, log⟩ =
          (.error f, ⟨w.state, registry, generator, w.now, log ++ []⟩) := by
        simp only [Ledger.serve, Database.ledger, Database.reply, hf.1, World.afterReply]
      rw [hserve]
      exact ⟨⟨f, hf, rfl⟩, h.logged _⟩
  | release id =>
      obtain ⟨f, hf⟩ := Database.unanswered_decrement hclosed w.now id
      have hserve : Database.ledger.serve (.release id) ⟨w.state, registry, generator, w.now, log⟩ =
          (.error f, ⟨w.state, registry, generator, w.now, log ++ []⟩) := by
        simp only [Ledger.serve, Database.ledger, Database.release, hf.1, World.afterReply]
        rfl
      rw [hserve]
      exact ⟨⟨f, hf, rfl⟩, h.logged _⟩
  | remove reference =>
      obtain ⟨f, hf⟩ := Database.unanswered_remove hclosed reference
      have hserve : Database.ledger.serve (.remove reference) ⟨w.state, registry, generator, w.now, log⟩ =
          (.error f, ⟨w.state, registry, generator, w.now, log ++ []⟩) := by
        simp only [Ledger.serve, Database.ledger, Database.reply, hf.1, World.afterReply]
      rw [hserve]
      exact ⟨⟨f, hf, rfl⟩, h.logged _⟩
  | forget reference =>
      obtain rfl : missing = none := by
        cases missing with
        | none => rfl
        | some _ => exact hmay.elim
      have hregistry : ∀ reference, registry.get? reference = w.registry.get? reference :=
        fun reference => h.registry reference fun _ hnone => by cases hnone
      refine ⟨hregistry reference, ?_⟩
      show Lacks w ((outage w).next none (.forget reference) (registry.get? reference))
        ⟨w.state, registry.erase reference, generator, w.now, log⟩
      cases hentered : registry.get? reference with
      | none =>
          rw [Table.erase_of_get?_eq_none hentered]
          exact h
      | some id =>
          refine ⟨rfl, h.generator, rfl, fun reference' hother => ?_, fun _ _ hmissing => ?_⟩
          · have hne : reference' ≠ reference := fun hsame => hother id (hsame ▸ rfl)
            show (registry.erase reference).get? reference' = w.registry.get? reference'
            rw [Table.get?_erase, if_neg hne, hregistry]
          · cases hmissing
            exact (hregistry reference).symm.trans hentered
  | enter reference id =>
      obtain rfl : missing = some (reference, id) := by
        cases missing <;> exact hmay
      refine ⟨trivial, rfl, h.generator, rfl, fun reference' _ => ?_, fun _ _ hnone => by cases hnone⟩
      -- the entry that was missing is back
      show (registry.insert reference id).get? reference' = w.registry.get? reference'
      rw [Table.get?_insert]
      split
      · next hsame => rw [hsame, h.entered reference id rfl]
      · next hother =>
          refine h.registry reference' fun id' hmissing => hother ?_
          cases hmissing
          rfl
  | log event => exact ⟨trivial, h.logged _⟩
  | _ => cases missing <;> exact hmay.elim

end Lacks

end World

/-! ## One call after another -/

namespace Desk

/-- Carry a call out on a database at some moment. -/
def attendAt (d : Desk) (now : Timestamp) (c : Call) (w : World Database) : Ending × World Database :=
  Database.ledger.run (c.procedure d) { w with now }

/-- The world after calls made one after another. -/
def attendAll (d : Desk) (calls : List (Timestamp × Call)) (w : World Database) : World Database :=
  calls.foldl (fun w c => (d.attendAt c.1 c.2 w).2) w

/-- What calls made one after another come to. -/
def endings (d : Desk) : List (Timestamp × Call) → World Database → List Ending
  | [], _ => []
  | (now, c) :: calls, w => (d.attendAt now c w).1 :: d.endings calls (d.attendAt now c w).2

end Desk

namespace World

/-- The world once the pool is open again. -/
def reopened (w : World Database) : World Database := { w with state := { w.state with isOpen := true } }

variable {w w' : World Database}

theorem Unharmed.reopened (h : Unharmed w w') : Unharmed w.reopened w'.reopened := by
  refine ⟨?_, h.registry, h.generator⟩
  show ({ w'.state with isOpen := true } : Database) = { w.state with isOpen := true }
  rw [h.state]

theorem Unharmed.attendAt (h : Unharmed w w') (d : Desk) (now : Timestamp) (c : Call) :
    (d.attendAt now c w).1 = (d.attendAt now c w').1 ∧
      Unharmed (d.attendAt now c w).2 (d.attendAt now c w').2 := (h.clock now).run rfl _

/-- No number of calls can notice the difference. -/
theorem Unharmed.endings (h : Unharmed w w') (d : Desk) (calls : List (Timestamp × Call)) :
    d.endings calls w = d.endings calls w' ∧ Unharmed (d.attendAll calls w) (d.attendAll calls w') := by
  induction calls generalizing w w' with
  | nil => exact ⟨rfl, h⟩
  | cons c calls ih =>
      obtain ⟨now, c⟩ := c
      obtain ⟨hending, hafter⟩ := h.attendAt d now c
      obtain ⟨hendings, hlast⟩ := ih hafter
      exact ⟨by rw [Desk.endings, Desk.endings, hending, hendings], hlast⟩

/-- **One call in an outage** does no harm and ends with the failure of its first query. -/
theorem outage_attendAt (hclosed : w.state.isOpen = false) (d : Desk) (now : Timestamp) (c : Call) :
    Unharmed w (d.attendAt now c w).2 ∧ c.Ends { w with now } (d.attendAt now c w).1 := by
  obtain ⟨missing, ⟨rfl, hends⟩, hlacks⟩ := (follows_outage (w := { w with now }) d c).run
    (R := fun missing w' => Lacks { w with now } missing w')
    (fun _ _ _ h hmay => h.serve hclosed hmay) (.refl _)
  obtain ⟨hstate, hregistry, hgenerator⟩ := hlacks.unharmed
  exact ⟨⟨hstate, hregistry, hgenerator⟩, hends⟩

/-- Any number of calls in an outage does no harm. -/
theorem outage_attendAll (hclosed : w.state.isOpen = false) (d : Desk) (calls : List (Timestamp × Call)) :
    Unharmed w (d.attendAll calls w) := by
  induction calls generalizing w with
  | nil => exact .refl w
  | cons c calls ih =>
      obtain ⟨hunharmed, -⟩ := outage_attendAt hclosed d c.1 c.2
      exact hunharmed.trans (ih ((congrArg Database.isOpen hunharmed.state).trans hclosed))

/-- A reference that is not in the registry is unknown, whatever the database answers. -/
theorem attendAt_unknown (d : Desk) (now : Timestamp) {reference : String}
    (h : w.registry.get? reference = none) : (d.attendAt now (.cancel reference) w).1 =
      .freed (.error (.notFound (Booking.unknown reference))) := by
  have hcancel : (Database.ledger.run (Desk.cancel reference) { w with now }).1 =
      .error (.notFound (Booking.unknown reference)) := by
    unfold Desk.cancel
    rw [Ledger.run, Procedure.run_bind]
    have hforget : ((Procedure.forget reference).run Database.ledger.serve { w with now }).1 = none := h
    rw [hforget]
    rfl
  show (Procedure.run Database.ledger.serve (Desk.cancel reference >>= fun x => pure (Ending.freed x))
    { w with now }).1 = _
  rw [Procedure.run_bind]
  exact congrArg Ending.freed hcancel

end World

/-! ## Main result -/

/-- **An outage leaves no trace.** While the pool is closed, every call leaves tables, registry and generator
    as they were. Either it cancels a reference that is not in the registry, which takes no query, and ends
    as it does when the pool is open; or it ends with the failure of its first query, as a failure of the
    infrastructure and nothing else, and trying again may help. So after any number of calls made during
    the outage, calls on the pool open again come to what they would have come to without it, and leave
    what they would have left. -/
theorem outage_leaves_no_trace (d : Desk) {w : World Database} (hclosed : w.state.isOpen = false) :
    (∀ now c, World.Unharmed w (d.attendAt now c w).2 ∧
      ((∃ reference, c = .cancel reference ∧ w.registry.get? reference = none ∧
          (d.attendAt now c w).1 = .freed (.error (.notFound (Booking.unknown reference))) ∧
          (d.attendAt now c w.reopened).1 = (d.attendAt now c w).1) ∨
        ∃ f, c.Fails { w with now } f ∧ (d.attendAt now c w).1 = c.failing f ∧
          (c.failing f).isTransient = true ∧ (c.failing f).failure? = some f)) ∧
    ∀ during later, d.endings later (d.attendAll during w).reopened = d.endings later w.reopened ∧
      World.Unharmed (d.attendAll later w.reopened) (d.attendAll later (d.attendAll during w).reopened) := by
  refine ⟨fun now c => ?_, fun during later => ?_⟩
  · obtain ⟨hunharmed, hends⟩ := World.outage_attendAt hclosed d now c
    refine ⟨hunharmed, ?_⟩
    generalize hending : (d.attendAt now c w).1 = e at hends
    cases hends with
    | @unknown reference hnone =>
        exact .inl ⟨reference, rfl, hnone, rfl, World.attendAt_unknown (w := w.reopened) d now hnone⟩
    | @failed c f hfails htransient =>
        refine .inr ⟨f, hfails, rfl, ?_, Ending.failure?_failing c f⟩
        rw [Ending.isTransient_failing, htransient]
  · have hduring := (World.outage_attendAll hclosed d during).reopened
    obtain ⟨hendings, hlast⟩ := hduring.endings d later
    exact ⟨hendings.symm, hlast⟩

namespace ClosedPool

/-- The spot of a trip with one spot is booked and its reference is in the registry, and the pool is
    closed. -/
def world : World Database :=
  { state :=
      { tables := { Tables.empty with offerings := Table.empty.insert ⟨1⟩ (OneSpot.trip 1) }
        isOpen := false }
    registry := Table.empty.insert "REEF_ANN_100" ⟨1⟩
    generator := default
    now := default
    log := [] }

/-- What is tried while the pool is closed: the cancellation, another booking and a look-up. -/
def during : List (Timestamp × Call) :=
  [(default, .cancel "REEF_ANN_100"), (default, OneSpot.booking), (default, .availability ⟨1⟩)]

/-- The cancellation once more. -/
def later : List (Timestamp × Call) := [(default, .cancel "REEF_ANN_100")]

end ClosedPool

open ClosedPool in
/-- Everything fails for now while the pool is closed; after that the cancellation succeeds as it would have
    at once. -/
theorem cancelled_after_outage :
    world.state.isOpen = false ∧
      (OneSpot.desk.endings during world).map Ending.isTransient = [true, true, true] ∧
      OneSpot.desk.endings later (OneSpot.desk.attendAll during world).reopened =
        OneSpot.desk.endings later world.reopened ∧
      (OneSpot.desk.endings later world.reopened).map (·.snapshot?.map Snapshot.bookings) = [some 0] := by
  have hlater := (outage_leaves_no_trace OneSpot.desk (w := world) rfl).2 during later
  refine ⟨rfl, by decide +kernel, hlater.1, ?_⟩
  decide +kernel

end DiveSchool
