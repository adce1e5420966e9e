import DiveSchool.Desk.Outcome
import DiveSchool.Event
import DiveSchool.Reference

/-!
# `DiveSchool.Desk.Procedure` — operations as sequences of steps

The desk works on things that others change at the same time: the offerings, the records, the registry
of references and the source of random words. An operation is therefore a tree of steps, each of which
is indivisible: a request to one of those things, and what to do with the answer. The same tree is run
alone, interleaved with others, over memory or over a database, with or without faults.

## Contents
- **Requests.** `Request` and the type of its answer, `Request.Answer`.
- **Procedures.** `Procedure`, its monad, and one step per request.
- **Running.** `Procedure.run` serves every step by a handler.
-/

namespace DiveSchool

/-! ## Requests -/

/-- One indivisible step on what the desk shares with others. -/
inductive Request where
  /-- Look an offering up. -/
  | find (id : OfferingId)
  /-- Recheck an offering and take a spot. -/
  | reserve (id : OfferingId)
  /-- Recheck an offering and free a spot. -/
  | release (id : OfferingId)
  /-- Store a record unless its reference is taken. -/
  | store (booking : Booking)
  /-- Remove a record. -/
  | remove (reference : String)
  /-- Draw a suffix. -/
  | draw
  /-- Enter a reference into the registry unless it is there. -/
  | claim (reference : String) (id : OfferingId)
  /-- Enter a reference into the registry whatever is there. -/
  | enter (reference : String) (id : OfferingId)
  /-- Take a reference out of the registry. -/
  | forget (reference : String)
  /-- Write to the log. -/
  | log (event : Event)
  deriving Repr

/-- What a request is answered with. -/
def Request.Answer : Request → Type
  | find _ => Except Failure (Option Offering)
  | reserve _ => Except Failure Reservation
  | release _ => Except Failure Freeing
  | store _ => Except Failure Bool
  | remove _ => Except Failure (Option Booking)
  | draw => Suffix
  | claim _ _ => Bool
  | enter _ _ => Unit
  | forget _ => Option OfferingId
  | log _ => Unit

/-! ## Procedures -/

/-- A sequence of steps that ends in a result. -/
inductive Procedure (α : Type) where
  /-- Nothing left to do. -/
  | done (result : α)
  /-- One step, and what follows each answer. -/
  | step (request : Request) (next : request.Answer → Procedure α)

namespace Procedure

variable {α β : Type}

/-- Go on with another procedure once the first is done. -/
def andThen (p : Procedure α) (f : α → Procedure β) : Procedure β :=
  match p with
  | done a => f a
  | step r next => step r fun x => (next x).andThen f

instance : Monad Procedure where
  pure := done
  bind := andThen

@[simp] theorem pure_eq (a : α) : (pure a : Procedure α) = done a := rfl

@[simp] theorem done_bind (a : α) (f : α → Procedure β) : done a >>= f = f a := rfl

@[simp] theorem step_bind (r : Request) (next : r.Answer → Procedure α) (f : α → Procedure β) :
    step r next >>= f = step r fun x => next x >>= f := rfl

/-- The procedure that makes one request. -/
def ask (r : Request) : Procedure r.Answer := step r done

/-- Look an offering up. -/
def find (id : OfferingId) : Procedure (Except Failure (Option Offering)) := ask (.find id)

/-- Recheck an offering and take a spot. -/
def reserve (id : OfferingId) : Procedure (Except Failure Reservation) := ask (.reserve id)

/-- Recheck an offering and free a spot. -/
def release (id : OfferingId) : Procedure (Except Failure Freeing) := ask (.release id)

/-- Store a record; false when its reference is taken. -/
def store (booking : Booking) : Procedure (Except Failure Bool) := ask (.store booking)

/-- Remove a record and return it. -/
def remove (reference : String) : Procedure (Except Failure (Option Booking)) :=
  ask (.remove reference)

/-- Draw a suffix. -/
def draw : Procedure Suffix := ask .draw

/-- Enter a reference unless it is there; whether it was entered. -/
def claim (reference : String) (id : OfferingId) : Procedure Bool := ask (.claim reference id)

/-- Enter a reference whatever is there. -/
def enter (reference : String) (id : OfferingId) : Procedure Unit := ask (.enter reference id)

/-- Take a reference out and return its offering. -/
def forget (reference : String) : Procedure (Option OfferingId) := ask (.forget reference)

/-- Write to the log. -/
def log (event : Event) : Procedure Unit := ask (.log event)

/-! ## Running -/

/-- Serve every step by a handler that carries a world along. -/
def run {ω : Type} (handle : (r : Request) → ω → r.Answer × ω) : Procedure α → ω → α × ω
  | done a, w => (a, w)
  | step r next, w => run handle (next (handle r w).1) (handle r w).2

theorem run_bind {ω : Type} (handle : (r : Request) → ω → r.Answer × ω) (p : Procedure α)
    (f : α → Procedure β) (w : ω) :
    run handle (p >>= f) w = run handle (f (run handle p w).1) (run handle p w).2 := by
  induction p generalizing w with
  | done a => rfl
  | step r next ih => exact ih (handle r w).1 (handle r w).2

end Procedure

end DiveSchool
