import DiveSchool.Desk.Procedure

/-!
# `DiveSchool.Ledger.Basic` — where counters and records are kept

A ledger keeps the offerings with their counters and the records of bookings. The desk knows it by five
indivisible operations; what it is made of is up to the ledger.

## Contents
- **Replies.** `Reply`: an answer, the state after it, and what was logged meanwhile.
- **Ledgers.** `Ledger`, the five operations on a state.
- **Worlds.** `World`, all that a procedure works on, and `Ledger.serve`, which serves its requests.
-/

namespace DiveSchool

/-! ## Replies -/

/-- The answer of an operation, the state it leaves and the events it logged. -/
structure Reply (σ α : Type) where
  answer : α
  state : σ
  events : List Event := []

/-! ## Ledgers -/

/-- A keeper of offerings and records, as the desk knows it. -/
structure Ledger (σ : Type) where
  /-- Look an offering up. -/
  find : OfferingId → σ → Reply σ (Except Failure (Option Offering))
  /-- Recheck an offering and take a spot. -/
  reserve : Timestamp → OfferingId → σ → Reply σ (Except Failure Reservation)
  /-- Recheck an offering and free a spot. -/
  release : Timestamp → OfferingId → σ → Reply σ (Except Failure Freeing)
  /-- Store a record; false when its reference is taken. -/
  store : Booking → σ → Reply σ (Except Failure Bool)
  /-- Remove a record and return it. -/
  remove : String → σ → Reply σ (Except Failure (Option Booking))

/-! ## Worlds -/

/-- All that a procedure works on. -/
structure World (σ : Type) where
  /-- The state of the ledger. -/
  state : σ
  registry : Registry
  generator : Generator
  /-- The present moment. -/
  now : Timestamp
  /-- What was logged, oldest first. -/
  log : List Event

namespace World

variable {σ α : Type}

/-- Take over the state and the events of a reply. -/
def afterReply (w : World σ) (r : Reply σ α) : World σ :=
  { w with state := r.state, log := w.log ++ r.events }

end World

namespace Ledger

variable {σ : Type}

/-- Serve one request. -/
def serve (l : Ledger σ) : (r : Request) → World σ → r.Answer × World σ
  | .find id, w =>
    let r := l.find id w.state
    (r.answer, w.afterReply r)
  | .reserve id, w =>
    let r := l.reserve w.now id w.state
    (r.answer, w.afterReply r)
  | .release id, w =>
    let r := l.release w.now id w.state
    (r.answer, w.afterReply r)
  | .store booking, w =>
    let r := l.store booking w.state
    (r.answer, w.afterReply r)
  | .remove reference, w =>
    let r := l.remove reference w.state
    (r.answer, w.afterReply r)
  | .draw, w =>
    let (suffix, generator) := w.generator.draw
    (suffix, { w with generator })
  | .claim reference id, w =>
    match w.registry.claim? reference id with
    | some registry => (true, { w with registry })
    | none => (false, w)
  | .enter reference id, w => ((), { w with registry := w.registry.insert reference id })
  | .forget reference, w =>
    (w.registry.get? reference, { w with registry := w.registry.erase reference })
  | .log event, w => ((), { w with log := w.log ++ [event] })

/-- Run a procedure without interruption. -/
def run {α : Type} (l : Ledger σ) (p : Procedure α) (w : World σ) : α × World σ := p.run l.serve w

end Ledger

end DiveSchool
