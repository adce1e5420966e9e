import DiveSchool.Ledger.Basic

/-!
# `DiveSchool.Drill` — a ledger with faults ordered in advance

A drill puts a layer in front of a ledger that fails, answers with an outdated offering, or lets a rival
act, when and as often as it was told to. Otherwise it passes everything on.

## Contents
- **Orders.** `Faults`, what is still to go wrong, and `FaultPoint`, where.
- **Layer.** `Drill`, the faults and the state behind them, and `Drill.ledger`.
-/

namespace DiveSchool

/-! ## Orders -/

/-- The operations that can be told to fail. -/
inductive FaultPoint where
  | find
  | reserve
  | release
  | store
  | remove
  deriving DecidableEq, Repr, Inhabited

/-- What is still to go wrong. -/
structure Faults where
  /-- The failures in store, oldest first, each with the operation it will hit. -/
  queue : List (FaultPoint × Failure) := []
  /-- What every look-up answers instead of the truth. -/
  stale : Option (Option Offering) := none
  /-- The offerings of which a rival frees a spot before the next record is stored. -/
  rivals : List OfferingId := []
  deriving Inhabited

namespace Faults

/-- The next failure of an operation, and the faults without it. -/
def take (f : Faults) (point : FaultPoint) : Option (Failure × Faults) :=
  (f.queue.find? (·.1 = point)).map fun hit =>
    (hit.2, { f with queue := f.queue.eraseP (·.1 = point) })

/-- Order a failure a number of times. -/
def order (f : Faults) (point : FaultPoint) (failure : Failure) (times : Nat) : Faults :=
  { f with queue := f.queue ++ List.replicate times (point, failure) }

end Faults

/-! ## Layer -/

/-- A state with faults in front of it. -/
structure Drill (σ : Type) where
  faults : Faults
  inner : σ

namespace Drill

variable {σ α : Type}

/-- Fail as ordered, else let the ledger answer. -/
def guarded (point : FaultPoint) (act : σ → Reply σ (Except Failure α)) (d : Drill σ) :
    Reply (Drill σ) (Except Failure α) :=
  match d.faults.take point with
  | some (failure, faults) => ⟨.error failure, { d with faults }, []⟩
  | none =>
    let r := act d.inner
    ⟨r.answer, { d with inner := r.state }, r.events⟩

/-- Look an offering up; a stale answer comes after an ordered failure and before the truth. -/
def find (l : Ledger σ) (id : OfferingId) (d : Drill σ) :
    Reply (Drill σ) (Except Failure (Option Offering)) :=
  match d.faults.stale with
  | none => d.guarded .find (l.find id)
  | some answer => d.guarded .find fun s => ⟨.ok answer, s, []⟩

/-- Let the rivals free their spots. -/
def releaseRivals (l : Ledger σ) (now : Timestamp) (d : Drill σ) : Reply (Drill σ) Unit :=
  d.faults.rivals.foldl
    (fun (acc : Reply (Drill σ) Unit) id =>
      let r := l.release now id acc.state.inner
      ⟨(), { acc.state with inner := r.state }, acc.events ++ r.events⟩)
    ⟨(), { d with faults := { d.faults with rivals := [] } }, []⟩

/-- Store a record, after the rivals have acted. -/
def store (l : Ledger σ) (now : Timestamp) (b : Booking) (d : Drill σ) :
    Reply (Drill σ) (Except Failure Bool) :=
  let r := d.releaseRivals l now
  let s := r.state.guarded .store (l.store b)
  ⟨s.answer, s.state, r.events ++ s.events⟩

/-- The ledger behind the faults, at one moment. -/
def ledger (l : Ledger σ) (now : Timestamp) : Ledger (Drill σ) where
  find := find l
  reserve t id := guarded .reserve (l.reserve t id)
  release t id := guarded .release (l.release t id)
  store := store l now
  remove reference := guarded .remove (l.remove reference)

end Drill

end DiveSchool
