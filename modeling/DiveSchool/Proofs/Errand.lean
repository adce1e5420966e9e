import DiveSchool.Proofs.Traffic
import DiveSchool.Ledger.Relational

/-!
# `DiveSchool.Proofs.Errand` — one errand after another at an office

An office is a ledger together with its catalogue. Everything that is asked of it, by those who keep the
catalogue, by those who work on the counters themselves or by a client of the desk, is one errand. Errands
are performed one after another, each at some moment, and what each of them comes to is reported. The
ledger in memory and the ledger in a database are two offices for the same errands.

## Contents
- **Errands.** `Dealing`, a call at the desk that keeps no record, and `Errand`.
- **Reports.** `Report`, what an errand came to.
- **Offices.** `Office`, `Office.perform`, and lists of errands: `Office.reports`, `Office.after`.
- **The two offices.** `Memory.office` and `Database.office`.
-/

namespace DiveSchool

/-! ## Errands -/

/-- A call at the desk that keeps no record. -/
inductive Dealing where
  | book (id : OfferingId) (holder : Holder)
  | release (id : OfferingId)
  | cancel (reference : String)
  | availability (id : OfferingId)
  deriving DecidableEq, Repr

namespace Dealing

/-- The call made at some moment. -/
def call (now : Timestamp) : Dealing → Call
  | book id holder => .book now id holder
  | release id => .release id
  | cancel reference => .cancel reference
  | availability id => .availability id

/-- The offering a dealing is about; which one a cancellation is about shows only in the registry. -/
def target? : Dealing → Option OfferingId
  | book id _ | release id | availability id => some id
  | cancel _ => none

end Dealing

/-- What is asked of an office. -/
inductive Errand where
  /-- Change the catalogue. -/
  | order (o : Order)
  /-- Look an offering up. -/
  | find (id : OfferingId)
  /-- Recheck an offering and take a spot. -/
  | reserve (id : OfferingId)
  /-- Recheck an offering and free a spot. -/
  | release (id : OfferingId)
  /-- Make a call at the desk. -/
  | deal (v : Dealing)

/-- The offering an errand is about. -/
def Errand.target? : Errand → Option OfferingId
  | order o => some o.target
  | find id | reserve id | release id => some id
  | deal v => v.target?

/-! ## Reports -/

/-- What an errand came to. A catalogue in memory and one in a database report in different types. -/
inductive Report where
  | added (x : Except Failure Unit)
  | inserted (x : Except Failure Offering)
  | changed (x : Except Failure Offering)
  | updated (x : Except Failure (Option Offering))
  | found (x : Except Failure (Option Offering))
  | reserved (x : Except Failure Reservation)
  | freed (x : Except Failure Freeing)
  | ended (e : Ending)

/-! ## Offices -/

/-- A ledger and its catalogue. -/
structure Office (σ : Type) where
  ledger : Ledger σ
  /-- Carry an order out. -/
  order : Order → World σ → Report × World σ

namespace Office

variable {σ : Type}

/-- Perform an errand at some moment. -/
def perform (b : Office σ) (d : Desk) (now : Timestamp) (e : Errand) (w : World σ) :
    Report × World σ :=
  let w : World σ := { w with now }
  match e with
  | .order o => b.order o w
  | .find id => (.found (b.ledger.serve (.find id) w).1, (b.ledger.serve (.find id) w).2)
  | .reserve id => (.reserved (b.ledger.serve (.reserve id) w).1, (b.ledger.serve (.reserve id) w).2)
  | .release id => (.freed (b.ledger.serve (.release id) w).1, (b.ledger.serve (.release id) w).2)
  | .deal v =>
    (.ended (b.ledger.run ((v.call now).procedure d) w).1, (b.ledger.run ((v.call now).procedure d) w).2)

/-- What errands performed one after another came to, each with its errand. -/
def reports (b : Office σ) (d : Desk) : List (Timestamp × Errand) → World σ → List (Errand × Report)
  | [], _ => []
  | (now, e) :: es, w => (e, (b.perform d now e w).1) :: b.reports d es (b.perform d now e w).2

/-- The world after errands performed one after another. -/
def after (b : Office σ) (d : Desk) (es : List (Timestamp × Errand)) (w : World σ) : World σ :=
  es.foldl (fun w e => (b.perform d e.1 e.2 w).2) w

end Office

/-! ## The two offices -/

/-- The ledger in memory with its catalogue. -/
def Memory.office : Office Memory where
  ledger := Memory.ledger
  order
    | .add o, w => (.added (w.state.insert o).answer, Order.apply w (.add o))
    | .setCapacity id capacity, w =>
      (.changed (w.state.setCapacity w.now id capacity).answer, Order.apply w (.setCapacity id capacity))
    | .setStatus id status, w =>
      (.changed (w.state.setStatus w.now id status).answer, Order.apply w (.setStatus id status))

namespace Database

/-- Carry a session out on the state of a world. -/
def attend {α : Type} (s : Session α) (w : World Database) : Except Failure α × World Database :=
  let r := reply s w.state
  (r.answer, w.afterReply r)

/-- The ledger in a database with its catalogue. -/
def office : Office Database where
  ledger := ledger
  order
    | .add o, w => (.inserted (attend (createOffering o) w).1, (attend (createOffering o) w).2)
    | .setCapacity id capacity, w =>
      (.updated (attend (setCapacity w.now id capacity) w).1, (attend (setCapacity w.now id capacity) w).2)
    | .setStatus id status, w =>
      (.updated (attend (setStatus w.now id status) w).1, (attend (setStatus w.now id status) w).2)

end Database

end DiveSchool
