import DiveSchool.Console.Counter
import DiveSchool.Proofs.Protocol
import DiveSchool.Proofs.Session

/-!
# `DiveSchool.Proofs.Relational` — the desk over sound tables

Where nothing disturbs the database, the answer to every request of the desk follows from the two tables,
and so does what the request does to them. `Tables.Answers` says so once, with every condition that the
tables have met; it is what a procedure of the desk can reckon with, so a procedure that keeps to
`Tables.protocol` can be followed on the tables from its first step to its last.

## Contents
- **Answers.** `Tables.Answers` and `Tables.after`: what a request is answered, and the tables afterwards.
- **Requests.** `Ready.serve`: the ledger in a ready database with sound tables answers so.
- **Procedures.** `Tables.protocol`, and `meets_atDesk` for a procedure carried out at the desk.
-/

namespace DiveSchool

/-! ## Answers -/

namespace Tables

variable {t : Tables} {now : Timestamp}

/-- What sound tables answer a request. Requests that do not concern the tables may be answered anything. -/
inductive Answers (t : Tables) (now : Timestamp) : (r : Request) → r.Answer → Prop
  | looked {id : OfferingId} : Answers t now (.find id) (.ok (t.offerings.get? id))
  | nothingToReserve {id : OfferingId} (h : t.offerings.get? id = none) :
      Answers t now (.reserve id) (.ok .notFound)
  | closed {id : OfferingId} {o : Offering} (h : t.offerings.get? id = some o)
      (hstatus : o.status ≠ .published) : Answers t now (.reserve id) (.ok (.notBookable o))
  | full {id : OfferingId} {o : Offering} (h : t.offerings.get? id = some o)
      (hstatus : o.status = .published) (hfull : o.isFull = true) :
      Answers t now (.reserve id) (.ok (.full o))
  | reserved {id : OfferingId} {o : Offering} (h : t.offerings.get? id = some o)
      (hstatus : o.status = .published) (hfree : o.isFull = false) :
      Answers t now (.reserve id) (.ok (.reserved (o.taken now).stored))
  | nothingToRelease {id : OfferingId} (h : t.offerings.get? id = none) :
      Answers t now (.release id) (.ok .notFound)
  | empty {id : OfferingId} {o : Offering} (h : t.offerings.get? id = some o)
      (hempty : o.bookings.toInt = 0) : Answers t now (.release id) (.ok (.empty o))
  | released {id : OfferingId} {o : Offering} (h : t.offerings.get? id = some o)
      (hbooked : 0 < o.bookings.toInt) :
      Answers t now (.release id) (.ok (.released (o.vacated now).stored))
  | taken {b b' : Booking} (h : t.bookings.get? b.reference = some b') :
      Answers t now (.store b) (.ok false)
  | stored {b : Booking} {o : Offering} (hnew : t.bookings.get? b.reference = none)
      (ho : t.offerings.get? b.offeringId = some o) : Answers t now (.store b) (.ok true)
  | orphan {b : Booking} {e : Failure} (ho : t.offerings.get? b.offeringId = none) :
      Answers t now (.store b) (.error e)
  | removed {reference : String} :
      Answers t now (.remove reference) (.ok (t.bookings.get? reference))
  | drawn {suffix : Suffix} : Answers t now .draw suffix
  | claimed {reference : String} {id : OfferingId} {x : Bool} : Answers t now (.claim reference id) x
  | entered {reference : String} {id : OfferingId} {x : Unit} : Answers t now (.enter reference id) x
  | forgotten {reference : String} {x : Option OfferingId} : Answers t now (.forget reference) x
  | logged {event : Event} {x : Unit} : Answers t now (.log event) x

theorem answers_remove_iff {reference : String} {x : Except Failure (Option Booking)} :
    t.Answers now (.remove reference) x ↔ x = .ok (t.bookings.get? reference) := by
  constructor
  · rintro ⟨⟩
    rfl
  · rintro rfl
    exact .removed

/-- The tables after a request, by the answer to it. -/
def after (t : Tables) : (r : Request) → r.Answer → Tables
  | .reserve _, .ok (.reserved o) => t.put o
  | .release _, .ok (.released o) => t.put o
  | .store b, .ok true => t.add b
  | .remove reference, .ok _ => t.drop reference
  | _, _ => t

theorem Sound.after (ht : t.Sound) {r : Request} {x : r.Answer} (h : t.Answers now r x) :
    (t.after r x).Sound := by
  cases h with
  | reserved ho _ hfree => exact ht.put_taken ho hfree
  | released ho hbooked => exact ht.put_vacated ho hbooked
  | stored _ ho => exact ht.add ho
  | removed => exact ht.drop _
  | _ => exact ht

end Tables

/-! ## Requests -/

namespace Database

variable {t : Tables} {now : Timestamp}

/-- What a request comes to on a ready database: an answer of the tables, and the tables after it. -/
def Serves (now : Timestamp) (r : Request) (t : Tables) (x : r.Answer) (t' : Tables) : Prop :=
  t.Answers now r x ∧ t' = t.after r x

theorem meets_reserve (ht : t.Sound) (id : OfferingId) : (increment now id).Meets
    (fun x t' => Serves now (.reserve id) t (x.map CounterChange.toReservation) t') t := by
  refine meets_increment ht ?_ ?_ ?_
  · intro h
    exact ⟨.nothingToReserve h, rfl⟩
  · intro o h hrejected
    by_cases hstatus : o.status = .published
    · have hfull : o.isFull = true := by
        simpa [Offering.isBookable, Status.acceptsBookings, hstatus] using hrejected
      have hchange : (CounterChange.rejected o).toReservation = .full o := by
        simp [CounterChange.toReservation, Status.acceptsBookings, hstatus]
      show Serves now (.reserve id) t (.ok (CounterChange.rejected o).toReservation) t
      rw [hchange]
      exact ⟨.full h hstatus hfull, rfl⟩
    · have hchange : (CounterChange.rejected o).toReservation = .notBookable o := by
        simp [CounterChange.toReservation, Status.acceptsBookings, hstatus]
      show Serves now (.reserve id) t (.ok (CounterChange.rejected o).toReservation) t
      rw [hchange]
      exact ⟨.closed h hstatus, rfl⟩
  · intro o h hbookable
    have hopen : o.status = .published ∧ o.isFull = false := by
      simpa [Offering.isBookable, Status.acceptsBookings] using hbookable
    exact ⟨.reserved h hopen.1 hopen.2, rfl⟩

theorem meets_release (ht : t.Sound) (id : OfferingId) : (decrement now id).Meets
    (fun x t' => Serves now (.release id) t (x.map CounterChange.toFreeing) t') t := by
  refine meets_decrement ht ?_ ?_ ?_
  · intro h
    exact ⟨.nothingToRelease h, rfl⟩
  · intro o h hempty
    exact ⟨.empty h hempty, rfl⟩
  · intro o h hbooked
    exact ⟨.released h hbooked, rfl⟩

theorem meets_store (b : Booking) :
    (storeBooking b).Meets (fun x t' => Serves now (.store b) t x t') t := by
  refine meets_storeBooking ?_ ?_ ?_
  · intro b' h
    exact ⟨.taken h, rfl⟩
  · intro _ ho e
    exact ⟨.orphan ho, rfl⟩
  · intro o hnew ho
    exact ⟨.stored hnew ho, rfl⟩

theorem meets_find (id : OfferingId) :
    (findOffering id).Meets (fun x t' => Serves now (.find id) t x t') t :=
  meets_findOffering ⟨.looked, rfl⟩

theorem meets_remove (reference : String) :
    (removeBooking reference).Meets (fun x t' => Serves now (.remove reference) t x t') t :=
  meets_removeBooking ⟨.removed, rfl⟩

/-- **Every request** of the desk is answered by the tables, and changes nothing but them. -/
theorem Ready.serve {w : World Database} (hw : w.state.Ready) (ht : w.state.tables.Sound) (r : Request) :
    w.state.tables.Answers w.now r (ledger.serve r w).1 ∧
      (ledger.serve r w).2.state =
        { w.state with tables := w.state.tables.after r (ledger.serve r w).1 } ∧
      (ledger.serve r w).2.now = w.now := by
  cases r with
  | find id =>
      obtain ⟨x, t', hs, hanswer, rfl⟩ := @meets_find _ w.now id w.state hw rfl
      simp only [Ledger.serve, ledger, reply, hs, World.afterReply]
      exact ⟨hanswer, trivial, trivial⟩
  | reserve id =>
      obtain ⟨x, t', hs, hanswer, rfl⟩ := @meets_reserve _ w.now ht id w.state hw rfl
      simp only [Ledger.serve, ledger, reserve, hs, World.afterReply]
      exact ⟨hanswer, trivial, trivial⟩
  | release id =>
      obtain ⟨x, t', hs, hanswer, rfl⟩ := @meets_release _ w.now ht id w.state hw rfl
      simp only [Ledger.serve, ledger, release, hs, World.afterReply]
      exact ⟨hanswer, trivial, trivial⟩
  | store b =>
      obtain ⟨x, t', hs, hanswer, rfl⟩ := @meets_store _ w.now b w.state hw rfl
      simp only [Ledger.serve, ledger, reply, hs, World.afterReply]
      exact ⟨hanswer, trivial, trivial⟩
  | remove reference =>
      obtain ⟨x, t', hs, hanswer, rfl⟩ := @meets_remove _ w.now reference w.state hw rfl
      simp only [Ledger.serve, ledger, reply, hs, World.afterReply]
      exact ⟨hanswer, trivial, trivial⟩
  | draw => exact ⟨.drawn, rfl, rfl⟩
  | claim reference id =>
      cases h : w.registry.claim? reference id <;> simp only [Ledger.serve, h] <;>
        exact ⟨.claimed, rfl, trivial⟩
  | enter reference id => exact ⟨.entered, rfl, rfl⟩
  | forget reference => exact ⟨.forgotten, rfl, rfl⟩
  | log event => exact ⟨.logged, rfl, rfl⟩

end Database

/-! ## Procedures -/

namespace Tables

variable {t : Tables} {now : Timestamp}

/-- A procedure may ask for anything and reckons with the answers of sound tables. -/
def protocol (now : Timestamp) (t : Tables) : Protocol Tables where
  start := t
  may _ _ := True
  heard t r x := t.Sound ∧ t.Answers now r x
  next := after

theorem protocol_ledgerOnly (now : Timestamp) (t : Tables) : (protocol now t).LedgerOnly := by
  constructor <;> intros <;> exact fun _ => ⟨trivial, fun _ => rfl⟩

end Tables

namespace Console

variable {α : Type} {t : Tables} {Q : Except Failure α → Tables → Prop} {occasion : Occasion}
  {registry : Registry} {p : Procedure α}

/-- **A procedure at the desk** comes to what following it on the tables shows. -/
theorem meets_atDesk (ht : t.Sound)
    (hp : p.Follows (Tables.protocol occasion.now t) (fun t' a => t'.Sound → Q (.ok a) t') t) :
    (atDesk occasion registry p).Meets Q t := by
  rintro db hdb rfl
  have hserve : ∀ (t' : Tables) (w : World Database) (r : Request),
      (t'.Sound ∧ w.state = { db with tables := t' } ∧ w.now = occasion.now) → True →
      ((t'.Sound ∧ t'.Answers occasion.now r (Database.ledger.serve r w).1) ∧
        (t'.after r (Database.ledger.serve r w).1).Sound ∧
        (Database.ledger.serve r w).2.state =
          { db with tables := t'.after r (Database.ledger.serve r w).1 } ∧
        (Database.ledger.serve r w).2.now = occasion.now) := by
    rintro t' w r ⟨hsound, hstate, hnow⟩ -
    have hready : w.state.Ready := hstate ▸ hdb.withTables t'
    have htables : w.state.tables = t' := by rw [hstate]
    obtain ⟨hanswer, hafter, hsame⟩ := hready.serve (htables ▸ hsound) r
    rw [htables, hnow] at hanswer
    refine ⟨⟨hsound, hanswer⟩, hsound.after hanswer, ?_, hsame.trans hnow⟩
    rw [hafter, htables, hstate]
  obtain ⟨t', hQ, hsound, hstate, -⟩ := Procedure.Follows.run
    (R := fun (t' : Tables) (w : World Database) =>
      t'.Sound ∧ w.state = { db with tables := t' } ∧ w.now = occasion.now)
    hserve hp (w := ⟨db, registry, occasion.generator, occasion.now, []⟩) ⟨ht, rfl, rfl⟩
  refine ⟨_, t', ?_, hQ hsound⟩
  simp only [atDesk, Ledger.run]
  rw [hstate]

end Console

end DiveSchool
