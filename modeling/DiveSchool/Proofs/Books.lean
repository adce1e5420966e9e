import Mathlib.Logic.Function.Basic
import DiveSchool.Drill
import DiveSchool.Ledger.Relational
import DiveSchool.Proofs.Atomicity
import DiveSchool.Proofs.Holding

/-!
# `DiveSchool.Proofs.Books` — ledgers that keep their books

Whatever a ledger is made of, the desk relies on few things: that a spot is taken or freed exactly when the
answer says so, that a record is there exactly if it was stored and not removed since, and that nothing
else changes. How often a ledger fails, and when it claims that a reference is taken, is up to it. So a
ledger is seen here through its books alone, and what is proved of a `Bookkeeper` holds in memory, in a
database whose statements may be refused, and behind faults that were ordered in advance.

## Contents
- **Books.** `Books`, with `Books.post`, `Books.record` and `Books.strike`.
- **Answers.** `Books.Answers` and `Books.after`: what a request may be answered, and the books afterwards.
- **Spots.** `Books.Shifted`, a spot more or less.
- **Bookkeepers.** `Bookkeeper`.
- **Three of them.** `Memory.bookkeeper`, `Database.bookkeeper` and `Drill.bookkeeper`.
- **Any pattern of failures.** `Scripted.bookkeeper`, which fails and refuses as a script says.
-/

namespace DiveSchool

/-! ## Books -/

/-- The offerings and the records that a ledger shows. -/
structure Books where
  offering? : OfferingId → Option Offering
  record? : String → Option Booking

/-- Another version of an offering: only the counter, by some difference, and the moment of the last change
    are not the same. -/
def Offering.Counted (o o' : Offering) (difference : Int) : Prop :=
  o' = { o with bookings := o'.bookings, updatedAt := o'.updatedAt } ∧
    o'.bookings.toInt = o.bookings.toInt + difference

theorem Offering.Counted.trans {o o₁ o₂ : Offering} {m n : Int} (h : o.Counted o₁ m) (h' : o₁.Counted o₂ n) :
    o.Counted o₂ (m + n) := by
  obtain ⟨hsame, hcount⟩ := h
  obtain ⟨hsame', hcount'⟩ := h'
  refine ⟨hsame'.trans ?_, by omega⟩
  rw [hsame]

theorem Offering.Counted.id_eq {o o' : Offering} {n : Int} (h : o.Counted o' n) : o'.id = o.id := by
  rw [h.1]

namespace Books

variable {b : Books} {id : OfferingId} {reference : String}

/-- Write an offering over the one with its id. -/
def post (b : Books) (id : OfferingId) (o : Offering) : Books :=
  { b with offering? := Function.update b.offering? id (some o) }

/-- Write a record down under its reference. -/
def record (b : Books) (r : Booking) : Books :=
  { b with record? := Function.update b.record? r.reference (some r) }

/-- Strike the record with a reference out. -/
def strike (b : Books) (reference : String) : Books :=
  { b with record? := Function.update b.record? reference none }

theorem offering?_post_self (b : Books) (id : OfferingId) (o : Offering) :
    (b.post id o).offering? id = some o := by
  simp only [post, Function.update_self]

theorem record?_record_self (b : Books) (r : Booking) : (b.record r).record? r.reference = some r := by
  simp only [record, Function.update_self]

theorem record?_strike_self (b : Books) (reference : String) :
    (b.strike reference).record? reference = none := by
  simp only [strike, Function.update_self]

/-- Striking out what is not there changes nothing. -/
theorem strike_of_absent (h : b.record? reference = none) : b.strike reference = b := by
  have hsame : Function.update b.record? reference none = b.record? :=
    Function.update_eq_self_iff.mpr h.symm
  simp only [strike, hsame]

theorem post_post (b : Books) (id : OfferingId) (o o' : Offering) :
    (b.post id o).post id o' = b.post id o' := by
  simp only [post, Function.update_idem]

/-- A record that was struck out and written down again is as before. -/
theorem record_strike {r : Booking} (h : b.record? r.reference = some r) :
    (b.strike r.reference).record r = b := by
  have hsame : Function.update (Function.update b.record? r.reference none) r.reference (some r) =
      b.record? := by
    rw [Function.update_idem]
    exact Function.update_eq_self_iff.mpr h.symm
  simp only [record, strike, hsame]

/-! ## Answers -/

/-- The offering of which a spot was taken. -/
def spotTaken? : Except Failure Reservation → Option Offering
  | .ok (.reserved o) => some o
  | _ => none

/-- What a request may be answered. Look-ups may fail or be outdated, any attempt to change something may
    fail, and a record may be refused for no reason. -/
inductive Answers (b : Books) : (r : Request) → r.Answer → Prop
  | looked {id : OfferingId} {x : Except Failure (Option Offering)} : Answers b (.find id) x
  | unreserved {id : OfferingId} {x : Except Failure Reservation} (hx : spotTaken? x = none) :
      Answers b (.reserve id) x
  | reserved {id : OfferingId} {o o' : Offering} (h : b.offering? id = some o) (ho : o.Counted o' 1) :
      Answers b (.reserve id) (.ok (.reserved o'))
  | unreleased {id : OfferingId} {e : Failure} : Answers b (.release id) (.error e)
  | missing {id : OfferingId} (h : b.offering? id = none) : Answers b (.release id) (.ok .notFound)
  | empty {id : OfferingId} {o : Offering} (h : b.offering? id = some o) (hempty : o.bookings.toInt = 0) :
      Answers b (.release id) (.ok (.empty o))
  | released {id : OfferingId} {o o' : Offering} (h : b.offering? id = some o)
      (hbooked : 0 < o.bookings.toInt) (ho : o.Counted o' (-1)) :
      Answers b (.release id) (.ok (.released o'))
  | stored {r : Booking} {x : Except Failure Bool} : Answers b (.store r) x
  | unremoved {reference : String} {e : Failure} : Answers b (.remove reference) (.error e)
  | removed {reference : String} : Answers b (.remove reference) (.ok (b.record? reference))
  | drawn {x : Suffix} : Answers b .draw x
  | claimed {reference : String} {id : OfferingId} {x : Bool} : Answers b (.claim reference id) x
  | entered {reference : String} {id : OfferingId} {x : Unit} : Answers b (.enter reference id) x
  | forgotten {reference : String} {x : Option OfferingId} : Answers b (.forget reference) x
  | logged {event : Event} {x : Unit} : Answers b (.log event) x

/-- The books after a request, by the answer to it; `kept` is what is kept of a record. -/
def after (kept : Booking → Booking) (b : Books) : (r : Request) → r.Answer → Books
  | .reserve id, .ok (.reserved o) => b.post id o
  | .release id, .ok (.released o) => b.post id o
  | .store r, .ok true => b.record (kept r)
  | .remove reference, .ok _ => b.strike reference
  | _, _ => b

/-- A request that fails is answered according to the books, and they stay as they are. -/
theorem answers_failed {f : Failure} {r : Request} {x : r.Answer} (h : r.failed? f = some x) (b : Books)
    (kept : Booking → Booking) : b.Answers r x ∧ b.after kept r x = b := by
  cases r <;> cases h
  · exact ⟨.looked, rfl⟩
  · exact ⟨.unreserved rfl, rfl⟩
  · exact ⟨.unreleased, rfl⟩
  · exact ⟨.stored, rfl⟩
  · exact ⟨.unremoved, rfl⟩

/-! ## Spots -/

/-- One offering shows some spots more or less booked than before, and nothing else has changed. -/
def Shifted (b b' : Books) (id : OfferingId) (difference : Int) : Prop :=
  ∃ o o', b.offering? id = some o ∧ o.Counted o' difference ∧ b' = b.post id o'

theorem Shifted.record?_eq {b b' : Books} {n : Int} (h : b.Shifted b' id n) : b'.record? = b.record? := by
  obtain ⟨o, o', -, -, rfl⟩ := h
  rfl

/-- How many spots are still taken after an attempt to free one. -/
def stillTaken : Except Failure Freeing → Int
  | .ok _ => 0
  | .error _ => 1

/-- A spot that was taken can be freed again, unless the attempt fails. -/
theorem Shifted.undone {b b' : Books} (h : b.Shifted b' id 1)
    (hwithin : ∀ o, b.offering? id = some o → o.WithinCapacity) {y : Except Failure Freeing}
    (hy : b'.Answers (.release id) y) (kept : Booking → Booking) :
    b.Shifted (b'.after kept (.release id) y) id (stillTaken y) := by
  obtain ⟨o, o', ho, hcounted, rfl⟩ := h
  have hshown : (b.post id o').offering? id = some o' := offering?_post_self b id o'
  obtain ⟨-, hnonneg, -⟩ := Offering.withinCapacity_iff.mp (hwithin o ho)
  have hbooked := hcounted.2
  cases hy with
  | unreleased => exact ⟨o, o', ho, hcounted, rfl⟩
  | missing hmissing => cases hshown.symm.trans hmissing
  | empty hsame hempty =>
      cases hshown.symm.trans hsame
      omega
  | @released _ _ o'' hsame _ hcounted' =>
      cases hshown.symm.trans hsame
      exact ⟨o, o'', ho, hcounted.trans hcounted', post_post b id o' o''⟩

end Books

/-! ## Bookkeepers -/

/-- A request has been served as the books want it: the state is still one that the ledger can be in, the
    answer is according to the books, and so are the books afterwards. -/
structure Books.Served {σ : Type} (Fit : σ → Prop) (books : σ → Books) (kept : Booking → Booking) (s : σ)
    (r : Request) (x : r.Answer) (s' : σ) : Prop where
  fit : Fit s'
  answers : (books s).Answers r x
  books_eq : books s' = (books s).after kept r x

/-- A request that the ledger has no part in. -/
def Request.aside : Request → Bool
  | draw | claim _ _ | enter _ _ | forget _ | log _ => true
  | _ => false

theorem Books.Served.aside {σ : Type} {Fit : σ → Prop} {books : σ → Books} {kept : Booking → Booking}
    {l : Ledger σ} {w : World σ} {r : Request} (h : Fit w.state) (hr : r.aside = true) :
    Served Fit books kept w.state r (l.serve r w).1 (l.serve r w).2.state := by
  cases r with
  | draw => exact ⟨h, .drawn, rfl⟩
  | claim reference id =>
      cases hclaim : w.registry.claim? reference id <;> simp only [Ledger.serve, hclaim] <;>
        exact ⟨h, .claimed, rfl⟩
  | enter reference id => exact ⟨h, .entered, rfl⟩
  | forget reference => exact ⟨h, .forgotten, rfl⟩
  | log event => exact ⟨h, .logged, rfl⟩
  | _ => cases hr

/-- A ledger that keeps its books. -/
structure Bookkeeper (σ : Type) where
  ledger : Ledger σ
  /-- The states it can be in. -/
  Fit : σ → Prop
  books : σ → Books
  /-- What it keeps of a record: all of it, but the moment may be rounded. -/
  kept : Booking → Booking
  kept_eq : ∀ b, kept b = { b with issuedAt := (kept b).issuedAt }
  ids : ∀ {s id o}, Fit s → (books s).offering? id = some o → o.id = id
  within : ∀ {s id o}, Fit s → (books s).offering? id = some o → o.WithinCapacity
  keyed : ∀ {s reference b}, Fit s → (books s).record? reference = some b → b.reference = reference
  kept_record : ∀ {s reference b}, Fit s → (books s).record? reference = some b → kept b = b
  serve : ∀ {w : World σ} (r), Fit w.state →
    Books.Served Fit books kept w.state r (ledger.serve r w).1 (ledger.serve r w).2.state

theorem Bookkeeper.reference_kept {σ : Type} (k : Bookkeeper σ) (b : Booking) :
    (k.kept b).reference = b.reference := by
  rw [k.kept_eq b]

/-! ## Three of them -/

namespace Table

variable {κ ν : Type} [DecidableEq κ]

theorem get?_insert_eq_update (t : Table κ ν) (k : κ) (v : ν) :
    (t.insert k v).get? = Function.update t.get? k (some v) := by
  funext j
  rw [get?_insert, Function.update_apply]

theorem get?_erase_eq_update (t : Table κ ν) (k : κ) : (t.erase k).get? = Function.update t.get? k none := by
  funext j
  rw [get?_erase, Function.update_apply]

end Table

namespace Offering

variable {o : Offering} {now : Timestamp}

theorem counted_taken (h : o.isFull = false) : o.Counted (o.taken now) 1 :=
  ⟨rfl, toInt_bookings_add_one h⟩

theorem counted_vacated (h : 0 < o.bookings.toInt) : o.Counted (o.vacated now) (-1) :=
  ⟨rfl, toInt_bookings_sub_one h⟩

end Offering

namespace Memory

/-- The books of a ledger in memory. -/
def books (m : Memory) : Books := ⟨m.offerings.get?, m.records.get?⟩

theorem Sound.books_put {m : Memory} (hm : m.Sound) {id : OfferingId} {o o' : Offering}
    (h : m.offerings.get? id = some o) (hid : o'.id = o.id) : (m.put o').books = m.books.post id o' := by
  have hsame : (m.put o').offerings.get? = Function.update m.offerings.get? id (some o') := by
    funext id'
    rw [hm.get?_put h o' hid, Function.update_apply]
  simp only [books, Books.post, hsame]
  rfl

/-- A ledger whose offerings are sound and whose records are under their own references. -/
def Proper (m : Memory) : Prop := m.Sound ∧ m.Keyed

/-- **One request** to a ledger in memory, seen in its books. -/
theorem Proper.serve {w : World Memory} (h : w.state.Proper) (r : Request) :
    Books.Served Proper books (fun b => b) w.state r (ledger.serve r w).1 (ledger.serve r w).2.state := by
  obtain ⟨hm, hkeyed⟩ := h
  have heffect := hm.requestEffect none r
  have hfit : (ledger.serve r w).2.state.Proper := ⟨heffect.sound hm, heffect.keyed hkeyed⟩
  cases r with
  | find id =>
      have hstep := findStep w.state id
      have hsame : (w.state.find id).state.books = w.state.books := by
        generalize w.state.find id = reply at hstep
        cases hstep <;> rfl
      exact ⟨hfit, .looked, hsame⟩
  | reserve id =>
      have hstep := hm.reserveStep w.now id
      have hserved : w.state.books.Answers (.reserve id) (w.state.reserve w.now id).answer ∧
          (w.state.reserve w.now id).state.books =
            w.state.books.after (fun b => b) (.reserve id) (w.state.reserve w.now id).answer := by
        generalize w.state.reserve w.now id = reply at hstep
        cases hstep with
        | reserved ho _ hfree => exact ⟨.reserved ho (Offering.counted_taken hfree), hm.books_put ho rfl⟩
        | _ => exact ⟨.unreserved rfl, rfl⟩
      exact ⟨hfit, hserved.1, hserved.2⟩
  | release id =>
      have hstep := hm.releaseStep w.now id
      have hserved : w.state.books.Answers (.release id) (w.state.release w.now id).answer ∧
          (w.state.release w.now id).state.books =
            w.state.books.after (fun b => b) (.release id) (w.state.release w.now id).answer := by
        generalize w.state.release w.now id = reply at hstep
        cases hstep with
        | absent ho => exact ⟨.missing ho, rfl⟩
        | locked => exact ⟨.unreleased, rfl⟩
        | empty ho hempty => exact ⟨.empty ho hempty, rfl⟩
        | released ho hbooked =>
            exact ⟨.released ho hbooked (Offering.counted_vacated hbooked), hm.books_put ho rfl⟩
      exact ⟨hfit, hserved.1, hserved.2⟩
  | store b =>
      refine ⟨hfit, .stored, ?_⟩
      show (w.state.store b).state.books = w.state.books.after _ (.store b) (w.state.store b).answer
      unfold store
      split
      · rfl
      · simp only [books, Books.after, Books.record, Table.get?_insert_eq_update]
  | remove reference =>
      refine ⟨hfit, .removed, ?_⟩
      show (w.state.remove reference).state.books = w.state.books.strike reference
      simp only [remove, books, Books.strike, Table.get?_erase_eq_update]
  | _ => exact .aside ⟨hm, hkeyed⟩ rfl

/-- The ledger in memory keeps its books. -/
def bookkeeper : Bookkeeper Memory where
  ledger := ledger
  Fit := Proper
  books := books
  kept b := b
  kept_eq _ := rfl
  ids h ho := (h.1 _ _ ho).1
  within h ho := (h.1 _ _ ho).2
  keyed h hb := h.2 _ _ hb
  kept_record _ _ := rfl
  serve r h := h.serve r

end Memory

theorem Timestamp.toMicroseconds_idem (t : Timestamp) :
    t.toMicroseconds.toMicroseconds = t.toMicroseconds := by
  have hsmall : t.nanos % 1000000000 / 1000 * 1000 < 1000000000 := by omega
  simp [toMicroseconds, Nat.div_eq_of_lt hsmall, Nat.mod_eq_of_lt hsmall]

theorem Offering.stored_stored (o : Offering) : o.stored.stored = o.stored := by
  simp only [stored, Timestamp.toMicroseconds_idem]

theorem Booking.stored_stored (b : Booking) : b.stored.stored = b.stored := by
  simp only [stored, Timestamp.toMicroseconds_idem]

namespace Database

/-- The books of a database. -/
def books (db : Database) : Books := ⟨db.tables.offerings.get?, db.tables.bookings.get?⟩

/-- Tables that meet their constraints, with every row as a row keeps it. -/
structure Proper (db : Database) : Prop where
  sound : db.tables.Sound
  rounded : db.tables.Rounded
  records : ∀ reference b, db.tables.bookings.get? reference = some b → b.stored = b

variable {db db' : Database} {id : OfferingId}

theorem Proper.of_tables_eq (h : db.Proper) (hsame : db'.tables = db.tables) : db'.Proper := by
  obtain ⟨hsound, hrounded, hrecords⟩ := h
  exact ⟨hsame ▸ hsound, hsame ▸ hrounded, hsame ▸ hrecords⟩

theorem books_eq_of_tables_eq (hsame : db'.tables = db.tables) : db'.books = db.books := by
  simp only [books, hsame]

theorem Proper.put (h : db.Proper) {o : Offering} (ho : o.WithinCapacity) (hstored : o.stored = o)
    (hput : db'.tables = db.tables.put o) : db'.Proper where
  sound := hput ▸ h.sound.put ho
  rounded := by
    intro id' o' ho'
    rw [hput, Tables.get?_put] at ho'
    split at ho'
    · cases ho'
      exact hstored
    · exact h.rounded id' o' ho'
  records := by
    rw [hput]
    exact h.records

theorem Proper.books_put (h : db.Proper) {o o' : Offering} (ho : db.tables.offerings.get? id = some o)
    (hid : o'.id = o.id) (hput : db'.tables = db.tables.put o') : db'.books = db.books.post id o' := by
  have hsame : (db.tables.put o').offerings.get? = Function.update db.tables.offerings.get? id (some o') := by
    funext id'
    rw [h.sound.get?_put ho hid, Function.update_apply]
  simp only [books, Books.post, hput, hsame]
  rfl

/-- A change of a row leaves proper tables proper, whatever it comes to. -/
theorem Proper.of_outcome {α : Type} {c : RowChange α} {x : Except Failure α} (h : db.Proper)
    (houtcome : c.Outcome db id x db'.tables) : db'.Proper := by
  generalize htables : db'.tables = t at houtcome
  cases houtcome with
  | @applied o _ ho hexamine =>
      have hwithin : (c.becomes o).stored.WithinCapacity :=
        c.becomes_within o (h.sound.counters id o ho) hexamine
      exact h.put hwithin (Offering.stored_stored _) htables
  | _ => exact h.of_tables_eq htables

/-- What a change of a counter is answered, and the books afterwards. -/
theorem Proper.books_taking {now : Timestamp} {x : Except Failure CounterChange} (h : db.Proper)
    (houtcome : (RowChange.taking now).Outcome db id x db'.tables) :
    db.books.Answers (.reserve id) (x.map CounterChange.toReservation) ∧
      db'.books = db.books.after Booking.stored (.reserve id) (x.map CounterChange.toReservation) := by
  generalize htables : db'.tables = t at houtcome
  cases houtcome with
  | refused => exact ⟨.unreserved rfl, books_eq_of_tables_eq htables⟩
  | absent => exact ⟨.unreserved rfl, books_eq_of_tables_eq htables⟩
  | invalid => exact ⟨.unreserved rfl, books_eq_of_tables_eq htables⟩
  | @rejected o =>
      -- a rejected change is a closed offering or a full one
      have hcases : (CounterChange.rejected o).toReservation = .full o ∨
          (CounterChange.rejected o).toReservation = .notBookable o := by
        by_cases hopen : o.status.acceptsBookings = true
        · exact .inl (if_pos hopen)
        · exact .inr (if_neg hopen)
      show db.books.Answers (.reserve id) (.ok (CounterChange.rejected o).toReservation) ∧
        db'.books = db.books.after _ (.reserve id) (.ok (CounterChange.rejected o).toReservation)
      rcases hcases with hfull | hclosed
      · rw [hfull]
        exact ⟨.unreserved rfl, books_eq_of_tables_eq htables⟩
      · rw [hclosed]
        exact ⟨.unreserved rfl, books_eq_of_tables_eq htables⟩
  | @applied o _ ho hexamine =>
      have hbookable : o.isBookable = true :=
        Except.ok.inj (((h.sound.counters id o ho).map_check _).symm.trans hexamine)
      have hfree := Offering.isFull_of_isBookable hbookable
      have hcounted : o.Counted (o.taken now).stored 1 := by
        refine ⟨?_, Offering.toInt_bookings_add_one hfree⟩
        exact Offering.stored_rewritten (h.rounded id o ho) now o.capacity (o.bookings + 1)
      exact ⟨.reserved ho hcounted, h.books_put ho rfl htables⟩

theorem Proper.books_vacating {now : Timestamp} {x : Except Failure CounterChange} (h : db.Proper)
    (houtcome : (RowChange.vacating now).Outcome db id x db'.tables) :
    db.books.Answers (.release id) (x.map CounterChange.toFreeing) ∧
      db'.books = db.books.after Booking.stored (.release id) (x.map CounterChange.toFreeing) := by
  generalize htables : db'.tables = t at houtcome
  cases houtcome with
  | refused => exact ⟨.unreleased, books_eq_of_tables_eq htables⟩
  | absent _ ho => exact ⟨.missing ho, books_eq_of_tables_eq htables⟩
  | invalid => exact ⟨.unreleased, books_eq_of_tables_eq htables⟩
  | @rejected o _ ho hexamine =>
      have hwithin := h.sound.counters id o ho
      have hrejected : (!decide (o.bookings ≤ 0)) = false :=
        Except.ok.inj ((hwithin.map_check _).symm.trans hexamine)
      have hunbooked : ¬ 0 < o.bookings.toInt := by
        rw [← Offering.not_le_zero_iff, hrejected]
        decide
      obtain ⟨-, hnonneg, -⟩ := Offering.withinCapacity_iff.mp hwithin
      exact ⟨.empty ho (by omega), books_eq_of_tables_eq htables⟩
  | @applied o _ ho hexamine =>
      have hallowed : (!decide (o.bookings ≤ 0)) = true :=
        Except.ok.inj (((h.sound.counters id o ho).map_check _).symm.trans hexamine)
      have hbooked := Offering.not_le_zero_iff.mp hallowed
      have hcounted : o.Counted (o.vacated now).stored (-1) := by
        refine ⟨?_, Offering.toInt_bookings_sub_one hbooked⟩
        exact Offering.stored_rewritten (h.rounded id o ho) now o.capacity (o.bookings - 1)
      exact ⟨.released ho hbooked hcounted, h.books_put ho rfl htables⟩

/-- A record that was stored is there, and its offering too; one that was not has left no trace. -/
theorem store_outcome (b : Booking) (db : Database) :
    ((storeBooking b db).1 = .ok true ∧ (storeBooking b db).2.tables = db.tables.add b ∧
        ∃ o, db.tables.offerings.get? b.offeringId = some o) ∨
      ((storeBooking b db).1 ≠ .ok true ∧ (storeBooking b db).2.tables = db.tables) := by
  refine (Session.ends_statement (Q := fun x t =>
    (x = .ok true ∧ t = db.tables.add b ∧ ∃ o, db.tables.offerings.get? b.offeringId = some o) ∨
      (x ≠ .ok true ∧ t = db.tables)) ?_ ?_).1
  · intro r _
    exact .inr ⟨nofun, rfl⟩
  · intro _
    unfold Tables.insertBooking
    cases hused : db.tables.bookings.contains b.reference with
    | true => exact .inr ⟨nofun, rfl⟩
    | false =>
        cases hoffered : db.tables.offerings.contains b.offeringId with
        | true => exact .inl ⟨rfl, rfl, Option.isSome_iff_exists.mp hoffered⟩
        | false => exact .inr ⟨nofun, rfl⟩

/-- A removal answers with the record and takes it out, or fails and changes nothing. -/
theorem remove_outcome (reference : String) (db : Database) :
    ((removeBooking reference db).1 = .ok (db.tables.bookings.get? reference) ∧
        (removeBooking reference db).2.tables = db.tables.drop reference) ∨
      ∃ e, (removeBooking reference db).1 = .error e ∧
        (removeBooking reference db).2.tables = db.tables := by
  refine (Session.ends_statement (Q := fun x t =>
    (x = .ok (db.tables.bookings.get? reference) ∧ t = db.tables.drop reference) ∨
      ∃ e, x = .error e ∧ t = db.tables) ?_ ?_).1
  · intro r _
    exact .inr ⟨_, rfl, rfl⟩
  · intro _
    exact .inl ⟨rfl, rfl⟩

theorem Proper.serve_store (h : db.Proper) (b : Booking) :
    Books.Served Proper books Booking.stored db (.store b) (storeBooking b db).1 (storeBooking b db).2 := by
  rcases store_outcome b db with ⟨htrue, hadded, o, ho⟩ | ⟨hfalse, hsame⟩
  · have hbookings : (db.tables.add b).bookings.get? =
        Function.update db.tables.bookings.get? b.reference (some b.stored) :=
      Table.get?_insert_eq_update _ _ _
    refine ⟨⟨hadded ▸ h.sound.add ho, hadded ▸ h.rounded, ?_⟩, .stored, ?_⟩
    · intro reference b' hb'
      rw [hadded, hbookings, Function.update_apply] at hb'
      split at hb'
      · cases hb'
        exact b.stored_stored
      · exact h.records reference b' hb'
    · rw [htrue]
      simp only [books, Books.after, Books.record, hadded, hbookings]
      rfl
  · refine ⟨h.of_tables_eq hsame, .stored, ?_⟩
    rw [books_eq_of_tables_eq hsame]
    rcases hx : (storeBooking b db).1 with e | (_ | _)
    · rfl
    · rfl
    · exact absurd hx hfalse

theorem Proper.serve_remove (h : db.Proper) (reference : String) :
    Books.Served Proper books Booking.stored db (.remove reference) (removeBooking reference db).1
      (removeBooking reference db).2 := by
  rcases remove_outcome reference db with ⟨hfound, hdropped⟩ | ⟨e, herror, hsame⟩
  · have hbookings : (db.tables.drop reference).bookings.get? =
        Function.update db.tables.bookings.get? reference none :=
      Table.get?_erase_eq_update _ _
    rw [hfound]
    refine ⟨⟨hdropped ▸ h.sound.drop reference, hdropped ▸ h.rounded, ?_⟩, .removed, ?_⟩
    · intro reference' b hb
      rw [hdropped, hbookings, Function.update_apply] at hb
      split at hb
      · cases hb
      · exact h.records reference' b hb
    · simp only [books, Books.after, Books.strike, hdropped, hbookings]
      rfl
  · rw [herror]
    exact ⟨h.of_tables_eq hsame, .unremoved, books_eq_of_tables_eq hsame⟩

/-- **One request** to a proper database, whichever statements it refuses, seen in its books. -/
theorem Proper.serve {w : World Database} (h : w.state.Proper) (r : Request) :
    Books.Served Proper books Booking.stored w.state r (ledger.serve r w).1 (ledger.serve r w).2.state := by
  cases r with
  | find id =>
      have hsame : (findOffering id w.state).2.tables = w.state.tables :=
        (Session.ends_statement (Q := fun _ t => t = w.state.tables) (fun _ _ => rfl) fun _ => rfl).1
      exact ⟨h.of_tables_eq hsame, .looked, books_eq_of_tables_eq hsame⟩
  | reserve id =>
      have houtcome := ((RowChange.taking w.now).ends_session h.sound id).1
      rw [RowChange.session_taking] at houtcome
      obtain ⟨hanswer, hbooks⟩ := h.books_taking houtcome
      exact ⟨h.of_outcome houtcome, hanswer, hbooks⟩
  | release id =>
      have houtcome := ((RowChange.vacating w.now).ends_session h.sound id).1
      rw [RowChange.session_vacating] at houtcome
      obtain ⟨hanswer, hbooks⟩ := h.books_vacating houtcome
      exact ⟨h.of_outcome houtcome, hanswer, hbooks⟩
  | store b => exact h.serve_store b
  | remove reference => exact h.serve_remove reference
  | _ => exact .aside h rfl

/-- The ledger in a database keeps its books, whichever statements are refused. -/
def bookkeeper : Bookkeeper Database where
  ledger := ledger
  Fit := Proper
  books := books
  kept := Booking.stored
  kept_eq _ := rfl
  ids h ho := h.sound.ids _ _ ho
  within h ho := h.sound.counters _ _ ho
  keyed h hb := h.sound.references _ _ hb
  kept_record h hb := h.records _ _ hb
  serve r h := h.serve r

end Database

namespace Drill

variable {σ : Type} (k : Bookkeeper σ) (now : Timestamp)

/-- The world behind the faults. -/
def behind (w : World (Drill σ)) : World σ := { w with state := w.state.inner }

/-- An operation that may be told to fail does, or is that of the ledger behind. -/
theorem guarded_cases {α : Type} (point : FaultPoint) (act : σ → Reply σ (Except Failure α)) (d : Drill σ) :
    (d.guarded point act).state.faults.rivals = d.faults.rivals ∧
      ((∃ e, (d.guarded point act).answer = .error e ∧ (d.guarded point act).state.inner = d.inner) ∨
        ((d.guarded point act).answer = (act d.inner).answer ∧
          (d.guarded point act).state.inner = (act d.inner).state)) := by
  unfold guarded
  cases htake : d.faults.take point with
  | none => exact ⟨rfl, .inr ⟨rfl, rfl⟩⟩
  | some hit =>
      obtain ⟨failure, faults⟩ := hit
      refine ⟨?_, .inl ⟨failure, rfl, rfl⟩⟩
      unfold Faults.take at htake
      cases hfind : d.faults.queue.find? (·.1 = point) with
      | none =>
          rw [hfind] at htake
          cases htake
      | some found =>
          rw [hfind] at htake
          cases htake
          rfl

/-- Without rivals a record is stored as it would be behind the faults. -/
theorem store_of_calm (l : Ledger σ) (b : Booking) {d : Drill σ} (hcalm : d.faults.rivals = []) :
    (d.store l now b).answer = (d.guarded .store (l.store b)).answer ∧
      (d.store l now b).state = (d.guarded .store (l.store b)).state := by
  obtain ⟨⟨queue, stale, rivals⟩, inner⟩ := d
  obtain rfl : rivals = [] := hcalm
  exact ⟨rfl, rfl⟩

/-- A look-up, stale or not, does to the ledger behind what a look-up does, if anything. -/
theorem find_cases (l : Ledger σ) (id : OfferingId) (d : Drill σ) :
    (d.find l id).state.faults.rivals = d.faults.rivals ∧
      ((d.find l id).state.inner = d.inner ∨ (d.find l id).state.inner = (l.find id d.inner).state) := by
  unfold find
  cases d.faults.stale with
  | none =>
      obtain ⟨hrivals, ⟨_, -, hsame⟩ | ⟨-, hfound⟩⟩ := guarded_cases .find (l.find id) d
      · exact ⟨hrivals, .inl hsame⟩
      · exact ⟨hrivals, .inr hfound⟩
  | some answer =>
      obtain ⟨hrivals, ⟨_, -, hsame⟩ | ⟨-, hsame⟩⟩ :=
        guarded_cases .find (fun s => (⟨.ok answer, s, []⟩ : Reply σ (Except Failure (Option Offering)))) d
      · exact ⟨hrivals, .inl hsame⟩
      · exact ⟨hrivals, .inl hsame⟩

/-- No rival is about to act, and the ledger behind the faults is as it should be. -/
def Calm (d : Drill σ) : Prop := k.Fit d.inner ∧ d.faults.rivals = []

variable {k now}

/-- The books of the ledger behind the faults. -/
def books (k : Bookkeeper σ) (d : Drill σ) : Books := k.books d.inner

/-- A request that failed, or was passed on to the ledger behind, has been served as its books want it. -/
theorem Calm.served {w : World (Drill σ)} (h : Calm k w.state) {r : Request} {x : r.Answer} {d : Drill σ}
    (hrivals : d.faults.rivals = w.state.faults.rivals)
    (hserved : (∃ e, r.failed? e = some x ∧ d.inner = w.state.inner) ∨
      (x = (k.ledger.serve r (behind w)).1 ∧ d.inner = (k.ledger.serve r (behind w)).2.state)) :
    Books.Served (Calm k) (books k) k.kept w.state r x d := by
  obtain ⟨hfit, hcalm⟩ := h
  rcases hserved with ⟨e, hfailed, hsame⟩ | ⟨rfl, hinner⟩
  · have hafter : Calm k d := ⟨hsame ▸ hfit, hrivals.trans hcalm⟩
    have hbooks : books k d = books k w.state := congrArg k.books hsame
    obtain ⟨hanswer, hunchanged⟩ := Books.answers_failed hfailed (books k w.state) k.kept
    exact ⟨hafter, hanswer, hbooks.trans hunchanged.symm⟩
  · have hbehind := k.serve r (w := behind w) hfit
    rw [← hinner] at hbehind
    exact ⟨⟨hbehind.fit, hrivals.trans hcalm⟩, hbehind.answers, hbehind.books_eq⟩

theorem failed_or_served {α : Type} {x y : Except Failure α} {s s' t : σ}
    (h : (∃ e, x = .error e ∧ s = t) ∨ (x = y ∧ s = s')) :
    (∃ e, some (.error e) = some x ∧ s = t) ∨ (x = y ∧ s = s') := by
  rcases h with ⟨e, hx, hs⟩ | hserved
  · exact .inl ⟨e, congrArg some hx.symm, hs⟩
  · exact .inr hserved

/-- **One request** behind faults without rivals, seen in the books of the ledger. -/
theorem Calm.serve {w : World (Drill σ)} (h : Calm k w.state) (r : Request) :
    Books.Served (Calm k) (books k) k.kept w.state r ((ledger k.ledger now).serve r w).1
      ((ledger k.ledger now).serve r w).2.state := by
  cases r with
  | find id =>
      obtain ⟨hrivals, hinner⟩ := find_cases k.ledger id w.state
      rcases hinner with hsame | hfound
      · exact ⟨⟨hsame ▸ h.1, hrivals.trans h.2⟩, .looked, congrArg k.books hsame⟩
      · have hbehind := k.serve (.find id) (w := behind w) h.1
        have hstate : (find k.ledger id w.state).state.inner =
            (k.ledger.serve (.find id) (behind w)).2.state := hfound
        rw [← hstate] at hbehind
        exact ⟨⟨hbehind.fit, hrivals.trans h.2⟩, .looked, hbehind.books_eq⟩
  | reserve id =>
      obtain ⟨hrivals, hserved⟩ := guarded_cases .reserve (k.ledger.reserve w.now id) w.state
      exact h.served hrivals (failed_or_served hserved)
  | release id =>
      obtain ⟨hrivals, hserved⟩ := guarded_cases .release (k.ledger.release w.now id) w.state
      exact h.served hrivals (failed_or_served hserved)
  | store b =>
      obtain ⟨hanswer, hstate⟩ := store_of_calm now k.ledger b h.2
      obtain ⟨hrivals, hserved⟩ := guarded_cases .store (k.ledger.store b) w.state
      rw [← hanswer, ← hstate] at hserved
      rw [← hstate] at hrivals
      exact h.served hrivals (failed_or_served hserved)
  | remove reference =>
      obtain ⟨hrivals, hserved⟩ := guarded_cases .remove (k.ledger.remove reference) w.state
      exact h.served hrivals (failed_or_served hserved)
  | _ => exact .aside h rfl

/-- A ledger with faults in front of it keeps the books of the ledger behind. -/
def bookkeeper (k : Bookkeeper σ) (now : Timestamp) : Bookkeeper (Drill σ) where
  ledger := ledger k.ledger now
  Fit := Calm k
  books := books k
  kept := k.kept
  kept_eq := k.kept_eq
  ids h ho := k.ids h.1 ho
  within h ho := k.within h.1 ho
  keyed h hb := k.keyed h.1 hb
  kept_record h hb := k.kept_record h.1 hb
  serve r h := h.serve r

end Drill

/-! ## Any pattern of failures -/

/-- What a ledger that follows a script does with a request. -/
inductive Cue where
  /-- Serve it. -/
  | serve
  /-- Fail. -/
  | fail (failure : Failure)
  /-- Refuse a record, as if its reference were taken; serve anything else. -/
  | refuse

/-- The answer a cue gives of its own. -/
def Cue.answer? : Cue → (r : Request) → Option r.Answer
  | fail failure, r => r.failed? failure
  | refuse, .store _ => some (.ok false)
  | _, _ => none

/-- A ledger that takes a cue for every request, and serves whatever comes after the last one. -/
structure Scripted (σ : Type) where
  script : List Cue
  inner : σ

namespace Scripted

variable {σ : Type}

/-- Answer as the next cue says, else let the ledger behind answer. -/
def cued (r : Request) (act : σ → Reply σ r.Answer) (d : Scripted σ) : Reply (Scripted σ) r.Answer :=
  match d.script.head?.bind (Cue.answer? · r) with
  | some x => ⟨x, ⟨d.script.tail, d.inner⟩, []⟩
  | none => ⟨(act d.inner).answer, ⟨d.script.tail, (act d.inner).state⟩, (act d.inner).events⟩

/-- The ledger behind the script. -/
def ledger (l : Ledger σ) : Ledger (Scripted σ) where
  find id := cued (.find id) (l.find id)
  reserve now id := cued (.reserve id) (l.reserve now id)
  release now id := cued (.release id) (l.release now id)
  store b := cued (.store b) (l.store b)
  remove reference := cued (.remove reference) (l.remove reference)

/-- What a cue answers is according to any books, and leaves them as they are. -/
theorem answers_cue {cue : Cue} {r : Request} {x : r.Answer} (h : cue.answer? r = some x) (b : Books)
    (kept : Booking → Booking) : b.Answers r x ∧ b.after kept r x = b := by
  cases cue with
  | serve => cases h
  | fail failure => exact Books.answers_failed h b kept
  | refuse => cases r <;> cases h; exact ⟨.stored, rfl⟩

variable {k : Bookkeeper σ}

/-- A request that was answered from the script, or passed on, has been served as the books want it. -/
theorem served_cued {w : World (Scripted σ)} (h : k.Fit w.state.inner) (r : Request)
    (act : σ → Reply σ r.Answer)
    (hserved : Books.Served k.Fit k.books k.kept w.state.inner r (act w.state.inner).answer
      (act w.state.inner).state) :
    Books.Served (fun d : Scripted σ => k.Fit d.inner) (fun d => k.books d.inner) k.kept w.state r
      (cued r act w.state).answer (cued r act w.state).state := by
  unfold cued
  cases hcue : w.state.script.head?.bind (Cue.answer? · r) with
  | none => exact ⟨hserved.fit, hserved.answers, hserved.books_eq⟩
  | some x =>
      obtain ⟨cue, -, hx⟩ := Option.bind_eq_some_iff.mp hcue
      obtain ⟨hanswer, hunchanged⟩ := answers_cue hx (k.books w.state.inner) k.kept
      exact ⟨h, hanswer, hunchanged.symm⟩

/-- A ledger that follows a script keeps the books of the ledger behind, whatever the script. -/
def bookkeeper (k : Bookkeeper σ) : Bookkeeper (Scripted σ) where
  ledger := ledger k.ledger
  Fit d := k.Fit d.inner
  books d := k.books d.inner
  kept := k.kept
  kept_eq := k.kept_eq
  ids h ho := k.ids h ho
  within h ho := k.within h ho
  keyed h hb := k.keyed h hb
  kept_record h hb := k.kept_record h hb
  serve {w} r h := by
    have hbehind := k.serve r (w := { w with state := w.state.inner }) h
    cases r with
    | find id => exact served_cued h (.find id) _ hbehind
    | reserve id => exact served_cued h (.reserve id) _ hbehind
    | release id => exact served_cued h (.release id) _ hbehind
    | store b => exact served_cued h (.store b) _ hbehind
    | remove reference => exact served_cued h (.remove reference) _ hbehind
    | _ => exact .aside h rfl

end Scripted

end DiveSchool
