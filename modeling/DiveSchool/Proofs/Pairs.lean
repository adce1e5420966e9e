import DiveSchool.Proofs.Divided

/-!
# `DiveSchool.Proofs.Pairs` — the same session with two databases

Two databases that hold the same offerings up to their moments, other bookings, and are alike in all else refuse
the same statements for the same reasons. So a session that asks nothing of the bookings can be followed in both
at once: `Session.Paired` says that two sessions come to related results and leave two such databases again,
with one rule for each way to build a session. The changes of a counter are of one form, and so is their proof.

## Contents
- **Databases.** `Database.Same`.
- **Sessions.** `Session.Paired` and its rules; `paired_transaction`.
- **Changes.** `RowChange.Alike`, changes that differ in moments, and `RowChange.Alike.paired`.
- **Ledger.** `Database.divided`, for a database that may refuse any statement.
-/

namespace DiveSchool

/-! ## Databases -/

/-- The same offerings up to their moments, and nothing else that is not the same but the bookings. -/
structure Database.Same (db db' : Database) : Prop where
  offerings : SameOfferings db.tables.offerings db'.tables.offerings
  rest : db' = { db with tables := db'.tables }

theorem Database.same_self (db : Database) : db.Same db := ⟨fun _ => rfl, rfl⟩

/-! ## Sessions -/

namespace Session

variable {α β γ δ ε : Type} {R : α → β → Prop} {R' : γ → δ → Prop}

/-- Two results that are related, or one error on both sides. -/
inductive Related (R : α → β → Prop) : Except ε α → Except ε β → Prop
  | ok {a : α} {b : β} (h : R a b) : Related R (.ok a) (.ok b)
  | error {e : ε} : Related R (.error e) (.error e)

theorem Related.map_eq {f : α → γ} {x y : Except ε α} (h : Related (fun a b => f a = f b) x y) :
    x.map f = y.map f := by
  cases h with
  | ok h => exact congrArg Except.ok h
  | error => rfl

theorem Related.map_map_eq {f : α → γ} {g : γ → δ} {x y : Except ε α}
    (h : Related (fun a b => g (f a) = g (f b)) x y) : (x.map f).map g = (y.map f).map g := by
  cases h with
  | ok h => exact congrArg Except.ok h
  | error => rfl

/-- The rows of two databases after a statement or more: the same offerings, and the bookings as before. -/
structure Kept (t t' u u' : Tables) : Prop where
  offerings : SameOfferings u.offerings u'.offerings
  bookings_left : u.bookings = t.bookings
  bookings_right : u'.bookings = t'.bookings

/-- Related results, and two databases that are the same but for bookings, which are as before. -/
structure Onward (R : α → β → Prop) (db db' : Database) (r : Except Failure α × Database)
    (r' : Except Failure β × Database) : Prop where
  result : Related R r.1 r'.1
  rest : r'.2 = { r.2 with tables := r'.2.tables }
  kept : Kept db.tables db'.tables r.2.tables r'.2.tables

theorem Onward.same {db db' : Database} {r : Except Failure α × Database} {r' : Except Failure β × Database}
    (h : Onward R db db' r r') : r.2.Same r'.2 := ⟨h.kept.offerings, h.rest⟩

/-- Two sessions come to related results wherever only the bookings and the moments differ. -/
def Paired (R : α → β → Prop) (s : Session α) (s' : Session β) : Prop :=
  ∀ ⦃db db' : Database⦄, db.Same db' → Onward R db db' (s db) (s' db')

theorem paired_pure {a : α} {b : β} (h : R a b) : Paired R (pure a : Session α) (pure b : Session β) :=
  fun _ _ hsame => ⟨.ok h, hsame.rest, hsame.offerings, rfl, rfl⟩

/-- A check that does not concern the database. -/
theorem paired_lift {x : Except Failure α} {y : Except Failure β} (h : Related R x y) :
    Paired R (liftM x : Session α) (liftM y : Session β) := by
  intro db db' hsame
  cases h with
  | ok h => exact ⟨.ok h, hsame.rest, hsame.offerings, rfl, rfl⟩
  | error => exact ⟨.error, hsame.rest, hsame.offerings, rfl, rfl⟩

/-- **One session after another**: a failure of the first ends both. -/
theorem paired_bind {s : Session α} {s' : Session β} {k : α → Session γ} {k' : β → Session δ}
    (h : Paired R s s') (hk : ∀ a b, R a b → Paired R' (k a) (k' b)) : Paired R' (s >>= k) (s' >>= k') := by
  intro db db' hsame
  have hfirst := h hsame
  rw [bind_apply, bind_apply]
  generalize s db = r at hfirst
  generalize s' db' = r' at hfirst
  obtain ⟨x, after⟩ := r
  obtain ⟨x', after'⟩ := r'
  have hafter : after.Same after' := hfirst.same
  cases hfirst.result with
  | error => exact ⟨.error, hafter.rest, hfirst.kept⟩
  | ok hab =>
      obtain ⟨hresult, hrest, hoffers, hleft, hright⟩ := hk _ _ hab hafter
      exact ⟨hresult, hrest, hoffers, hleft.trans hfirst.kept.bookings_left,
        hright.trans hfirst.kept.bookings_right⟩

/-- **A statement** is refused on both sides, or the rows decide. -/
theorem onward_statement {db db' : Database} (hsame : db.Same db') (kind : StatementKind)
    (failure : Refusal → Failure) {act : Tables → Except Refusal (α × Tables)}
    {act' : Tables → Except Refusal (β × Tables)}
    (hact : Related (fun p p' => R p.1 p'.1 ∧ Kept db.tables db'.tables p.2 p'.2) (act db.tables)
      (act' db'.tables)) :
    Onward R db db' (statement kind failure act db) (statement kind failure act' db') := by
  obtain ⟨hoffers, hrest⟩ := hsame
  obtain ⟨t, schema, locked, faults, isOpen⟩ := db
  obtain ⟨t', schema', locked', faults', isOpen'⟩ := db'
  cases hrest
  unfold statement Database.carryOut
  cases isOpen with
  | false => exact ⟨.error, rfl, hoffers, rfl, rfl⟩
  | true =>
      -- the same fault is taken on both sides
      simp only [Bool.not_true, Bool.false_eq_true, if_false, Database.takeFault]
      cases faults.find? (·.1 = kind) with
      | some fault => exact ⟨.error, rfl, hoffers, rfl, rfl⟩
      | none =>
          simp only [Option.map_none]
          by_cases hmissing : (kind.needsTables && !schema.exists?) = true
          · rw [if_pos hmissing, if_pos hmissing]
            exact ⟨.error, rfl, hoffers, rfl, rfl⟩
          · rw [if_neg hmissing, if_neg hmissing]
            simp only at hact ⊢
            generalize act t = x at hact
            generalize act' t' = x' at hact
            cases hact with
            | error => exact ⟨.error, rfl, hoffers, rfl, rfl⟩
            | ok h => exact ⟨.ok h.1, rfl, h.2⟩

/-! ## Transactions -/

theorem paired_control (kind : StatementKind) (failure : Refusal → Failure) :
    Paired Eq (control kind failure) (control kind failure) :=
  fun _ _ hsame => onward_statement hsame kind failure (.ok ⟨rfl, hsame.offerings, rfl, rfl⟩)

/-- Both transactions are to keep their changes, or both are to leave. -/
inductive EndAlike (R : α → β → Prop) : Session.Ending α → Session.Ending β → Prop
  | keep {a : α} {b : β} (h : R a b) : EndAlike R (.keep a) (.keep b)
  | leave {a : α} {b : β} (h : R a b) : EndAlike R (.leave a) (.leave b)

/-- Rows that are put back are the same up to moments again. -/
theorem onward_restored {before before' after after' : Database} (hbefore : before.Same before')
    (hafter : after.Same after') {x : Except Failure α} {y : Except Failure β} (h : Related R x y) :
    Onward R before before' (x, restored before after) (y, restored before' after') := by
  refine ⟨h, ?_, hbefore.offerings, rfl, rfl⟩
  show restored before' after' = _
  rw [hafter.rest]
  rfl

/-- **The end of a transaction**: the changes are kept on both sides, or the rows put back on both. -/
theorem onward_finish {before before' : Database} (hbefore : before.Same before')
    {work : Session (Session.Ending α)} {work' : Session (Session.Ending β)}
    (h : Paired (EndAlike R) work work') {db db' : Database} (hsame : db.Same db')
    (hleft : db.tables.bookings = before.tables.bookings)
    (hright : db'.tables.bookings = before'.tables.bookings) :
    Onward R before before' (finish before work db) (finish before' work' db') := by
  have hworked := h hsame
  unfold finish
  generalize work db = r at hworked
  generalize work' db' = r' at hworked
  obtain ⟨x, after⟩ := r
  obtain ⟨x', after'⟩ := r'
  have hafter : after.Same after' := hworked.same
  cases hworked.result with
  | error => exact onward_restored hbefore hafter .error
  | ok hend =>
      cases hend with
      | leave hab => exact onward_restored hbefore hafter (.ok hab)
      | keep hab =>
          dsimp only
          have hcommitted := paired_control .commit (broken "Failed to commit transaction") hafter
          generalize control .commit (broken "Failed to commit transaction") after = c at hcommitted
          generalize control .commit (broken "Failed to commit transaction") after' = c' at hcommitted
          obtain ⟨y, last⟩ := c
          obtain ⟨y', last'⟩ := c'
          have hlast : last.Same last' := hcommitted.same
          cases hcommitted.result with
          | error => exact onward_restored hbefore hlast .error
          | ok _ =>
              refine ⟨.ok hab, hlast.rest, hlast.offerings, ?_, ?_⟩
              · exact (hcommitted.kept.bookings_left.trans hworked.kept.bookings_left).trans hleft
              · exact (hcommitted.kept.bookings_right.trans hworked.kept.bookings_right).trans hright

/-- **A transaction** has the same course on both sides. -/
theorem paired_transaction {work : Session (Session.Ending α)} {work' : Session (Session.Ending β)}
    (h : Paired (EndAlike R) work work') : Paired R (transaction work) (transaction work') := by
  intro before before' hbefore
  have hstarted := paired_control .start notStarted hbefore
  unfold transaction
  rw [bind_apply, bind_apply]
  generalize control .start notStarted before = r at hstarted
  generalize control .start notStarted before' = r' at hstarted
  obtain ⟨x, db⟩ := r
  obtain ⟨x', db'⟩ := r'
  have hsame : db.Same db' := hstarted.same
  cases hstarted.result with
  | error => exact ⟨.error, hsame.rest, hstarted.kept⟩
  | ok _ =>
      have htimed := paired_bind (paired_control .setTimeout (broken "Failed to set lock timeout"))
        fun _ _ _ => h
      exact onward_finish hbefore htimed hsame hstarted.kept.bookings_left hstarted.kept.bookings_right

end Session

/-! ## Changes -/

namespace Database

open Session

variable {id : OfferingId} {o o' : Offering}

/-- Both rows are there and the same up to moments, or none is. -/
def RowsAlike (x y : Option Offering) : Prop := x.map Offering.timeless = y.map Offering.timeless

theorem paired_lockOffering (id : OfferingId) : Paired RowsAlike (lockOffering id) (lockOffering id) := by
  intro db db' hsame
  have hlocked : db'.locked = db.locked := by rw [hsame.rest]
  refine onward_statement hsame .lock _ ?_
  rcases Offering.alike_cases (hsame.offerings id) with ⟨hleft, hright⟩ | ⟨o, o', hleft, hright, ho⟩
  · rw [hleft, hright]
    exact .ok ⟨rfl, hsame.offerings, rfl, rfl⟩
  · simp only [hleft, hright, hlocked]
    split
    · exact .error
    · exact .ok ⟨congrArg some ho, hsame.offerings, rfl, rfl⟩

theorem paired_writeLocked (context : String) (ho : o.timeless = o'.timeless) :
    Paired (fun row row' => row.timeless = row'.timeless) (writeLocked context o) (writeLocked context o') := by
  intro db db' hsame
  have hwithin : o.WithinCapacity = o'.WithinCapacity := Offering.eq_of_timeless _ ho
  have hstored : o.stored.timeless = o'.stored.timeless := ho
  refine onward_statement hsame .update _ ?_
  unfold Tables.replaceOffering
  simp only [hwithin]
  split
  · exact .ok ⟨hstored, hsame.offerings.insert hstored, rfl, rfl⟩
  · exact .error

theorem paired_findOffering (id : OfferingId) : Paired RowsAlike (findOffering id) (findOffering id) :=
  fun _ _ hsame => onward_statement hsame .select _ (.ok ⟨hsame.offerings id, hsame.offerings, rfl, rfl⟩)

end Database

namespace RowChange

open Database Session

variable {α β : Type} {R : α → β → Prop} {c : RowChange α} {c' : RowChange β}

/-- Two changes that treat rows alike which are the same up to moments. -/
structure Alike (R : α → β → Prop) (c : RowChange α) (c' : RowChange β) : Prop where
  context_eq : c.context = c'.context
  absent : R c.absent c'.absent
  examine_eq : ∀ o o', o.timeless = o'.timeless → c.examine o = c'.examine o'
  rejected : ∀ o o', o.timeless = o'.timeless → R (c.rejected o) (c'.rejected o')
  becomes : ∀ o o', o.timeless = o'.timeless → (c.becomes o).timeless = (c'.becomes o').timeless
  recheck_eq : ∀ o o', o.timeless = o'.timeless → c.recheck o = c'.recheck o'
  applied : ∀ o o', o.timeless = o'.timeless → R (c.applied o) (c'.applied o')

theorem related_self {x : Except Failure α} : Related Eq x x := by
  cases x with
  | error e => exact .error
  | ok a => exact .ok rfl

/-- **Alike changes** have the same course in databases that are the same but for moments and bookings. -/
theorem Alike.paired (h : c.Alike R c') (id : OfferingId) : Paired R (c.session id) (c'.session id) := by
  refine paired_transaction (paired_bind (paired_lockOffering id) ?_)
  intro x y hrow
  rcases Offering.alike_cases hrow with ⟨rfl, rfl⟩ | ⟨o, o', rfl, rfl, ho⟩
  · exact paired_pure (.leave h.absent)
  · dsimp only
    rw [h.examine_eq o o' ho]
    refine paired_bind (paired_lift related_self) ?_
    rintro allowed _ rfl
    cases allowed with
    | false => exact paired_pure (.leave (h.rejected o o' ho))
    | true =>
        rw [h.context_eq]
        refine paired_bind (paired_writeLocked c'.context (h.becomes o o' ho)) ?_
        intro row row' hrow'
        rw [h.recheck_eq row row' hrow']
        refine paired_bind (paired_lift related_self) ?_
        rintro _ _ -
        exact paired_pure (.keep (h.applied row row' hrow'))

/-- The moment of a change of a counter makes no difference but to moments. -/
theorem taking_alike (now now' : Timestamp) :
    (taking now).Alike (fun x y => x.toReservation.timeless = y.toReservation.timeless) (taking now') where
  context_eq := rfl
  absent := rfl
  examine_eq o o' ho := Offering.eq_of_timeless (fun o => o.checkInvariant.map fun _ => o.isBookable) ho
  rejected o o' ho := by
    have hstatus : o.status = o'.status := Offering.eq_of_timeless _ ho
    simp only [taking, CounterChange.toReservation, hstatus]
    split
    · exact congrArg Reservation.full ho
    · exact congrArg Reservation.notBookable ho
  becomes o o' ho := Offering.eq_of_timeless (fun o => (o.taken now).timeless) ho
  recheck_eq o o' ho := Offering.eq_of_timeless Offering.checkInvariant ho
  applied o o' ho := congrArg Reservation.reserved ho

theorem vacating_alike (now now' : Timestamp) :
    (vacating now).Alike (fun x y => x.toFreeing.timeless = y.toFreeing.timeless) (vacating now') where
  context_eq := rfl
  absent := rfl
  examine_eq o o' ho :=
    Offering.eq_of_timeless (fun o => o.checkInvariant.map fun _ => !decide (o.bookings ≤ 0)) ho
  rejected o o' ho := congrArg Freeing.empty ho
  becomes o o' ho := Offering.eq_of_timeless (fun o => (o.vacated now).timeless) ho
  recheck_eq o o' ho := Offering.eq_of_timeless Offering.checkInvariant ho
  applied o o' ho := congrArg Freeing.released ho

end RowChange

/-! ## Ledger -/

namespace Session

/-- **A statement that succeeds** was carried out on the rows, and only they have changed. -/
theorem statement_of_ok {α : Type} {kind : StatementKind} {failure : Refusal → Failure}
    {act : Tables → Except Refusal (α × Tables)} {db : Database} {a : α}
    (h : (statement kind failure act db).1 = .ok a) :
    ∃ t, act db.tables = .ok (a, t) ∧ (statement kind failure act db).2 = { db with tables := t } := by
  unfold statement at h ⊢
  cases hrefusal : db.refusal? kind with
  | some r =>
      obtain ⟨herror, -⟩ := Database.carryOut_of_refused hrefusal act
      generalize db.carryOut kind act = carried at herror h
      obtain ⟨x, after⟩ := carried
      cases herror
      cases h
  | none =>
      rw [Database.carryOut_of_accepted hrefusal act] at h ⊢
      generalize act db.tables = x at h
      rcases x with r | ⟨a', t⟩
      · cases h
      · cases h
        exact ⟨t, rfl, rfl⟩

end Session

namespace Database

variable {s t : Database}

/-- The bookings under their references. -/
def record? (db : Database) : String → Option Booking := db.tables.bookings.get?

/-- What makes a difference to bookings alone leaves the databases the same. -/
theorem Same.withBookings (h : s.Same t) (bookings : Table String Booking) :
    s.Same { t with tables := { t.tables with bookings } } := by
  refine ⟨h.offerings, ?_⟩
  rw [h.rest]

theorem Same.find (h : s.Same t) (id : OfferingId) :
    Replied Same record? (Option.map Offering.timeless) s t (ledger.find id s) (ledger.find id t) := by
  have hpaired := paired_findOffering id h
  exact ⟨hpaired.result.map_eq, hpaired.same, congrArg Table.get? hpaired.kept.bookings_left,
    congrArg Table.get? hpaired.kept.bookings_right⟩

theorem Same.reserve (h : s.Same t) (now now' : Timestamp) (id : OfferingId) :
    Replied Same record? Reservation.timeless s t (ledger.reserve now id s) (ledger.reserve now' id t) := by
  have hpaired := (RowChange.taking_alike now now').paired id h
  rw [RowChange.session_taking, RowChange.session_taking] at hpaired
  exact ⟨hpaired.result.map_map_eq, hpaired.same, congrArg Table.get? hpaired.kept.bookings_left,
    congrArg Table.get? hpaired.kept.bookings_right⟩

theorem Same.release (h : s.Same t) (now now' : Timestamp) (id : OfferingId) :
    Replied Same record? Freeing.timeless s t (ledger.release now id s) (ledger.release now' id t) := by
  have hpaired := (RowChange.vacating_alike now now').paired id h
  rw [RowChange.session_vacating, RowChange.session_vacating] at hpaired
  exact ⟨hpaired.result.map_map_eq, hpaired.same, congrArg Table.get? hpaired.kept.bookings_left,
    congrArg Table.get? hpaired.kept.bookings_right⟩

theorem Same.store {b : Booking} {new : Bool} (h : s.Same t) (hanswer : (storeBooking b t).1 = .ok new) :
    s.Same (storeBooking b t).2 ∧ (new = true ↔ t.record? b.reference = none) ∧
      (storeBooking b t).2.record? =
        if new then Function.update t.record? b.reference (some b.stored) else t.record? := by
  obtain ⟨u, hact, hafter⟩ := Session.statement_of_ok hanswer
  have hstate : (storeBooking b t).2 = { t with tables := u } := hafter
  rw [hstate]
  unfold Tables.insertBooking Table.contains at hact
  cases hthere : t.tables.bookings.get? b.reference with
  | some other =>
      simp only [hthere, Option.isSome_some, if_true] at hact
      cases hact
      exact ⟨h.withBookings _, by simp [record?, hthere], rfl⟩
  | none =>
      simp only [hthere, Option.isSome_none, Bool.false_eq_true, if_false] at hact
      split at hact
      · cases hact
        exact ⟨h.withBookings _, by simp [record?, hthere], Table.get?_insert_eq_update _ _ _⟩
      · cases hact

theorem Same.remove {reference : String} {found : Option Booking} (h : s.Same t)
    (hanswer : (removeBooking reference t).1 = .ok found) :
    s.Same (removeBooking reference t).2 ∧ found = t.record? reference ∧
      (removeBooking reference t).2.record? = Function.update t.record? reference none := by
  obtain ⟨u, hact, hafter⟩ := Session.statement_of_ok hanswer
  have hstate : (removeBooking reference t).2 = { t with tables := u } := hafter
  cases hact
  rw [hstate]
  exact ⟨h.withBookings _, rfl, Table.get?_erase_eq_update _ _⟩

theorem stored_moment (b : Booking) : b.stored = { b with issuedAt := b.stored.issuedAt } := rfl

/-- The ledger in a database is divided, whatever it holds and whichever statements it refuses. -/
def divided : Divided Database where
  ledger := ledger
  Same := Same
  record? := record?
  kept := Booking.stored
  kept_eq := stored_moment
  found id h := h.find id
  reserved now now' id h := h.reserve now now' id
  released now now' id h := h.release now now' id
  stored h hanswer := h.store hanswer
  removed h hanswer := h.remove hanswer

end Database

end DiveSchool
