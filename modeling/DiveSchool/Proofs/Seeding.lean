import DiveSchool.Proofs.Commands
import DiveSchool.Proofs.FirstFree

/-!
# `DiveSchool.Proofs.Seeding` — which reference the command to book issues

The command begins with an empty registry, and takes in the stored references that start as those to its
offering do. That is enough, for all that can be drawn for the offering starts so: a draw is in the registry
if, and only if, it is stored, whatever offering it was stored for. So the command issues the first draw that
is not stored, with shared references by storing until one is accepted, and otherwise in one attempt.

## Contents
- **Leads.** `lead_prefix_reference` and `Tables.mem_bookingsUnder`.
- **Seeds.** `Console.get?_seeds`, what the registry shows of the references that can be drawn, and
  `Console.of_storedReferences` and `Console.meets_seeds`: these seeds are what is loaded.
- **Requests.** `Database.Ready.reserve_eq` and `Database.Ready.store_cases`, what a ready database answers.
- **Desk.** `Desk.follows_reserve_open` and `Desk.follows_bookRecorded_open`, where nothing is in the way.
- **Command.** `seeded_booking_takes_first_unstored`.
-/

namespace DiveSchool

/-! ## Leads -/

theorem lead_prefix_reference (offering holder : Option String) (suffix : Suffix) :
    (lead offering).toList <+: (reference offering holder suffix).toList := by
  simp only [reference, stem, String.toList_append, List.append_assoc]
  exact List.prefix_append _ _

namespace Tables

variable {t : Tables} {b : Booking}

theorem mem_bookingsUnder {start : String} :
    b ∈ t.bookingsUnder start ↔ b ∈ t.bookings.values ∧ start.toList <+: b.reference.toList := by
  rw [bookingsUnder, oldestFirst, List.mem_mergeSort, List.mem_filter, List.isPrefixOf_iff_prefix]

theorem Sound.mem_values_iff (ht : t.Sound) :
    b ∈ t.bookings.values ↔ t.bookings.get? b.reference = some b := by
  constructor
  · intro hb
    obtain ⟨⟨reference, b'⟩, hmem, rfl⟩ := List.mem_map.mp hb
    have hget := Table.get?_eq_some_iff.mpr hmem
    rw [ht.references _ _ hget]
    exact hget
  · intro hb
    exact List.mem_map.mpr ⟨_, Table.get?_eq_some_iff.mp hb, rfl⟩

end Tables

/-! ## Seeds -/

namespace Console

/-- The registry that stored bookings give. -/
def seeds (stored : List Booking) : Registry :=
  stored.foldl (fun r b => r.insert b.reference b.offeringId) .empty

/-- A reference belongs to the last booking that has it, or to whom it belonged before. -/
theorem get?_foldl_insert {bs : List Booking} {r : Registry} {reference : String} :
    (bs.foldl (fun r b => r.insert b.reference b.offeringId) r).get? reference =
      ((bs.reverse.find? (·.reference = reference)).map Booking.offeringId).or (r.get? reference) := by
  induction bs generalizing r with
  | nil => rfl
  | cons b bs ih =>
      rw [List.foldl_cons, ih, Table.get?_insert, List.reverse_cons, List.find?_append, Option.map_or,
        Option.or_assoc]
      by_cases h : b.reference = reference
      · simp [h]
      · simp [h, Ne.symm h]

theorem get?_seeds_eq {bs : List Booking} {reference : String} : (seeds bs).get? reference =
    (bs.reverse.find? (·.reference = reference)).map Booking.offeringId := by
  rw [seeds, get?_foldl_insert, Table.get?_empty, Option.or_none]

/-- A booking that was loaded has its reference in the registry. -/
theorem get?_seeds_ne_none {bs : List Booking} {b : Booking} (hb : b ∈ bs) :
    (seeds bs).get? b.reference ≠ none := by
  rw [get?_seeds_eq, Ne, Option.map_eq_none_iff, List.find?_eq_none]
  intro hnone
  exact hnone b (List.mem_reverse.mpr hb) (decide_eq_true rfl)

variable {t : Tables} {o : Offering}

/-- Whatever can be drawn for the offering is loaded if it is stored, for only its reference is looked at. -/
theorem mem_loaded {b : Booking} {firstName : Option String} {suffix : Suffix} (hb : b ∈ t.bookings.values)
    (hreference : b.reference = reference (some o.name) firstName suffix) :
    b ∈ t.bookingsUnder (lead (some o.name)) := by
  rw [Tables.mem_bookingsUnder, hreference]
  exact ⟨hb, lead_prefix_reference _ _ _⟩

/-- **The seeds** of a booking: of what can be drawn for the offering they show just what is stored. -/
theorem get?_seeds (ht : t.Sound) (o : Offering) (firstName : Option String) (suffix : Suffix) :
    (seeds (t.bookingsUnder (lead (some o.name)))).get? (reference (some o.name) firstName suffix) =
      (t.bookings.get? (reference (some o.name) firstName suffix)).map Booking.offeringId := by
  rw [get?_seeds_eq]
  cases hfound : (t.bookingsUnder (lead (some o.name))).reverse.find?
      (·.reference = reference (some o.name) firstName suffix) with
  | some b =>
      have hreference : b.reference = reference (some o.name) firstName suffix := by
        simpa using List.find?_some hfound
      have hmem := List.mem_reverse.mp (List.mem_of_find?_eq_some hfound)
      have hstored := ht.mem_values_iff.mp (Tables.mem_bookingsUnder.mp hmem).1
      rw [← hreference, hstored]
  | none =>
      cases hstored : t.bookings.get? (reference (some o.name) firstName suffix) with
      | none => rfl
      | some b =>
          have hreference := ht.references _ _ hstored
          have hmem : b ∈ t.bookingsUnder (lead (some o.name)) :=
            mem_loaded (ht.mem_values_iff.mpr (hreference.symm ▸ hstored)) hreference
          exact absurd (decide_eq_true hreference)
            (List.find?_eq_none.mp hfound b (List.mem_reverse.mpr hmem))

/-- What is loaded before a booking are the seeds, whatever else is the matter with the database. -/
theorem of_storedReferences {db : Database} {registry : Registry}
    (ho : db.tables.offerings.get? o.id = some o) (h : (storedReferences o.id db).1 = .ok registry) :
    registry = seeds (db.tables.bookingsUnder (lead (some o.name))) := by
  refine (?_ : (storedReferences o.id).Ends (fun x _ => ∀ r, x = .ok r →
    r = seeds (db.tables.bookingsUnder (lead (some o.name)))) db).1 registry h
  refine Session.ends_bind (Session.ends_statement ?_ ?_)
  · intro _ _ _ hr
    cases hr
  · intro _
    simp only [ho]
    refine Session.ends_bind (Session.ends_statement ?_ ?_)
    · intro _ _ _ hr
      cases hr
    · intro _
      exact Session.ends_pure fun r hr => (Except.ok.inj hr).symm

theorem meets_seeds {Q : Except Failure Registry → Tables → Prop} {id : OfferingId}
    (ho : t.offerings.get? id = some o)
    (h : Q (.ok (seeds (t.bookingsUnder (lead (some o.name))))) t) : (storedReferences id).Meets Q t := by
  refine Session.meets_bind (Database.meets_findOffering ?_)
  rw [ho]
  exact Session.meets_bind (Session.meets_read (Session.meets_pure h))

variable {α : Type} {occasion : Occasion} {registry : Registry} {p : Procedure α}

/-- **A procedure at the desk** comes to what following it alone shows. -/
theorem meets_atDesk_alone {Q : Except Failure α → Tables → Prop}
    (hp : ∀ db, db.Ready → db.tables = t →
      p.Follows (Database.ledger.alone False ⟨db, registry, occasion.generator, occasion.now, []⟩)
        (fun w a => ∃ t', w.state = { db with tables := t' } ∧ Q (.ok a) t')
        ⟨db, registry, occasion.generator, occasion.now, []⟩) :
    (atDesk occasion registry p).Meets Q t := by
  intro db hdb hdbt
  obtain ⟨w, ⟨t', hstate, hQ⟩, hworld⟩ := Ledger.run_of_follows (hp db hdb hdbt)
  refine ⟨_, t', ?_, hQ⟩
  simp only [atDesk]
  rw [hworld, hstate]

end Console

/-! ## Requests -/

namespace Database

variable {db : Database} {id : OfferingId} {o : Offering} {now : Timestamp} {b : Booking}

theorem Ready.find_eq (hdb : db.Ready) (ho : db.tables.offerings.get? id = some o) :
    ledger.find id db = ⟨.ok (some o), db, []⟩ := by
  obtain ⟨x, t', hs, rfl, rfl⟩ := meets_findOffering (t := db.tables)
    (Q := fun x t' => x = .ok (some o) ∧ t' = db.tables) ⟨congrArg Except.ok ho, rfl⟩ db hdb rfl
  show reply (findOffering id) db = _
  rw [reply, hs]

theorem Ready.reserve_eq (hdb : db.Ready) (ht : db.tables.Sound) (ho : db.tables.offerings.get? id = some o)
    (hopen : o.status = .published) (hfree : o.isFull = false) :
    (ledger.reserve now id db).answer = .ok (.reserved (o.taken now).stored) ∧
      (ledger.reserve now id db).state = { db with tables := db.tables.put (o.taken now).stored } := by
  obtain ⟨hanswer, hstate, -⟩ := Ready.serve (w := ⟨db, .empty, default, now, []⟩) hdb ht (.reserve id)
  replace hanswer : db.tables.Answers now (.reserve id) (ledger.reserve now id db).answer := hanswer
  replace hstate : (ledger.reserve now id db).state =
    { db with tables := db.tables.after (.reserve id) (ledger.reserve now id db).answer } := hstate
  generalize (ledger.reserve now id db).answer = x at hanswer hstate ⊢
  cases hanswer with
  | nothingToReserve hnone => cases ho.symm.trans hnone
  | closed ho' hclosed => cases ho.symm.trans ho'; exact absurd hopen hclosed
  | full ho' _ hfull => cases ho.symm.trans ho'; cases hfree.symm.trans hfull
  | reserved ho' => cases ho.symm.trans ho'; exact ⟨rfl, hstate⟩

/-- **Storing** a record of an offering that is there: it is refused exactly if its reference is stored. -/
theorem Ready.store_cases (hdb : db.Ready) (ht : db.tables.Sound)
    (ho : db.tables.offerings.get? b.offeringId = some o) :
    match (ledger.store b db).answer with
      | .ok true => db.tables.bookings.get? b.reference = none ∧
          (ledger.store b db).state = { db with tables := db.tables.add b }
      | .ok false => db.tables.bookings.get? b.reference ≠ none ∧ (ledger.store b db).state = db
      | .error _ => False := by
  obtain ⟨hanswer, hstate, -⟩ := Ready.serve (w := ⟨db, .empty, default, default, []⟩) hdb ht (.store b)
  replace hanswer : db.tables.Answers default (.store b) (ledger.store b db).answer := hanswer
  replace hstate : (ledger.store b db).state =
    { db with tables := db.tables.after (.store b) (ledger.store b db).answer } := hstate
  generalize (ledger.store b db).answer = x at hanswer hstate ⊢
  cases hanswer with
  | taken hused => exact ⟨fun hnone => absurd (hused.symm.trans hnone) nofun, hstate⟩
  | stored hnew _ => exact ⟨hnew, hstate⟩
  | orphan hnone => cases ho.symm.trans hnone

end Database

/-! ## Desk -/

namespace Desk

open Procedure

variable {d : Desk} {id : OfferingId} {holder : Holder} {o : Offering} {sure : Prop} {start w : World Database}

/-- **Reserving** where nothing is in the way takes a spot. -/
theorem follows_reserve_open {Q : World Database → Except BookingError Offering → Prop}
    (hw : w.state.Ready) (ht : w.state.tables.Sound) (ho : w.state.tables.offerings.get? id = some o)
    (hopen : o.status = .published) (hfree : o.isFull = false)
    (hvalid : (d.strategy.validate holder.level o).valid = true)
    (hQ : Q { w with state := { w.state with tables := w.state.tables.put (o.taken w.now).stored } }
      (.ok (o.taken w.now).stored)) :
    (d.reserve id holder).Follows (Database.ledger.alone sure start) Q w := by
  have hfound := hw.find_eq ho
  have hjudged : d.judge id holder (.ok (some o)) = .ok () := by
    simp [judge, hopen, hfree, hvalid, Status.acceptsBookings]
  obtain ⟨hanswer, hstate⟩ :
      (Database.ledger.reserve w.now id w.state).answer = .ok (.reserved (o.taken w.now).stored) ∧
        (Database.ledger.reserve w.now id w.state).state =
          { w.state with tables := w.state.tables.put (o.taken w.now).stored } :=
    hw.reserve_eq ht ho hopen hfree
  refine follows_reserve_alone ?_ ?_
  · intro e hrefused
    rw [hfound, hjudged] at hrefused
    cases hrefused
  · intro _
    rw [hfound, hanswer, hstate]
    exact hQ

/-- **Booking** where nothing is in the way: the first draw that is not stored is booked, if the registry is
    no hindrance to it. -/
theorem follows_bookRecorded_open {now : Timestamp} {n : Nat}
    (hw : w.state.Ready) (ht : w.state.tables.Sound) (ho : w.state.tables.offerings.get? id = some o)
    (hopen : o.status = .published) (hfree : o.isFull = false)
    (hvalid : (d.strategy.validate holder.level o).valid = true) (hn : n < d.rule.attempts)
    (hclear : d.rule.unique = true → w.registry.get? (o.drawn holder.firstName w.generator n) = none)
    (hnew : w.state.tables.bookings.get? (o.drawn holder.firstName w.generator n) = none)
    (hbefore : ∀ m < n, w.state.tables.bookings.get? (o.drawn holder.firstName w.generator m) ≠ none)
    {Q : World Database → Except BookingError Booking → Prop}
    (hQ : ∀ b w', b = ⟨o.drawn holder.firstName w.generator n, id, holder.firstName, now⟩ →
      w'.state = { w.state with tables := (w.state.tables.put (o.taken w.now).stored).add b } → Q w' (.ok b)) :
    (d.bookRecorded now id holder).Follows (Database.ledger.alone False start) Q w := by
  refine follows_bind.mpr (follows_reserve_open hw ht ho hopen hfree hvalid ?_)
  have hready := hw.withTables (w.state.tables.put (o.taken w.now).stored)
  have hsound : (w.state.tables.put (o.taken w.now).stored).Sound := ht.put_taken ho hfree
  have htaken : (w.state.tables.put (o.taken w.now).stored).offerings.get? id = some (o.taken w.now).stored :=
    ht.get?_put_taken ho
  -- a refused record changes nothing, so one state is enough for all rounds
  refine follows_storeUnderFresh_first (n := n) (o := (o.taken w.now).stored)
    (w := { w with state := { w.state with tables := w.state.tables.put (o.taken w.now).stored } })
    (I := fun s => s = { w.state with tables := w.state.tables.put (o.taken w.now).stored })
    (R := fun reference => w.state.tables.bookings.get? reference ≠ none)
    rfl ?_ hn hn hclear (not_not_intro hnew) (fun m hm _ => hbefore m hm) ?_
  · rintro s reference rfl
    have hcases := hready.store_cases (b := ⟨reference, id, holder.firstName, now⟩) hsound htaken
    generalize Database.ledger.store _ _ = reply at hcases ⊢
    obtain ⟨answer, s, events⟩ := reply
    rcases answer with cause | (_ | _)
    · exact hcases
    · exact hcases
    · exact not_not_intro hcases.1
  · rintro s registry b - hb rfl hstored
    have hid : b.offeringId = id := congrArg Booking.offeringId hb
    have hcases := hready.store_cases (b := b) hsound (hid.symm ▸ htaken)
    rw [hstored] at hcases
    exact hQ b _ hb hcases.2

end Desk

/-! ## Command -/

/-- Tables that differ by one booking: its row was not there and is the last one now, and its offering shows
    one spot more. -/
structure Tables.OneMore (t t' : Tables) (o : Offering) (b : Booking) : Prop where
  fresh : t.bookings.get? b.reference = none
  rows : t'.bookings.values = t.bookings.values ++ [b.stored]
  counter : ∃ o', o.Counted o' 1 ∧
    ∀ id, t'.offerings.get? id = if id = o.id then some o' else t.offerings.get? id

theorem Tables.Sound.oneMore {t : Tables} {o : Offering} {b : Booking} {now : Timestamp} (ht : t.Sound)
    (hrounded : t.Rounded) (ho : t.offerings.get? o.id = some o) (hfree : o.isFull = false)
    (hnew : t.bookings.get? b.reference = none) : t.OneMore ((t.put (o.taken now).stored).add b) o b where
  fresh := hnew
  rows := Table.values_insert hnew
  counter := by
    refine ⟨(o.taken now).stored, ⟨?_, Offering.toInt_bookings_add_one hfree⟩, ?_⟩
    · exact Offering.stored_rewritten (hrounded _ _ ho) now o.capacity (o.bookings + 1)
    · exact ht.get?_put ho rfl

namespace Database

/-- What is loaded is what the table shows, whatever else is the matter with the database. -/
theorem listBookingsUnder_ok {start : String} {db : Database} {loaded : List Booking}
    (h : (listBookingsUnder start db).1 = .ok loaded) : loaded = db.tables.bookingsUnder start := by
  have hview : ∀ l, (listBookingsUnder start db).1 = .ok l → l = db.tables.bookingsUnder start := by
    refine (Session.ends_statement (Q := fun x _ => ∀ l, x = .ok l → l = db.tables.bookingsUnder start) ?_ ?_).1
    · intro r _ l hl
      cases hl
    · intro _ l hl
      exact (Except.ok.inj hl).symm
  exact hview loaded h

end Database

namespace Console

open Session

/-- A booking that passes every check: its offering is stored, published and not full, and the customer is
    eligible for it. -/
structure Passes (strategy : Strategy) (t : Tables) (text : String) (o : Offering) (c : Customer) : Prop where
  named : Uuid.ofText? text = some o.id
  offered : t.offerings.get? o.id = some o
  published : o.status = .published
  free : o.isFull = false
  eligible : (strategy.validate c.holder.level o).valid = true

theorem firstName_customer (now : Timestamp) (firstName lastName email : String) (level : Option Level)
    (guest : Bool) : (customer now firstName lastName email level guest).holder.firstName = firstName := by
  cases guest <;> rfl

/-- The command goes to the desk with what it has loaded. -/
theorem book_eq {d : Desk} {occasion : Occasion} {text : String} {id : OfferingId} {c : Customer}
    {db : Database} {registry : Registry} (hid : Uuid.ofText? text = some id)
    (hs : storedReferences id db = (.ok registry, db)) :
    book d occasion text c db = bookWith d occasion id c registry db := by
  unfold book
  simp only [readId, hid]
  show (storedReferences id >>= bookWith d occasion id c) db = _
  rw [bind_apply, hs]

/-- **Booking** by command, when every check is passed: the first draw that is not stored is booked. -/
theorem meets_book {t : Tables} {d : Desk} {text : String} {o : Offering} {c : Customer} {n : Nat}
    (occasion : Occasion) (ht : t.Sound) (hrounded : t.Rounded) (hc : Passes d.strategy t text o c)
    (hn : n < d.rule.attempts)
    (hnew : t.bookings.get? (o.drawn c.holder.firstName occasion.generator n) = none)
    (hbefore : ∀ m < n, t.bookings.get? (o.drawn c.holder.firstName occasion.generator m) ≠ none) :
    (book d occasion text c).Meets (fun x t' =>
      x = .ok [success s!"Booked {o.drawn c.holder.firstName occasion.generator n} ({c.kind})"] ∧
        t.OneMore t' o
          ⟨o.drawn c.holder.firstName occasion.generator n, o.id, c.holder.firstName, occasion.now⟩) t := by
  obtain ⟨hnamed, ho, hopen, hfree, hvalid⟩ := hc
  unfold book
  refine meets_bind (meets_lift ?_)
  simp only [readId, hnamed]
  refine meets_bind (meets_seeds ho ?_)
  unfold bookWith
  refine meets_bind (meets_atDesk_alone ?_)
  rintro db hdb rfl
  refine Desk.follows_bookRecorded_open
    (w := ⟨db, seeds (db.tables.bookingsUnder (lead (some o.name))), occasion.generator, occasion.now, []⟩)
    (n := n) hdb ht ho hopen hfree hvalid hn ?_ hnew hbefore ?_
  · intro _
    show (seeds _).get? (reference (some o.name) (some c.holder.firstName) _) = none
    rw [get?_seeds ht]
    exact Option.map_eq_none_iff.mpr hnew
  · rintro b w' rfl hstate
    refine ⟨_, hstate, meets_pure ⟨rfl, ?_⟩⟩
    exact ht.oneMore hrounded ho hfree hnew

/-- **The seeds are complete**: whatever the database holds, the bookings that are loaded before a booking
    include every one whose reference can be drawn for the offering and the holder, whatever its own offering,
    and the registry that the command begins with has all their references. Of what can be drawn, that
    registry shows just what is stored, and with it the command goes to the desk. So a booking that passes
    every check is stored under the first draw that is not stored, if it is within the attempts, whether
    references are unique or not; one row comes in, one spot more is booked, and nothing else changes. -/
theorem seeded_booking_takes_first_unstored (db : Database) (o : Offering) (firstName : String) :
    (∀ loaded, (Database.listBookingsUnder (lead (some o.name)) db).1 = .ok loaded →
      ∀ b ∈ db.tables.bookings.values, ∀ suffix,
        b.reference = reference (some o.name) (some firstName) suffix → b ∈ loaded) ∧
    (∀ registry, (storedReferences o.id db).1 = .ok registry → db.tables.offerings.get? o.id = some o →
      ∀ b ∈ db.tables.bookings.values, ∀ suffix,
        b.reference = reference (some o.name) (some firstName) suffix → registry.get? b.reference ≠ none) ∧
    (db.Ready → db.tables.Sound → db.tables.Rounded →
      (∃ loaded, Database.listBookingsUnder (lead (some o.name)) db = (.ok loaded, db)) ∧
      (db.tables.offerings.get? o.id = some o →
        ∃ registry, storedReferences o.id db = (.ok registry, db) ∧
          (∀ suffix, registry.get? (reference (some o.name) (some firstName) suffix) =
            (db.tables.bookings.get? (reference (some o.name) (some firstName) suffix)).map
              Booking.offeringId) ∧
          ∀ d occasion text c, Uuid.ofText? text = some o.id →
            book d occasion text c db = bookWith d occasion o.id c registry db) ∧
      ∀ (s : Settings) (occasion : Occasion) (format : Format) (text lastName email : String)
        (level : Option Level) (guest : Bool),
        let attempts := max 1 s.desk.rule.maxAttempts.toNat
        let c := customer occasion.now firstName lastName email level guest
        let drawn := o.drawn firstName occasion.generator
        Passes s.desk.strategy db.tables text o c →
        (∃ n < attempts, db.tables.bookings.get? (drawn n) = none) →
        ∃ n < attempts, db.tables.bookings.get? (drawn n) = none ∧
          (∀ m < n, db.tables.bookings.get? (drawn m) ≠ none) ∧
          ∃ t', (Command.book text firstName lastName email level guest).run s occasion format db =
              (.done [success s!"Booked {drawn n} ({c.kind})"], { db with tables := t' }) ∧
            db.tables.OneMore t' o ⟨drawn n, o.id, firstName, occasion.now⟩) := by
  refine ⟨?_, ?_, fun hdb ht hrounded => ⟨?_, ?_, ?_⟩⟩
  · intro loaded hloaded b hb suffix hreference
    rw [Database.listBookingsUnder_ok hloaded]
    exact mem_loaded hb hreference
  · intro registry hregistry ho b hb suffix hreference
    rw [of_storedReferences ho hregistry]
    exact get?_seeds_ne_none (mem_loaded hb hreference)
  · have hload : (Database.listBookingsUnder (lead (some o.name))).Meets
        (fun x t' => (∃ loaded, x = .ok loaded) ∧ t' = db.tables) db.tables :=
      meets_read ⟨⟨_, rfl⟩, rfl⟩
    obtain ⟨x, t', hs, ⟨loaded, rfl⟩, rfl⟩ := hload db hdb rfl
    exact ⟨loaded, hs⟩
  · intro ho
    have hload : (storedReferences o.id).Meets
        (fun x t' => x = .ok (seeds (db.tables.bookingsUnder (lead (some o.name)))) ∧ t' = db.tables)
        db.tables := meets_seeds ho ⟨rfl, rfl⟩
    obtain ⟨x, t', hs, rfl, rfl⟩ := hload db hdb rfl
    exact ⟨_, hs, get?_seeds ht o (some firstName), fun d occasion text c hid => book_eq hid hs⟩
  · intro s occasion format text lastName email level guest attempts c drawn hc hsome
    obtain ⟨n, hn, hnew, hbefore⟩ := exists_first hsome
    have hname : c.holder.firstName = firstName := firstName_customer _ _ _ _ _ _
    have hbook := meets_book (n := n) (d := s.desk) (c := c) occasion ht hrounded hc hn
    rw [hname] at hbook
    obtain ⟨x, t', hs, rfl, hmore⟩ := hbook hnew hbefore db hdb rfl
    refine ⟨n, hn, hnew, hbefore, t', ?_, hmore⟩
    have hsession : (Command.book text firstName lastName email level guest).session s occasion format db = _ := hs
    unfold Command.run
    rw [hsession]
    rfl

namespace Homonym

/-- The trip that Ann books. -/
def trip : Offering := Offering.trip ⟨1⟩ ⟨0, 0⟩ "Reef" 2 none

/-- Another trip, whose references start alike. -/
def other : Offering := { Offering.trip ⟨2⟩ ⟨0, 0⟩ "Re ef" 2 none with bookings := 1 }

/-- The booking of the other trip, under the first reference that is drawn for Ann. -/
def record : Booking := ⟨"REEF_ANN_100", ⟨2⟩, "Ann", ⟨0, 0⟩⟩

def database : Database := { tables := ((Tables.empty.put trip).put other).add record }

theorem sound_tables : database.tables.Sound :=
  ((Tables.sound_empty.put (o := trip) (by decide)).put (o := other) (by decide)).add (o := other) rfl

theorem rounded_tables : database.tables.Rounded := by
  intro id o ho
  change ((Tables.empty.put trip).put other).offerings.get? id = some o at ho
  rw [Tables.get?_put, Tables.get?_put] at ho
  split at ho
  · cases ho
    rfl
  · split at ho
    · cases ho
      rfl
    · cases ho

/-- Suffixes 100 and 101 are drawn in turn. -/
def occasion : Occasion := ⟨⟨1, 0⟩, ⟨9⟩, .cycling [0, 5000000]⟩

/-- References are to be unique or not. -/
def settings (unique : Bool) : Settings := { booking := { reference := { unique } } }

/-- The reference of the other trip is among those that the command begins with. -/
def Seeded : Prop :=
  ∃ registry, storedReferences trip.id database = (.ok registry, database) ∧
    registry.get? "REEF_ANN_100" = some other.id

/-- What the program says and leaves, when Ann has booked the trip. -/
def Booked (unique : Bool) : Prop :=
  ∃ t, (Command.book "00000000-0000-0000-0000-000000000001" "Ann" "" "" none false).run (settings unique)
      occasion .table database = (.done [success "Booked REEF_ANN_101 (premium)"], { database with tables := t }) ∧
    database.tables.OneMore t trip ⟨"REEF_ANN_101", ⟨1⟩, "Ann", ⟨1, 0⟩⟩

end Homonym

open Homonym in
/-- Ann books under the second reference, unique or not, since the other trip has the first. -/
theorem second_draw_booked : Seeded ∧ Booked true ∧ Booked false := by
  have hseeded : Seeded := by
    obtain ⟨-, hseeds, -⟩ := (seeded_booking_takes_first_unstored database trip "Ann").2.2
      ⟨rfl, rfl, rfl, rfl⟩ sound_tables rounded_tables
    obtain ⟨registry, hloaded, hshown, -⟩ := hseeds (by decide +kernel)
    refine ⟨registry, hloaded, ?_⟩
    have hfirst : reference (some trip.name) (some "Ann") default = "REEF_ANN_100" := by decide +kernel
    rw [← hfirst, hshown, hfirst]
    decide +kernel
  have hbooked : ∀ unique, Booked unique := by
    intro unique
    obtain ⟨-, -, hfirst⟩ := (seeded_booking_takes_first_unstored database trip "Ann").2.2
      ⟨rfl, rfl, rfl, rfl⟩ sound_tables rounded_tables
    have heligible : (Strategy.ordinal.validate none trip).valid = true := by decide +kernel
    have hpasses : Passes (settings unique).desk.strategy database.tables
        "00000000-0000-0000-0000-000000000001" trip (customer occasion.now "Ann" "" "" none false) :=
      ⟨by decide +kernel, by decide +kernel, rfl, rfl, heligible⟩
    have hused : ∀ n < 1, database.tables.bookings.get? (trip.drawn "Ann" occasion.generator n) ≠ none := by
      decide +kernel
    have hfresh : database.tables.bookings.get? (trip.drawn "Ann" occasion.generator 1) = none := by decide +kernel
    have hattempts : 1 < max 1 (16 : UInt32).toNat := by decide
    obtain ⟨n, -, hnew, hbefore, hrun⟩ := hfirst (settings unique) occasion .table _ "" "" none false hpasses
      ⟨1, hattempts, hfresh⟩
    obtain rfl : n = 1 := first_unique hnew hbefore hfresh hused
    have hsecond : trip.drawn "Ann" occasion.generator 1 = "REEF_ANN_101" := by decide +kernel
    rw [hsecond] at hrun
    exact hrun
  exact ⟨hseeded, hbooked true, hbooked false⟩

end Console

end DiveSchool
