import DiveSchool.Console.Program
import DiveSchool.Proofs.Proposals
import DiveSchool.Proofs.Relational

/-!
# `DiveSchool.Proofs.Commands` — what a command does to the tables

On a database that nothing disturbs, a command with its arguments, settings and random draws comes to one of
few things: `Command.Effect` lists them. Everything a sequence of commands preserves, and everything a
failed command leaves alone, is read off that list.

## Contents
- **Catalogue.** `Offering.Listed`, what an offering in the catalogue keeps to beyond its counter.
- **Effects.** `Command.freed?` and `Command.voided?`, the marks of the two outcomes that part counters
  from records, and `Command.Effect`.
- **Offerings, bookings, releases.** One lemma for each command.
- **Program.** `run_effect`: a run of the program changes nothing or has the effect of its command.
-/

namespace DiveSchool

/-! ## Catalogue -/

/-- What the catalogue asks of an offering whatever its counter. -/
structure Offering.Listed (o : Offering) : Prop where
  /-- A trip has few places. -/
  trip : o.kind = .trip → o.capacity ≤ 50
  /-- The name shows. -/
  named : ∃ c ∈ o.name.toList, Text.isBlank c = false

namespace Offering

variable {o : Offering}

/-- Nothing else of an offering matters. -/
theorem Listed.same {o' : Offering} (ho : o.Listed) (hkind : o'.kind = o.kind)
    (hcapacity : o'.capacity = o.capacity) (hname : o'.name = o.name) : o'.Listed where
  trip h := hcapacity ▸ ho.trip (hkind ▸ h)
  named := hname ▸ ho.named

theorem Listed.resized {o' : Offering} (ho : o.Listed) (hcheck : o.checkCapacity o'.capacity = .ok ())
    (hkind : o'.kind = o.kind) (hname : o'.name = o.name) : o'.Listed where
  trip h := (checkCapacity_eq_ok_iff.mp hcheck).2.1 (hkind ▸ h)
  named := hname ▸ ho.named

end Offering

/-- **A proposal** that passes the checks gives an offering that the catalogue may list. -/
theorem Proposal.of_toOffering_eq_ok {p : Proposal} {id : OfferingId} {now : Timestamp} {o : Offering}
    (h : p.toOffering id now = .ok o) :
    o.id = id ∧ o.bookings = 0 ∧ o.WithinCapacity ∧ o.Listed := by
  obtain ⟨hp, rfl⟩ := toOffering_eq_ok_iff.mp h
  exact ⟨rfl, rfl, withinCapacity_created hp, ⟨hp.trip, Text.exists_not_isBlank_trim hp.named⟩⟩

/-! ## The desk on sound tables -/

/-- What booking a spot and storing the booking comes to. -/
inductive BookingEffect (now : Timestamp) (t : Tables) (id : OfferingId) :
    Except BookingError Booking → Tables → Prop
  | refused {e : BookingError} : BookingEffect now t id (.error e) t
  | booked {o : Offering} {b : Booking} (ho : t.offerings.get? id = some o) (hfree : o.isFull = false)
      (hb : b.offeringId = id) (hnew : t.bookings.get? b.reference = none) :
      BookingEffect now t id (.ok b) ((t.put (o.taken now).stored).add b)
  | undone {o : Offering} {cause : Failure} (ho : t.offerings.get? id = some o) (hfree : o.isFull = false) :
      BookingEffect now t id (.error (.infrastructure cause))
        ((t.put (o.taken now).stored).put ((o.taken now).stored.vacated now).stored)

/-- What cancelling a stored booking comes to. -/
inductive CancellationEffect (now : Timestamp) (t : Tables) (reference : String) :
    Except ReleaseError Snapshot → Tables → Prop
  | unknown {message : String} (hb : t.bookings.get? reference = none) :
      CancellationEffect now t reference (.error (.notFound message)) t
  | freed {o : Offering} {b : Booking} {s : Snapshot} (hb : t.bookings.get? reference = some b)
      (ho : t.offerings.get? b.offeringId = some o) (hbooked : 0 < o.bookings.toInt) :
      CancellationEffect now t reference (.ok s) ((t.drop reference).put (o.vacated now).stored)
  | voided {o : Offering} {b : Booking} (hb : t.bookings.get? reference = some b)
      (ho : t.offerings.get? b.offeringId = some o) (hempty : o.bookings.toInt = 0) :
      CancellationEffect now t reference (.error .nothingToRelease) (t.drop reference)

namespace Desk

open Procedure

variable {t : Tables} {now : Timestamp} {id : OfferingId}

/-- A spot that was taken a moment ago is there to be freed. -/
theorem released_of_taken {o : Offering} (ht : t.Sound) (ho : t.offerings.get? id = some o)
    (hfree : o.isFull = false) {x : Except Failure Freeing}
    (hx : (t.put (o.taken now).stored).Answers now (.release id) x) :
    x = .ok (.released ((o.taken now).stored.vacated now).stored) := by
  have hrow : (t.put (o.taken now).stored).offerings.get? id = some (o.taken now).stored :=
    ht.get?_put_taken ho
  have hbooked : 0 < (o.taken now).stored.bookings.toInt := ht.booked_taken ho hfree
  cases hx with
  | nothingToRelease h =>
      rw [hrow] at h
      cases h
  | empty h hempty =>
      rw [hrow] at h
      cases h
      omega
  | released h _ =>
      rw [hrow] at h
      cases h
      rfl

/-- **A recorded booking** changes the counter and the records together, or neither for long. -/
theorem bookRecorded_effect (d : Desk) (now : Timestamp) (t : Tables) (id : OfferingId) (holder : Holder) :
    (d.bookRecorded now id holder).Follows (t.protocol now) (fun t' x => BookingEffect now t id x t') t := by
  have hP := Tables.protocol_ledgerOnly now t
  refine follows_bind.mpr (follows_reserve hP.log trivial (fun _ _ _ _ => .refused) ?_)
  rintro x ⟨ht, -⟩ -
  refine ⟨trivial, ?_⟩
  rintro y ⟨-, hy⟩
  cases hy with
  | reserved ho _ hfree =>
      -- while references are drawn and found in use, the spot is booked and nothing else has changed
      refine follows_storeUnderFresh hP (· = t.put (_ : Offering)) rfl (fun _ _ _ => trivial) ?_ ?_ ?_
      · rintro _ reference rfl ⟨-, hstored⟩
        cases hstored with
        | stored hnew _ => exact .booked ho hfree rfl hnew
      · rintro _ reference (cause | (_ | _)) rfl _ hx
        · rfl
        · rfl
        · exact absurd rfl hx
      · rintro _ cause rfl
        refine ⟨trivial, ?_⟩
        rintro x ⟨-, hx⟩
        rw [released_of_taken ht ho hfree hx]
        exact .undone ho hfree
  | _ => exact .refused

/-- **A cancellation** takes the record out, and frees a spot if one is booked. -/
theorem cancelRecorded_effect (now : Timestamp) (t : Tables) (reference : String) :
    (cancelRecorded reference).Follows (t.protocol now)
      (fun t' x => CancellationEffect now t reference x t') t := by
  have hP := Tables.protocol_ledgerOnly now t
  refine follows_cancelRecorded hP trivial ?_ ?_ ?_
  · rintro cause ⟨-, hx⟩
    cases Tables.answers_remove_iff.mp hx
  · rintro ⟨-, hx⟩
    have hb : t.bookings.get? reference = none := (Except.ok.inj (Tables.answers_remove_iff.mp hx)).symm
    show CancellationEffect now t reference _ (t.drop reference)
    rw [Tables.drop_of_absent hb]
    exact .unknown hb
  · rintro b ⟨ht, hx⟩
    have hb : t.bookings.get? reference = some b := (Except.ok.inj (Tables.answers_remove_iff.mp hx)).symm
    refine ⟨trivial, ?_⟩
    intro y hy
    cases hy.2 with
    | nothingToRelease h =>
        -- the offering of a booking is never missing
        obtain ⟨o, ho⟩ := ht.offering hb
        cases ho.symm.trans h
    | empty ho hempty => exact .voided hb ho hempty
    | released ho hbooked => exact .freed hb ho hbooked

end Desk

/-! ## Effects -/

namespace Console

open Session

/-- What cancelling says when the record is gone and no spot was booked. -/
def nothingFreed (reference : String) : String :=
  warning s!"Booking {reference} removed; the offering had no bookings to release"

theorem success_ne_warning (a b : String) : success a ≠ warning b := by
  intro h
  have hmark : "✓ ".toList = "⚠ ".toList := by
    have hlist := congrArg String.toList h
    rw [success, warning, String.toList_append, String.toList_append] at hlist
    exact List.append_inj_left hlist (by decide +kernel)
  exact absurd hmark (by decide +kernel)

namespace Command

/-- The offering of which a release has freed a spot. -/
def freed? (o : Outcome) : Command → Option OfferingId
  | release id =>
    if o.code = 0 ∧ o.output.head? = some (success "Spot released") then Uuid.ofText? id else none
  | _ => none

/-- The offering whose booking a cancellation has removed without freeing a spot. -/
def voided? (t : Tables) (o : Outcome) : Command → Option OfferingId
  | cancel reference =>
    if o.code = 0 ∧ o.output = [nothingFreed reference] then
      (t.bookings.get? reference).map Booking.offeringId
    else none
  | _ => none

/-- A release that ends in a warning has freed nothing. -/
theorem freed?_of_warning (text line : String) : (release text).freed? (.done [warning line]) = none := by
  have hhead : (Outcome.done [warning line]).output.head? ≠ some (success "Spot released") :=
    fun h => success_ne_warning _ _ (Option.some.inj h).symm
  simp only [freed?, hhead, and_false, if_false]

@[simp] theorem freed?_failed (c : Command) (output : List String) (text : String) :
    c.freed? (.failed output text) = none := by
  cases c <;> rfl

@[simp] theorem voided?_failed (c : Command) (t : Tables) (output : List String) (text : String) :
    c.voided? t (.failed output text) = none := by
  cases c <;> rfl

@[simp] theorem freed?_released (text : String) (rows : List String) :
    (release text).freed? (.done (success "Spot released" :: rows)) = Uuid.ofText? text := rfl

/-- A cancellation that frees a spot does not end in a warning. -/
@[simp] theorem voided?_of_success (reference line : String) (t : Tables) (rows : List String) :
    (cancel reference).voided? t (.done (success line :: rows)) = none := by
  have hlines : (Outcome.done (success line :: rows)).output ≠ [nothingFreed reference] :=
    fun h => success_ne_warning _ _ (List.cons.inj h).1
  simp only [voided?, hlines, and_false, if_false]

@[simp] theorem voided?_nothingFreed (reference : String) (t : Tables) :
    (cancel reference).voided? t (.done [nothingFreed reference]) =
      (t.bookings.get? reference).map Booking.offeringId := by
  have hdone : (Outcome.done [nothingFreed reference]).code = 0 ∧
      (Outcome.done [nothingFreed reference]).output = [nothingFreed reference] := ⟨rfl, rfl⟩
  simp only [voided?, hdone, and_self, if_true]

/-- The outcome of a command whose session came to a result. -/
def outcome (c : Command) : Except Failure (List String) → Outcome
  | .ok lines => .done (c.opening ++ lines)
  | .error failure => .failed c.opening failure.display

/-- **What a command does** to sound tables, by what it reports. -/
inductive Effect (now : Timestamp) (t : Tables) : Command → Outcome → Tables → Prop
  | failed {c : Command} {output : List String} {text : String} :
      Effect now t c (.failed output text) t
  | shown {c : Command} {lines : List String} (hfreed : c.freed? (.done lines) = none)
      (hvoided : c.voided? t (.done lines) = none) : Effect now t c (.done lines) t
  | created {kind : Kind} {name : String} {capacity : Int32} {required provided : Option Level}
      {draft : Bool} {o : Offering} {lines : List String} (hnew : t.offerings.get? o.id = none)
      (hempty : o.bookings = 0) (hwithin : o.WithinCapacity) (hlisted : o.Listed) :
      Effect now t (.createOffering kind name capacity required provided draft) (.done lines)
        (t.put o.stored)
  | resized {text : String} {capacity : Int32} {id : OfferingId} {o : Offering} {lines : List String}
      (ho : t.offerings.get? id = some o) (hcheck : o.checkCapacity capacity = .ok ()) :
      Effect now t (.setCapacity text capacity) (.done lines)
        (t.put ({ o with capacity, updatedAt := now } : Offering).stored)
  | moved {c : Command} {text : String} {status : Status} {id : OfferingId} {o : Offering}
      {lines : List String} (hc : c = .archive text ∨ c = .publish text)
      (ho : t.offerings.get? id = some o) :
      Effect now t c (.done lines) (t.put ({ o with status, updatedAt := now } : Offering).stored)
  | booked {text firstName lastName email line : String} {level : Option Level} {guest : Bool}
      {o : Offering} {b : Booking} (ho : t.offerings.get? b.offeringId = some o) (hfree : o.isFull = false)
      (hnew : t.bookings.get? b.reference = none) :
      Effect now t (.book text firstName lastName email level guest) (.done [success line])
        ((t.put (o.taken now).stored).add b)
  | undone {text firstName lastName email error : String} {level : Option Level} {guest : Bool}
      {id : OfferingId} {o : Offering} (hid : Uuid.ofText? text = some id)
      (ho : t.offerings.get? id = some o) (hfree : o.isFull = false) :
      Effect now t (.book text firstName lastName email level guest) (.failed [] error)
        ((t.put (o.taken now).stored).put ((o.taken now).stored.vacated now).stored)
  | released {text : String} {rows : List String} {id : OfferingId} {o : Offering}
      (hid : Uuid.ofText? text = some id) (ho : t.offerings.get? id = some o)
      (hbooked : 0 < o.bookings.toInt) :
      Effect now t (.release text) (.done (success "Spot released" :: rows))
        (t.put (o.vacated now).stored)
  | cancelled {reference line : String} {rows : List String} {b : Booking} {o : Offering}
      (hb : t.bookings.get? reference = some b) (ho : t.offerings.get? b.offeringId = some o)
      (hbooked : 0 < o.bookings.toInt) :
      Effect now t (.cancel reference) (.done (success line :: rows))
        ((t.drop reference).put (o.vacated now).stored)
  | voided {reference : String} {b : Booking} {o : Offering} (hb : t.bookings.get? reference = some b)
      (ho : t.offerings.get? b.offeringId = some o) (hempty : o.bookings.toInt = 0) :
      Effect now t (.cancel reference) (.done [nothingFreed reference]) (t.drop reference)

/-- The session of a command has one of the effects of the command. -/
def Keeps (c : Command) (now : Timestamp) (t : Tables) (s : Session (List String)) : Prop :=
  s.Meets (fun x t' => c.Effect now t (c.outcome x) t') t

end Command

open Command

variable {t : Tables} {occasion : Occasion} {now : Timestamp} {format : Format}

/-- An id that cannot be read ends a command before it has done anything. -/
theorem meets_readId {Q : Except Failure (List String) → Tables → Prop} {text : String}
    {f : OfferingId → Session (List String)} (hbad : ∀ e, Q (.error e) t)
    (h : ∀ id, Uuid.ofText? text = some id → (f id).Meets Q t) :
    (liftM (readId text) >>= f : Session (List String)).Meets Q t := by
  refine meets_bind (meets_lift ?_)
  unfold readId
  cases hid : Uuid.ofText? text with
  | none => exact hbad _
  | some id => exact h id hid

/-! ## Offerings -/

theorem keeps_createOffering (freshId : OfferingId) (kind : Kind) (name : String)
    (capacity : Int32) (required provided : Option Level) (draft : Bool) :
    (Command.createOffering kind name capacity required provided draft).Keeps now t
      (createOffering now freshId
        ⟨kind, name, capacity, required, provided, if draft then .draft else .published⟩) := by
  refine meets_bind (meets_lift ?_)
  cases hoffering : Proposal.toOffering
      ⟨kind, name, capacity, required, provided, if draft then .draft else .published⟩ freshId now with
  | error e => exact .failed
  | ok o =>
      obtain ⟨_, hempty, hwithin, hlisted⟩ := Proposal.of_toOffering_eq_ok hoffering
      refine meets_bind (Database.meets_createOffering hwithin (fun _ _ => .failed) ?_)
      intro hnew
      exact meets_pure (.created hnew hempty hwithin hlisted)

theorem keeps_showOffering (text : String) :
    (Command.showOffering text).Keeps now t (showOffering format text) := by
  refine meets_readId (fun _ => .failed) fun id _ => ?_
  refine meets_bind (Database.meets_findOffering ?_)
  refine meets_bind (meets_lift ?_)
  cases existing id (t.offerings.get? id) with
  | error e => exact .failed
  | ok o => exact meets_pure (.shown rfl rfl)

theorem keeps_setCapacity (ht : t.Sound) (text : String) (capacity : Int32) :
    (Command.setCapacity text capacity).Keeps now t (setCapacity now text capacity) := by
  refine meets_readId (fun _ => .failed) fun id _ => ?_
  refine meets_bind (meets_lift ?_)
  cases CapacityChange.check ⟨capacity⟩ with
  | error e => exact .failed
  | ok _ =>
      refine meets_bind (Database.meets_setCapacity ht ?_ (fun _ _ _ _ => .failed) ?_)
      · intro _
        exact meets_bind (meets_lift .failed)
      · intro o ho hcheck
        exact meets_bind (meets_lift (meets_pure (.resized ho hcheck)))

theorem keeps_setStatus (ht : t.Sound) {c : Command} {text : String} (status : Status)
    (hc : c = .archive text ∨ c = .publish text) : c.Keeps now t (setStatus now text status) := by
  refine meets_readId (fun _ => .failed) fun id _ => ?_
  refine meets_bind (Database.meets_setStatus ht ?_ ?_)
  · intro _
    exact meets_bind (meets_lift .failed)
  · intro o ho
    refine meets_bind (meets_lift (meets_pure ?_))
    exact .moved hc ho

/-! ## Bookings and releases -/

theorem meets_storedReferences {Q : Except Failure Registry → Tables → Prop} {id : OfferingId}
    (h : ∀ registry, Q (.ok registry) t) : (storedReferences id).Meets Q t := by
  refine meets_bind (Database.meets_findOffering ?_)
  cases t.offerings.get? id with
  | none => exact meets_pure (h _)
  | some o => exact meets_bind (meets_read (meets_pure (h _)))

theorem keeps_book (ht : t.Sound) (d : Desk) (text firstName lastName email : String)
    (level : Option Level) (guest : Bool) (c : Customer) :
    (Command.book text firstName lastName email level guest).Keeps occasion.now t
      (book d occasion text c) := by
  refine meets_readId (fun _ => .failed) fun id hid => ?_
  refine meets_bind (meets_storedReferences fun registry => ?_)
  unfold bookWith
  refine meets_bind (meets_atDesk ht ?_)
  refine (Desk.bookRecorded_effect d occasion.now t id c.holder).mono ?_
  intro t' x hx _
  cases hx with
  | @refused e =>
      cases e with
      | capacityExceeded => exact meets_pure (.shown rfl rfl)
      | ineligible reason => exact meets_pure (.shown rfl rfl)
      | notBookable status => exact meets_throw .failed
      | notFound message => exact meets_throw .failed
      | infrastructure cause => exact meets_throw .failed
  | booked ho hfree hb hnew => exact meets_pure (.booked (hb ▸ ho) hfree hnew)
  | undone ho hfree => exact meets_throw (.undone hid ho hfree)

theorem keeps_release (ht : t.Sound) (text : String) :
    (Command.release text).Keeps occasion.now t (release occasion format text) := by
  refine meets_readId (fun _ => .failed) fun id hid => ?_
  refine meets_bind (meets_atDesk ht ?_)
  refine Desk.follows_release (Tables.protocol_ledgerOnly occasion.now t).log trivial ?_
  intro x hx _
  cases hx.2 with
  | nothingToRelease _ => exact meets_throw .failed
  | empty _ _ =>
      refine meets_pure (.shown (freed?_of_warning text _) rfl)
  | released ho hbooked => exact meets_pure (.released hid ho hbooked)

theorem keeps_cancel (ht : t.Sound) (reference : String) :
    (Command.cancel reference).Keeps occasion.now t (cancel occasion format reference) := by
  refine meets_bind (meets_atDesk ht ?_)
  refine (Desk.cancelRecorded_effect occasion.now t reference).mono ?_
  intro t' x hx _
  cases hx with
  | unknown _ => exact meets_throw .failed
  | freed hb ho hbooked => exact meets_pure (.cancelled hb ho hbooked)
  | voided hb ho hempty => exact meets_pure (.voided hb ho hempty)

theorem keeps_availability (ht : t.Sound) (text : String) :
    (Command.availability text).Keeps occasion.now t (availability occasion format text) := by
  refine meets_readId (fun _ => .failed) fun id _ => ?_
  refine meets_bind (meets_atDesk ht ?_)
  refine Desk.follows_availability trivial ?_
  intro x hx _
  refine meets_bind (meets_lift ?_)
  rcases x with cause | (_ | o)
  · exact .failed
  · exact .failed
  · exact meets_pure (.shown rfl rfl)

theorem keeps_listBookings (text : String) :
    (Command.listBookings text).Keeps now t (listBookings format text) := by
  refine meets_readId (fun _ => .failed) fun id _ => ?_
  exact meets_bind (meets_read (meets_pure (.shown rfl rfl)))

/-! ## Program -/

/-- A database that has its tables stays as it is when it is migrated. -/
theorem exists_migrate_eq {db : Database} (hdb : db.Ready) : ∃ x, Database.migrate db = (x, db) := by
  have hmake : Database.makeTables db = (.error (Database.migrationRefused .tableExists), db) := by
    simp only [Database.makeTables, hdb.made, if_true]
  cases hrecorded : db.schema.recorded with
  | true => exact ⟨.ok (), by simp [Database.migrate, hdb.opened, hrecorded]⟩
  | false =>
      refine ⟨.error (Database.migrationRefused .tableExists), ?_⟩
      obtain ⟨tables, schema, locked, faults, _⟩ := db
      cases hdb.opened
      have hunrecorded : schema.recorded = false := hrecorded
      simp [Database.migrate, hunrecorded, bind_apply, control_eq hdb, hmake]

theorem meets_migrate {Q : Except Failure Unit → Tables → Prop} (h : ∀ x, Q x t) :
    Database.migrate.Meets Q t := by
  intro db hdb ht
  subst ht
  obtain ⟨x, hx⟩ := exists_migrate_eq hdb
  exact ⟨x, db.tables, hx, h x⟩

/-- **Every command** has one of its effects. -/
theorem keeps_session (ht : t.Sound) (s : Settings) (c : Command) :
    c.Keeps occasion.now t (c.session s occasion format) := by
  cases c with
  | migrate =>
      refine meets_bind (meets_migrate ?_)
      intro x
      cases x with
      | error e => exact .failed
      | ok _ => exact meets_pure (.shown rfl rfl)
  | listLevels => exact meets_pure (.shown rfl rfl)
  | checkLevels holder required provided =>
      refine meets_lift ?_
      cases checkLevels s.desk.strategy format holder required provided with
      | error e => exact .failed
      | ok lines => exact .shown rfl rfl
  | createOffering kind name capacity required provided draft =>
      exact keeps_createOffering _ _ _ _ _ _ _
  | showOffering text => exact keeps_showOffering text
  | listOfferings => exact meets_bind (meets_read (meets_pure (.shown rfl rfl)))
  | setCapacity text capacity => exact keeps_setCapacity ht text capacity
  | archive text => exact keeps_setStatus ht .archived (.inl rfl)
  | publish text => exact keeps_setStatus ht .published (.inr rfl)
  | book text firstName lastName email level guest => exact keeps_book ht _ _ _ _ _ _ _ _
  | release text => exact keeps_release ht text
  | cancel reference => exact keeps_cancel ht reference
  | availability text => exact keeps_availability ht text
  | listBookings text => exact keeps_listBookings text

variable {e : Environment} {db : Database}

/-- Commands that need no database report and do nothing. -/
theorem effect_of_direct {s : Settings} {c : Command} {lines : List String}
    (h : c.direct? s format = some (.ok lines)) : c.Effect now t (.done lines) t := by
  cases c with
  | listLevels => exact .shown rfl rfl
  | checkLevels holder required provided => exact .shown rfl rfl
  | _ => cases h

theorem run_session (ht : db.tables.Sound) (hdb : db.Ready) (s : Settings) (occasion : Occasion)
    (format : Format) (c : Command) :
    ∃ t', (c.run s occasion format db).2 = { db with tables := t' } ∧
      c.Effect occasion.now db.tables (c.run s occasion format db).1 t' := by
  obtain ⟨x, t', hs, heffect⟩ := keeps_session ht s c db hdb rfl
  refine ⟨t', ?_⟩
  unfold Command.run
  rw [hs]
  cases x with
  | error failure => exact ⟨rfl, heffect⟩
  | ok lines => exact ⟨rfl, heffect⟩

/-- An invocation has an effect of its command, whatever becomes of the connection. -/
theorem run_invocation (he : e.database = .ok db) (hdb : db.Ready) (ht : db.tables.Sound) (s : Settings)
    (i : Invocation) :
    ∃ t', (i.run s e).2 = .ok { db with tables := t' } ∧
      i.command.Effect e.occasion.now db.tables (i.run s e).1 t' := by
  unfold Invocation.run
  cases hdirect : i.command.direct? s i.format with
  | some x =>
      refine ⟨db.tables, ?_⟩
      cases x with
      | error failure => exact ⟨he, .failed⟩
      | ok lines => exact ⟨he, effect_of_direct hdirect⟩
  | none =>
      simp only [he]
      by_cases hconnection : s.database.allowsConnection = true
      · obtain ⟨t', hafter, heffect⟩ := run_session ht hdb s e.occasion i.format i.command
        simp only [hconnection, if_true]
        exact ⟨t', congrArg Except.ok hafter, heffect⟩
      · simp only [hconnection]
        exact ⟨db.tables, rfl, .failed⟩

/-- **A run of the program** on a database that nothing disturbs has an effect of its command, or none if
    the arguments name no command. -/
theorem run_effect (he : e.database = .ok db) (hdb : db.Ready) (ht : db.tables.Sound)
    (args : List String) :
    ∃ t', (run args e).2 = .ok { db with tables := t' } ∧
      match Invocation.parse args with
      | .error stop => (run args e).1 = stop.outcome ∧ t' = db.tables
      | .ok i => i.command.Effect e.occasion.now db.tables (run args e).1 t' := by
  unfold run
  cases Invocation.parse args with
  | error stop => exact ⟨db.tables, he, rfl, rfl⟩
  | ok i =>
      dsimp only
      cases Settings.load e.files e.vars i.settingsPath (e.vars.lookup environmentVariable) with
      | error failure => exact ⟨db.tables, he, .failed⟩
      | ok s => exact run_invocation he hdb ht s i

end Console

end DiveSchool
