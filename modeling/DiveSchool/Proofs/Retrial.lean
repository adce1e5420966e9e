import DiveSchool.Proofs.Recording

/-!
# `DiveSchool.Proofs.Retrial` — a cancellation that is tried again frees one spot

A cancellation fails if the record cannot be removed or the spot cannot be freed. It then puts back what it
has taken, so that the next attempt finds what this one has found. So of any number of attempts, one after
another, the first that nothing hinders cancels the booking, and all that come later find it gone.

## Contents
- **Hindrances.** `hindrances`, the failures that a cancellation cannot get over.
- **Cancellations.** `Desk.Cancelling` and `Desk.Withdrawing`: what a cancellation by the record or by the
  registry comes to on the minutes.
- **Attempts.** `Attempt.Restored`, `Books.Frees` and `Attempt.Fruitless`: hindered, successful, and too
  late; `Bookkeeper.Made`, an attempt made on some books and some registry.
- **Many attempts.** `Bookkeeper.Successive` and `retried_cancellation_frees_once`; and
  `hindered_after_success`, an attempt that is too late and fails nevertheless.
-/

namespace DiveSchool

/-! ## Hindrances -/

/-- Why a record could not be removed, or a spot not be freed. -/
def Exchange.hindrance? : Exchange → Option Failure
  | ⟨.remove _, .error cause⟩ => some cause
  | ⟨.release _, .error cause⟩ => some cause
  | _ => none

/-- The failures to remove a record or to free a spot in the course of a trail. -/
def hindrances (es : List Exchange) : List Failure := es.filterMap Exchange.hindrance?

theorem hindrances_minuted (es : List Exchange) :
    hindrances (es.filter Exchange.minuted) = hindrances es := by
  refine Exchange.filterMap_minuted ?_ es
  rintro ⟨r, x⟩ hr
  cases r <;> first | rfl | cases hr

/-! ## Cancellations -/

namespace Desk

open Procedure

section Minutes

variable (kept : Booking → Booking) (fair : Books → (r : Request) → r.Answer → Prop) (reference : String)

/-- What the cancellation of a stored booking comes to, and the minutes afterwards. -/
inductive Cancelling (m : Minutes) : Except ReleaseError Snapshot → Minutes → Prop
  /-- The record could not be removed. -/
  | unremoved {cause : Failure} :
      Cancelling m (.error (.infrastructure cause)) (m.after kept (.remove reference) (.error cause))
  /-- There is no record. -/
  | unknown (h : fair m.books (.remove reference) (.ok none)) :
      Cancelling m (.error (.notFound (Booking.unknown reference)))
        (m.after kept (.remove reference) (.ok none))
  /-- The spot could not be freed, and the record is put back. -/
  | restored {b : Booking} {cause : Failure} {y : Except Failure Bool}
      (hb : fair m.books (.remove reference) (.ok (some b))) :
      Cancelling m (.error (.infrastructure cause))
        (((((m.after kept (.remove reference) (.ok (some b))).forgotten reference).after kept
          (.release b.offeringId) (.error cause)).after kept (.store b) y).entered reference b.offeringId)
  /-- The spot is free, or there was none to be freed. -/
  | freed {b : Booking} {z : Freeing} (hb : fair m.books (.remove reference) (.ok (some b)))
      (hz : fair ((m.after kept (.remove reference) (.ok (some b))).forgotten reference).books
        (.release b.offeringId) (.ok z)) :
      Cancelling m (freed b.offeringId (.ok z))
        (((m.after kept (.remove reference) (.ok (some b))).forgotten reference).after kept
          (.release b.offeringId) (.ok z))

/-- What a cancellation by the registry comes to, and the minutes afterwards. -/
inductive Withdrawing (m : Minutes) : Except ReleaseError Snapshot → Minutes → Prop
  /-- The reference is not entered. -/
  | unknown (h : m.registry.get? reference = none) :
      Withdrawing m (.error (.notFound (Booking.unknown reference))) (m.forgotten reference)
  /-- The spot could not be freed, and the reference is entered again. -/
  | restored {id : OfferingId} {cause : Failure} (h : m.registry.get? reference = some id) :
      Withdrawing m (.error (.infrastructure cause))
        (((m.forgotten reference).after kept (.release id) (.error cause)).entered reference id)
  /-- The spot is free, or there was none to be freed. -/
  | freed {id : OfferingId} {z : Freeing} (h : m.registry.get? reference = some id)
      (hz : fair m.books (.release id) (.ok z)) :
      Withdrawing m (freed id (.ok z)) ((m.forgotten reference).after kept (.release id) (.ok z))

end Minutes

variable {kept : Booking → Booking} {fair : Books → (r : Request) → r.Answer → Prop} {spare : Prop}
  {m : Minutes}

/-- **Cancelling** a stored booking comes to nothing else. -/
theorem follows_cancelling (reference : String) :
    (cancelRecorded reference).Follows (Minutes.protocol kept fair spare)
      (fun m' x => Cancelling kept fair reference m x m') m := by
  refine cancelRecorded_rule Minutes.protocol_ignores_log trivial ?_ ?_ ?_
  · intro cause _
    exact .unremoved
  · rintro ⟨h, -⟩
    exact .unknown h
  · rintro b ⟨hb, -⟩
    refine follows_ask.mpr ⟨trivial, fun _ _ => ⟨trivial, ?_⟩⟩
    rintro (cause | z) ⟨hz, -⟩
    · refine follows_ask.mpr ⟨trivial, fun y _ => ?_⟩
      exact follows_ask.mpr ⟨trivial, fun _ _ => .restored hb⟩
    · exact .freed hb hz

/-- **Cancelling** by the registry comes to nothing else. -/
theorem follows_withdrawing (reference : String) :
    (cancel reference).Follows (Minutes.protocol kept fair spare)
      (fun m' x => Withdrawing kept fair reference m x m') m := by
  refine cancel_rule Minutes.protocol_ignores_log trivial ?_ ?_
  · rintro ⟨-, h, -⟩
    exact .unknown h.symm
  · rintro id ⟨-, h, -⟩
    refine ⟨trivial, ?_⟩
    rintro (cause | z) ⟨hz, -⟩
    · exact follows_ask.mpr ⟨trivial, fun _ _ => .restored h.symm⟩
    · exact .freed h.symm hz

end Desk

/-! ## Attempts -/

namespace Books

variable {b b' : Books} {id : OfferingId} {reference : String}

/-- What it comes to if a spot of an offering is to be freed and nothing hinders that: the counter goes down
    by one unless it is zero. -/
inductive Frees (b : Books) (id : OfferingId) : Except ReleaseError Snapshot → Books → Prop
  | freed {o o' : Offering} (h : b.offering? id = some o) (hbooked : 0 < o.bookings.toInt)
      (ho : o.Counted o' (-1)) : Frees b id (.ok o'.snapshot) (b.post id o')
  | empty {o : Offering} (h : b.offering? id = some o) (hempty : o.bookings.toInt = 0) :
      Frees b id (.error .nothingToRelease) b
  | missing (h : b.offering? id = none) :
      Frees b id (.error (.notFound (Offering.unknown id).message)) b

theorem Frees.record?_eq {x : Except ReleaseError Snapshot} (h : b.Frees id x b') :
    b'.record? = b.record? := by
  cases h <;> rfl

/-- What the books allow a request to free a spot to be answered, if it is served. -/
theorem Answers.frees {z : Freeing} (h : b.Answers (.release id) (.ok z)) (kept : Booking → Booking) :
    b.Frees id (Desk.freed id (.ok z)) (b.after kept (.release id) (.ok z)) := by
  cases h with
  | missing h => exact .missing h
  | empty h hempty => exact .empty h hempty
  | released h hbooked ho => exact .freed h hbooked ho

theorem Answers.record?_eq {found : Option Booking} (h : b.Answers (.remove reference) (.ok found)) :
    b.record? reference = found := by
  generalize hx : Except.ok found = x at h
  cases h with
  | unremoved => cases hx
  | removed => exact (Except.ok.inj hx).symm

end Books

/-- What an attempt to cancel came to, with the books and the registry afterwards. -/
structure Attempt where
  trail : List Exchange
  outcome : Except ReleaseError Snapshot
  books : Books
  registry : Registry

namespace Attempt

/-- Whether the record could not be removed or the spot not be freed. -/
def hindered (a : Attempt) : Bool := !(hindrances a.trail).isEmpty

variable {a : Attempt} {reference : String} {id : OfferingId} {b : Books} {g : Registry}

/-- An attempt that was hindered has failed for that reason. The books are as before, and if a spot was to be
    freed the reference stands for its offering; other references are as before. -/
structure Restored (reference : String) (id : OfferingId) (b : Books) (g : Registry) (a : Attempt) :
    Prop where
  failed : ∃ cause, hindrances a.trail = [cause] ∧ a.outcome = .error (.infrastructure cause)
  books_eq : a.books = b
  entry : releases a.trail ≠ [] → a.registry.get? reference = some id
  others : ∀ r, r ≠ reference → a.registry.get? r = g.get? r

/-- An attempt that nothing hinders frees the spot, if there is one, in the books without the booking, and
    takes the reference out; other references are as before. -/
structure Freed (reference : String) (id : OfferingId) (without : Books) (g : Registry) (a : Attempt) :
    Prop where
  frees : without.Frees id a.outcome a.books
  records : a.books.record? = without.record?
  entry : a.registry.get? reference = none
  others : ∀ r, r ≠ reference → a.registry.get? r = g.get? r

/-- An attempt that comes too late changes nothing. It finds nothing, unless it is hindered. -/
structure Fruitless (reference : String) (b : Books) (g : Registry) (a : Attempt) : Prop where
  books_eq : a.books = b
  registry_eq : a.registry = g
  unknown : hindrances a.trail = [] → a.outcome = .error (.notFound (Booking.unknown reference))
  failed : ∀ cause ∈ hindrances a.trail, a.outcome = .error (.infrastructure cause)

theorem freed_of_erase {without : Books} (h : without.Frees id a.outcome a.books)
    (hregistry : a.registry = g.erase reference) : a.Freed reference id without g where
  frees := h
  records := h.record?_eq
  entry := hregistry ▸ Table.get?_erase_self _ _
  others r hne := by rw [hregistry, Table.get?_erase, if_neg hne]

/-- What an attempt has asked the ledger. -/
def asked (a : Attempt) : Attempt := { a with trail := a.trail.filter Exchange.minuted }

theorem hindrances_asked (a : Attempt) : hindrances a.asked.trail = hindrances a.trail :=
  hindrances_minuted a.trail

theorem hindered_asked (a : Attempt) : a.asked.hindered = a.hindered := by
  simp only [hindered, hindrances_asked]

theorem Restored.of_asked (h : a.asked.Restored reference id b g) : a.Restored reference id b g where
  failed := hindrances_asked a ▸ h.failed
  books_eq := h.books_eq
  entry := releases_minuted a.trail ▸ h.entry
  others := h.others

theorem Freed.of_others {without : Books} {g' : Registry} (h : a.Freed reference id without g')
    (hothers : ∀ r, r ≠ reference → g'.get? r = g.get? r) : a.Freed reference id without g :=
  ⟨h.frees, h.records, h.entry, fun r hne => (h.others r hne).trans (hothers r hne)⟩

theorem Freed.of_asked {without : Books} (h : a.asked.Freed reference id without g) :
    a.Freed reference id without g :=
  ⟨h.frees, h.records, h.entry, h.others⟩

theorem Fruitless.of_asked (h : a.asked.Fruitless reference b g) : a.Fruitless reference b g where
  books_eq := h.books_eq
  registry_eq := h.registry_eq
  unknown := hindrances_asked a ▸ h.unknown
  failed := hindrances_asked a ▸ h.failed

end Attempt

/-- What the minutes say of an attempt. -/
def Minutes.attempt (m : Minutes) (x : Except ReleaseError Snapshot) : Attempt :=
  ⟨m.trail, x, m.books, m.registry⟩

namespace Desk

variable {kept : Booking → Booking} {reference : String} {b : Books} {g : Registry}
  {x : Except ReleaseError Snapshot} {m' : Minutes}

/-- **One cancellation** of a booking that is stored. -/
theorem Cancelling.recorded (h : Cancelling kept Books.Answers reference ⟨b, g, []⟩ x m') {r : Booking}
    (hr : b.record? reference = some r) (hkept : kept r = r) (hkey : r.reference = reference) :
    ((m'.attempt x).hindered = true → (∀ t ∈ tries m'.trail, t.2 = .ok true) →
      (m'.attempt x).Restored reference r.offeringId b g) ∧
    ((m'.attempt x).hindered = false →
      (m'.attempt x).Freed reference r.offeringId (b.strike reference) g) := by
  cases h with
  | @unremoved cause =>
      refine ⟨fun _ _ => ⟨⟨cause, rfl, rfl⟩, rfl, fun h => absurd rfl h, fun _ _ => rfl⟩, fun h => ?_⟩
      cases h
  | unknown hnone => cases hr.symm.trans hnone.record?_eq
  | @restored r' cause y hr' =>
      obtain rfl : r = r' := Option.some.inj (hr.symm.trans hr'.record?_eq)
      refine ⟨fun _ hstored => ⟨⟨cause, rfl, rfl⟩, ?_, fun _ => ?_, fun r' hne => ?_⟩, fun h => ?_⟩
      · -- the record is put back as it was
        obtain rfl : y = .ok true := hstored (r, y) List.mem_cons_self
        show (b.strike reference).record (kept r) = b
        rw [hkept, ← hkey]
        exact Books.record_strike (hkey ▸ hr)
      · exact Table.get?_insert_self _ _ _
      · show ((g.erase reference).insert reference r.offeringId).get? r' = g.get? r'
        rw [Table.get?_insert_of_ne _ _ hne, Table.get?_erase, if_neg hne]
      · cases h
  | @freed r' z hr' hz =>
      obtain rfl : r = r' := Option.some.inj (hr.symm.trans hr'.record?_eq)
      refine ⟨fun h => ?_, fun _ => Attempt.freed_of_erase (Books.Answers.frees hz kept) rfl⟩
      cases h

/-- **One cancellation** of a booking that is not stored. -/
theorem Cancelling.unrecorded (h : Cancelling kept Books.Answers reference ⟨b, g, []⟩ x m')
    (hnone : b.record? reference = none) : (m'.attempt x).Fruitless reference b g := by
  cases h with
  | @unremoved cause =>
      refine ⟨rfl, rfl, fun h => ?_, fun cause' h => ?_⟩
      · cases h
      · cases List.mem_singleton.mp h
        rfl
  | unknown _ => exact ⟨Books.strike_of_absent hnone, rfl, fun _ => rfl, fun _ h => absurd h List.not_mem_nil⟩
  | restored hr => cases hnone.symm.trans hr.record?_eq
  | freed hr _ => cases hnone.symm.trans hr.record?_eq

/-- **One cancellation** of a reference that is entered. -/
theorem Withdrawing.entered (h : Withdrawing kept Books.Answers reference ⟨b, g, []⟩ x m') {id : OfferingId}
    (hid : g.get? reference = some id) :
    ((m'.attempt x).hindered = true →
      (m'.attempt x).Restored reference id b g ∧ m'.registry.get? reference = some id) ∧
    ((m'.attempt x).hindered = false → (m'.attempt x).Freed reference id b g) := by
  cases h with
  | unknown hnone => cases hid.symm.trans hnone
  | @restored id' cause hid' =>
      obtain rfl : id = id' := Option.some.inj (hid.symm.trans hid')
      have hentry : ((g.erase reference).insert reference id).get? reference = some id :=
        Table.get?_insert_self _ _ _
      refine ⟨fun _ => ⟨⟨⟨cause, rfl, rfl⟩, rfl, fun _ => hentry, fun r' hne => ?_⟩, hentry⟩, fun h => ?_⟩
      · show ((g.erase reference).insert reference id).get? r' = g.get? r'
        rw [Table.get?_insert_of_ne _ _ hne, Table.get?_erase, if_neg hne]
      · cases h
  | @freed id' z hid' hz =>
      obtain rfl : id = id' := Option.some.inj (hid.symm.trans hid')
      refine ⟨fun h => ?_, fun _ => Attempt.freed_of_erase (Books.Answers.frees hz kept) rfl⟩
      cases h

/-- **One cancellation** of a reference that is not entered: the ledger is not even asked. -/
theorem Withdrawing.unentered (h : Withdrawing kept Books.Answers reference ⟨b, g, []⟩ x m')
    (hnone : g.get? reference = none) :
    (m'.attempt x).Fruitless reference b g ∧ (m'.attempt x).hindered = false := by
  cases h with
  | unknown _ =>
      have hsame : g.erase reference = g := Table.erase_of_get?_eq_none hnone
      exact ⟨⟨rfl, hsame, fun _ => rfl, fun _ h => absurd h List.not_mem_nil⟩, rfl⟩
  | restored hid => cases hnone.symm.trans hid
  | freed hid _ => cases hnone.symm.trans hid

end Desk

namespace Bookkeeper

variable {σ : Type} {k : Bookkeeper σ} {p : Procedure (Except ReleaseError Snapshot)} {b : Books}
  {g : Registry} {a : Attempt} {reference : String}

/-- What a procedure comes to in some world. -/
def attempt (k : Bookkeeper σ) (p : Procedure (Except ReleaseError Snapshot)) (w : World σ) : Attempt where
  trail := p.trail k.ledger.serve w
  outcome := (k.ledger.run p w).1
  books := k.books (k.ledger.run p w).2.state
  registry := (k.ledger.run p w).2.registry

/-- An attempt that was made when the books and the registry were like this, whatever the time was and
    whichever failures were to come. -/
inductive Made (k : Bookkeeper σ) (p : Procedure (Except ReleaseError Snapshot)) :
    Books → Registry → Attempt → Prop
  | intro {w : World σ} (hw : k.Fit w.state) : Made k p (k.books w.state) w.registry (k.attempt p w)

/-- **An attempt** to cancel a booking that is stored. -/
theorem Made.recorded (h : k.Made (Desk.cancelRecorded reference) b g a) {r : Booking}
    (hr : b.record? reference = some r) :
    (a.hindered = true → (∀ t ∈ tries a.trail, t.2 = .ok true) → a.Restored reference r.offeringId b g) ∧
    (a.hindered = false → a.Freed reference r.offeringId (b.strike reference) g) := by
  obtain ⟨hw⟩ := h
  have hcancelling := k.keeps_minutes hw (Desk.follows_cancelling reference)
  obtain ⟨hhindered, hunhindered⟩ := hcancelling.recorded hr (k.kept_record hw hr) (k.keyed hw hr)
  refine ⟨fun ha hstored => (hhindered ?_ ?_).of_asked, fun ha => (hunhindered ?_).of_asked⟩
  · exact (Attempt.hindered_asked _).trans ha
  · exact (tries_minuted _).symm ▸ hstored
  · exact (Attempt.hindered_asked _).trans ha

/-- **An attempt** to cancel a booking that is not stored. -/
theorem Made.unrecorded (h : k.Made (Desk.cancelRecorded reference) b g a)
    (hnone : b.record? reference = none) : a.Fruitless reference b g := by
  obtain ⟨hw⟩ := h
  have hcancelling := k.keeps_minutes hw (Desk.follows_cancelling reference)
  exact (hcancelling.unrecorded hnone).of_asked

/-- **An attempt** to cancel a reference that is entered. -/
theorem Made.entered (h : k.Made (Desk.cancel reference) b g a) {id : OfferingId}
    (hid : g.get? reference = some id) :
    (a.hindered = true → a.Restored reference id b g ∧ a.registry.get? reference = some id) ∧
    (a.hindered = false → a.Freed reference id b g) := by
  obtain ⟨hw⟩ := h
  have hwithdrawing := k.keeps_minutes hw (Desk.follows_withdrawing reference)
  obtain ⟨hhindered, hunhindered⟩ := hwithdrawing.entered hid
  refine ⟨fun ha => ?_, fun ha => (hunhindered ((Attempt.hindered_asked _).trans ha)).of_asked⟩
  obtain ⟨hrestored, hentry⟩ := hhindered ((Attempt.hindered_asked _).trans ha)
  exact ⟨hrestored.of_asked, hentry⟩

/-- **An attempt** to cancel a reference that is not entered. -/
theorem Made.unentered (h : k.Made (Desk.cancel reference) b g a) (hnone : g.get? reference = none) :
    a.Fruitless reference b g ∧ a.hindered = false := by
  obtain ⟨hw⟩ := h
  have hwithdrawing := k.keeps_minutes hw (Desk.follows_withdrawing reference)
  obtain ⟨hfruitless, hunhindered⟩ := hwithdrawing.unentered hnone
  exact ⟨hfruitless.of_asked, (Attempt.hindered_asked _).symm.trans hunhindered⟩

/-! ## Many attempts -/

/-- Attempts one after another, from some books and some registry on. Between two of them time may pass and
    failures may begin or end, but nobody changes the books or the registry. -/
inductive Successive (k : Bookkeeper σ) (p : Procedure (Except ReleaseError Snapshot)) :
    Books → Registry → List Attempt → Prop
  | nil {b : Books} {g : Registry} : Successive k p b g []
  | cons {b : Books} {g : Registry} {a : Attempt} {as : List Attempt} (ha : k.Made p b g a)
      (has : Successive k p a.books a.registry as) : Successive k p b g (a :: as)

variable {as rest : List Attempt}

/-- What an attempt gets from an invariant and passes on, all attempts get. -/
theorem Successive.along {I : Books → Registry → Prop} {C G : Attempt → Prop}
    (hstep : ∀ b g a, k.Made p b g a → I b g → C a → G a ∧ I a.books a.registry)
    (h : k.Successive p b g (as ++ rest)) (hI : I b g) (hC : ∀ a ∈ as, C a) :
    (∀ a ∈ as, G a) ∧ ∃ b' g', I b' g' ∧ k.Successive p b' g' rest := by
  induction as generalizing b g with
  | nil => exact ⟨fun _ ha => absurd ha List.not_mem_nil, b, g, hI, h⟩
  | cons a as ih =>
      rw [List.cons_append] at h
      cases h with
      | cons ha has =>
          obtain ⟨hfirst, hothers⟩ := List.forall_mem_cons.mp hC
          obtain ⟨hgood, hafter⟩ := hstep b g a ha hI hfirst
          obtain ⟨hall, hend⟩ := ih has hafter hothers
          exact ⟨List.forall_mem_cons.mpr ⟨hgood, hall⟩, hend⟩

/-- Attempts at some moments, with nothing in between. -/
def attempts (k : Bookkeeper σ) (p : Procedure (Except ReleaseError Snapshot)) :
    List Timestamp → World σ → List Attempt
  | [], _ => []
  | now :: moments, w =>
    k.attempt p { w with now } :: attempts k p moments (k.ledger.run p { w with now }).2

theorem successive_attempts (k : Bookkeeper σ) (p : Procedure (Except ReleaseError Snapshot))
    (moments : List Timestamp) {w : World σ} (hw : k.Fit w.state) :
    k.Successive p (k.books w.state) w.registry (k.attempts p moments w) := by
  induction moments generalizing w with
  | nil => exact .nil
  | cons now moments ih =>
      have hnow : k.Fit ({ w with now } : World σ).state := hw
      exact .cons (.intro hnow) (ih (k.fit_run p hnow))

end Bookkeeper

/-- **Freed once.** The attempts in the beginning were hindered and have put everything back. The first of
    the rest, if nothing hinders it, frees the spot in the books without the booking, and all that come later
    are fruitless. -/
structure FreedOnce (reference : String) (id : OfferingId) (b without : Books) (g : Registry)
    (early rest : List Attempt) : Prop where
  restored : ∀ a ∈ early, a.Restored reference id b g
  freed : ∀ a later, rest = a :: later → a.hindered = false → a.Freed reference id without g
  fruitless : ∀ a later, rest = a :: later → a.hindered = false →
    ∀ a' ∈ later, a'.Fruitless reference a.books a.registry

namespace Bookkeeper

variable {σ : Type} {k : Bookkeeper σ} {p : Procedure (Except ReleaseError Snapshot)} {b : Books}
  {g : Registry} {as rest : List Attempt} {reference : String} {id : OfferingId}

/-- **Hindered attempts** leave the next one what the first one found: the books, the registry beside the
    reference, and what else was true of it. -/
theorem Successive.restored {Held : Registry → Prop} {C : Attempt → Prop}
    (hheld : ∀ g a, k.Made p b g a → Held g → C a → a.Restored reference id b g ∧ Held a.registry)
    (h : k.Successive p b g (as ++ rest)) (hg : Held g) (hC : ∀ a ∈ as, C a) :
    (∀ a ∈ as, a.Restored reference id b g) ∧
      ∃ g', (∀ r, r ≠ reference → g'.get? r = g.get? r) ∧ Held g' ∧ k.Successive p b g' rest := by
  have hstep : ∀ b₁ g₁ a, k.Made p b₁ g₁ a →
      (b₁ = b ∧ (∀ r, r ≠ reference → g₁.get? r = g.get? r) ∧ Held g₁) → C a →
      a.Restored reference id b g ∧ a.books = b ∧
        (∀ r, r ≠ reference → a.registry.get? r = g.get? r) ∧ Held a.registry := by
    rintro b₁ g₁ a ha ⟨rfl, hothers, hheld₁⟩ hCa
    obtain ⟨hrestored, hheld₂⟩ := hheld g₁ a ha hheld₁ hCa
    have hsame : ∀ r, r ≠ reference → a.registry.get? r = g.get? r :=
      fun r hr => (hrestored.others r hr).trans (hothers r hr)
    exact ⟨⟨hrestored.failed, hrestored.books_eq, hrestored.entry, hsame⟩, hrestored.books_eq, hsame, hheld₂⟩
  obtain ⟨hall, b', g', ⟨rfl, hothers, hheld'⟩, hrest⟩ := h.along hstep ⟨rfl, fun _ _ => rfl, hg⟩ hC
  exact ⟨hall, g', hothers, hheld', hrest⟩

/-- **Attempts that come too late** change nothing for each other. -/
theorem Successive.fruitless {Late : Attempt → Prop}
    (hlate : ∀ a, k.Made p b g a → a.Fruitless reference b g ∧ Late a)
    (h : k.Successive p b g as) : ∀ a ∈ as, a.Fruitless reference b g ∧ Late a := by
  have hstep : ∀ b₁ g₁ a, k.Made p b₁ g₁ a → (b₁ = b ∧ g₁ = g) → True →
      (a.Fruitless reference b g ∧ Late a) ∧ a.books = b ∧ a.registry = g := by
    rintro b₁ g₁ a ha ⟨rfl, rfl⟩ -
    obtain ⟨hfruitless, hlate⟩ := hlate a ha
    exact ⟨⟨hfruitless, hlate⟩, hfruitless.books_eq, hfruitless.registry_eq⟩
  rw [← List.append_nil as] at h
  exact (h.along hstep ⟨rfl, rfl⟩ fun _ _ => trivial).1

/-- **Freed once**, if single attempts do as they should: as long as something holds of the registry they
    restore what they find, then one frees the spot, and without the record and the entry they are
    fruitless. -/
theorem Successive.freedOnce {without : Books} {Held : Registry → Prop} {C Late : Attempt → Prop}
    (hheld : ∀ g a, k.Made p b g a → Held g → C a → a.Restored reference id b g ∧ Held a.registry)
    (hfirst : ∀ g a, k.Made p b g a → Held g → a.hindered = false → a.Freed reference id without g)
    (hlate : ∀ b' g' a, k.Made p b' g' a → b'.record? = without.record? → g'.get? reference = none →
      a.Fruitless reference b' g' ∧ Late a)
    (h : k.Successive p b g (as ++ rest)) (hg : Held g) (hC : ∀ a ∈ as, C a) :
    FreedOnce reference id b without g as rest ∧
      ∀ a later, rest = a :: later → a.hindered = false → ∀ a' ∈ later, Late a' := by
  obtain ⟨hrestored, g', hothers, hheld', hrest⟩ := h.restored hheld hg hC
  have hdone : ∀ a later, rest = a :: later → a.hindered = false → a.Freed reference id without g ∧
      ∀ a' ∈ later, a'.Fruitless reference a.books a.registry ∧ Late a' := by
    rintro a later rfl hunhindered
    cases hrest with
    | cons ha hlater =>
        have hfreed := hfirst g' a ha hheld' hunhindered
        have hfruitless := hlater.fruitless fun a' ha' => hlate _ _ a' ha' hfreed.records hfreed.entry
        exact ⟨hfreed.of_others hothers, hfruitless⟩
  refine ⟨⟨hrestored, ?_, ?_⟩, ?_⟩
  · intro a later hrest ha
    exact (hdone a later hrest ha).1
  · intro a later hrest ha a' ha'
    exact ((hdone a later hrest ha).2 a' ha').1
  · intro a later hrest ha a' ha'
    exact ((hdone a later hrest ha).2 a' ha').2

end Bookkeeper

/-- **A cancellation that is tried again** cancels once, whichever attempts are hindered, as long as records
    that are put back can be stored. Attempts that come later find nothing; if the record is asked for and
    that fails, they fail. -/
theorem retried_cancellation_frees_once {σ : Type} (k : Bookkeeper σ) (reference : String) (b : Books)
    (g : Registry) (early rest : List Attempt) :
    (∀ r, b.record? reference = some r →
      k.Successive (Desk.cancelRecorded reference) b g (early ++ rest) →
      (∀ a ∈ early, a.hindered = true ∧ ∀ t ∈ tries a.trail, t.2 = .ok true) →
      FreedOnce reference r.offeringId b (b.strike reference) g early rest) ∧
    (∀ id, g.get? reference = some id →
      k.Successive (Desk.cancel reference) b g (early ++ rest) → (∀ a ∈ early, a.hindered = true) →
      FreedOnce reference id b b g early rest ∧
        ∀ a later, rest = a :: later → a.hindered = false → ∀ a' ∈ later, a'.hindered = false) := by
  constructor
  · intro r hr hsuccessive hearly
    have hheld : ∀ g a, k.Made (Desk.cancelRecorded reference) b g a → True →
        (a.hindered = true ∧ ∀ t ∈ tries a.trail, t.2 = .ok true) →
        a.Restored reference r.offeringId b g ∧ True :=
      fun g a ha _ hCa => ⟨(ha.recorded hr).1 hCa.1 hCa.2, trivial⟩
    have hlate : ∀ b' g' a, k.Made (Desk.cancelRecorded reference) b' g' a →
        b'.record? = (b.strike reference).record? → g'.get? reference = none →
        a.Fruitless reference b' g' ∧ True := by
      intro b' g' a ha hrecords _
      have hnone : b'.record? reference = none := hrecords ▸ Books.record?_strike_self b reference
      exact ⟨ha.unrecorded hnone, trivial⟩
    exact (hsuccessive.freedOnce hheld (fun g a ha _ h => (ha.recorded hr).2 h) hlate trivial hearly).1
  · intro id hid hsuccessive hearly
    have hheld : ∀ g a, k.Made (Desk.cancel reference) b g a → g.get? reference = some id →
        a.hindered = true → a.Restored reference id b g ∧ a.registry.get? reference = some id :=
      fun g a ha hid h => (ha.entered hid).1 h
    exact hsuccessive.freedOnce hheld (fun g a ha hid h => (ha.entered hid).2 h)
      (fun b' g' a ha _ hnone => ha.unentered hnone) hid hearly

namespace OneReference

/-- Ann cancels. -/
def cancels : Procedure (Except ReleaseError Snapshot) := Desk.cancelRecorded record.reference

/-- Ann has booked, and cues are given for the requests to come. -/
def cued (script : List Cue) : World (Scripted Memory) :=
  ⟨⟨script, booked.state⟩, booked.registry, booked.generator, booked.now, booked.log⟩

/-- The ledger that is told what to do. -/
abbrev prompted : Bookkeeper (Scripted Memory) := Scripted.bookkeeper Memory.bookkeeper

theorem fit_cued (script : List Cue) : prompted.Fit (cued script).state := by
  have hworld : Memory.bookkeeper.Fit world.state := by
    refine ⟨(Memory.sound_empty 0 .empty).put (by decide), ?_⟩
    intro reference b hb
    cases hb
  exact Memory.bookkeeper.fit_run books hworld

/-- What an attempt failed with. -/
def failures (as : List Attempt) : List (Option ReleaseError) := as.map fun a => errorOf? a.outcome

/-- The record cannot be removed at first, then the spot cannot be freed; and the last removal fails again. -/
def script : List Cue := [.fail lost, .serve, .fail lost, .serve, .serve, .serve, .serve, .fail lost]

/-- She cancels and the connection is lost, but too late. -/
def lateScript : List Cue := [.serve, .serve, .fail lost]

end OneReference

open OneReference in
/-- Ann cancels five times. The third attempt succeeds; of those that come too late one finds nothing and one
    fails. -/
theorem freed_at_the_third_attempt :
    let as := prompted.attempts cancels [⟨1, 0⟩, ⟨2, 0⟩, ⟨3, 0⟩, ⟨4, 0⟩, ⟨5, 0⟩] (cued script)
    FreedOnce record.reference ⟨1⟩ (prompted.books (cued script).state)
        ((prompted.books (cued script).state).strike record.reference) booked.registry (as.take 2)
        (as.drop 2) ∧
      failures as = [some (.infrastructure lost), some (.infrastructure lost), none,
        some (.notFound (Booking.unknown record.reference)), some (.infrastructure lost)] := by
  intro as
  have hrecord : (prompted.books (cued script).state).record? record.reference = some record := by
    decide +kernel
  have hhindered : ∀ a ∈ as.take 2, a.hindered = true := by decide +kernel
  have hrestored : ∀ a ∈ as.take 2, ∀ t ∈ tries a.trail, t.2.toOption = some true := by decide +kernel
  have hstored : ∀ a ∈ as.take 2, a.hindered = true ∧ ∀ t ∈ tries a.trail, t.2 = .ok true := by
    refine fun a ha => ⟨hhindered a ha, fun t ht => ?_⟩
    have htrue := hrestored a ha t ht
    cases hx : t.2 with
    | error e =>
        rw [hx] at htrue
        cases htrue
    | ok stored =>
        rw [hx] at htrue
        exact congrArg Except.ok (Option.some.inj htrue)
  have hsuccessive : prompted.Successive cancels (prompted.books (cued script).state) booked.registry
      (as.take 2 ++ as.drop 2) :=
    (List.take_append_drop 2 as).symm ▸ prompted.successive_attempts cancels _ (fit_cued script)
  obtain ⟨hcancelled, -⟩ := retried_cancellation_frees_once prompted record.reference
    (prompted.books (cued script).state) booked.registry (as.take 2) (as.drop 2)
  exact ⟨hcancelled record hrecord hsuccessive hstored, by decide +kernel⟩

open OneReference in
/-- Ann cancels, and cancels once more when the connection is lost: the second attempt does not learn that
    there is nothing left to cancel. -/
theorem hindered_after_success :
    let as := prompted.attempts cancels [default, default] (cued lateScript)
    prompted.Successive cancels (prompted.books (cued lateScript).state) booked.registry as ∧
      (prompted.books (cued lateScript).state).record? record.reference = some record ∧
      as.map Attempt.hindered = [false, true] ∧ failures as = [none, some (.infrastructure lost)] := by
  intro as
  refine ⟨prompted.successive_attempts cancels _ (fit_cued lateScript), ?_⟩
  decide +kernel

end DiveSchool
