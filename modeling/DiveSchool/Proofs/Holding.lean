import DiveSchool.Proofs.Effect

/-!
# `DiveSchool.Proofs.Holding` — what is held under one reference

A reference can be held in two places: the registry has it for an offering, and a record may be stored under
it. Booking fills them, the two kinds of cancellation empty them, each in its own way. Seen from one
reference alone, a call is one of a few things, listed in `Handles`.

## Contents
- **Holdings.** `Holding`, `Holding.of` a world, and `Holding.after` a request.
- **Answers.** `Holding.Agrees`: the ledger answers by what is held (`agrees_serve`).
- **Protocol.** `Holding.protocol`, whose states are holdings.
- **Calls.** `Handles` and `handles`: what each call does to the holding.
-/

namespace DiveSchool

/-! ## Holdings -/

/-- What is held under a reference. -/
structure Holding where
  /-- The offering that the registry has the reference for. -/
  entered : Option OfferingId
  /-- The record that is stored under it. -/
  recorded : Option Booking

namespace Holding

/-- What a world holds under a reference. -/
def of (w : World Memory) (reference : String) : Holding :=
  ⟨w.registry.get? reference, w.state.records.get? reference⟩

/-- The holding after a request, by the answer to it. -/
def after (r : String) (s : Holding) : (q : Request) → q.Answer → Holding
  | .claim reference id, true => if reference = r then { s with entered := some id } else s
  | .enter reference id, _ => if reference = r then { s with entered := some id } else s
  | .forget reference, _ => if reference = r then { s with entered := none } else s
  | .store b, .ok true => if b.reference = r then { s with recorded := some b } else s
  | .remove reference, .ok _ => if reference = r then { s with recorded := none } else s
  | _, _ => s

/-! ## Answers -/

/-- An answer that fits what is held. Stores and removals of records do not fail. -/
def Agrees (r : String) (s : Holding) : (q : Request) → q.Answer → Prop
  | .claim reference _, x => reference = r → x = s.entered.isNone
  | .forget reference, x => reference = r → x = s.entered
  | .store b, .ok x => b.reference = r → x = s.recorded.isNone
  | .store _, .error _ => False
  | .remove reference, .ok none => reference = r → s.recorded = none
  | .remove reference, .ok (some b) => b.reference = reference ∧ (reference = r → s.recorded = some b)
  | .remove _, .error _ => False
  | _, _ => True

end Holding

/-- Every record is stored under its own reference. -/
def Memory.Keyed (m : Memory) : Prop :=
  ∀ reference b, m.records.get? reference = some b → b.reference = reference

namespace Memory

variable {m m' : Memory} {now : Timestamp}

/-- Only storing and removing change the records. -/
theorem RequestEffect.records_eq {q : Request} {x : q.Answer} (h : RequestEffect m now q x m')
    (hstore : ∀ b, q ≠ .store b) (hremove : ∀ reference, q ≠ .remove reference) : m'.records = m.records := by
  cases h with
  | stored hnew => exact absurd rfl (hstore _)
  | removed h => exact absurd rfl (hremove _)
  | _ => rfl

theorem RequestEffect.keyed {q : Request} {x : q.Answer} (h : RequestEffect m now q x m') (hm : m.Keyed) :
    m'.Keyed := by
  cases h with
  | stored hnew =>
      intro reference b hb
      rw [Table.get?_insert] at hb
      split at hb
      · next hr =>
          cases hb
          exact hr.symm
      · exact hm reference b hb
  | removed h =>
      intro reference b hb
      rw [Table.get?_erase] at hb
      split at hb
      · cases hb
      · exact hm reference b hb
  | _ => exact hm

end Memory

namespace Holding

variable {r : String} {w : World Memory}

theorem agrees_store (b : Booking) :
    (of w r).Agrees r (.store b) (Memory.ledger.serve (.store b) w).1 ∧
      of (Memory.ledger.serve (.store b) w).2 r =
        (of w r).after r (.store b) (Memory.ledger.serve (.store b) w).1 := by
  show (of w r).Agrees r (.store b) (w.state.store b).answer ∧
    of (w.afterReply (w.state.store b)) r = (of w r).after r (.store b) (w.state.store b).answer
  unfold Memory.store
  cases hused : w.state.records.get? b.reference with
  | some b' =>
      simp only [Table.contains, hused, Option.isSome_some, if_true]
      refine ⟨?_, rfl⟩
      rintro rfl
      show false = (w.state.records.get? b.reference).isNone
      rw [hused]
      rfl
  | none =>
      simp only [Table.contains, hused, Option.isSome_none, Bool.false_eq_true, if_false]
      constructor
      · rintro rfl
        show true = (w.state.records.get? b.reference).isNone
        rw [hused]
        rfl
      · simp only [of, after, World.afterReply, Table.get?_insert, @eq_comm _ r]
        split <;> rfl

theorem agrees_remove (hkeyed : w.state.Keyed) (reference : String) :
    (of w r).Agrees r (.remove reference) (Memory.ledger.serve (.remove reference) w).1 ∧
      of (Memory.ledger.serve (.remove reference) w).2 r =
        (of w r).after r (.remove reference) (Memory.ledger.serve (.remove reference) w).1 := by
  show (of w r).Agrees r (.remove reference) (.ok (w.state.records.get? reference)) ∧
    of ⟨{ w.state with records := w.state.records.erase reference }, w.registry, w.generator, w.now,
      w.log ++ []⟩ r = (of w r).after r (.remove reference) (.ok (w.state.records.get? reference))
  constructor
  · cases hb : w.state.records.get? reference with
    | none =>
        rintro rfl
        exact hb
    | some b =>
        refine ⟨hkeyed reference b hb, ?_⟩
        rintro rfl
        exact hb
  · simp only [of, after, Table.get?_erase, @eq_comm _ r]
    split <;> rfl

theorem agrees_claim (reference : String) (id : OfferingId) :
    (of w r).Agrees r (.claim reference id) (Memory.ledger.serve (.claim reference id) w).1 ∧
      of (Memory.ledger.serve (.claim reference id) w).2 r =
        (of w r).after r (.claim reference id) (Memory.ledger.serve (.claim reference id) w).1 := by
  cases hused : w.registry.get? reference with
  | some id' =>
      simp only [Ledger.serve, Registry.claim?, Table.contains, hused, Option.isSome_some, if_true]
      refine ⟨?_, rfl⟩
      rintro rfl
      show false = (w.registry.get? reference).isNone
      rw [hused]
      rfl
  | none =>
      simp only [Ledger.serve, Registry.claim?, Table.contains, hused, Option.isSome_none,
        Bool.false_eq_true, if_false]
      constructor
      · rintro rfl
        show true = (w.registry.get? reference).isNone
        rw [hused]
        rfl
      · simp only [of, after, Table.get?_insert, @eq_comm _ r]
        split <;> rfl

/-- Looking up, taking and freeing spots leaves every holding alone. -/
theorem of_serve_spots (hm : w.state.Sound) (r : String) {q : Request} (hstore : ∀ b, q ≠ .store b)
    (hremove : ∀ reference, q ≠ .remove reference)
    (hregistry : (Memory.ledger.serve q w).2.registry = w.registry) :
    of (Memory.ledger.serve q w).2 r = of w r := by
  have hrecords : (Memory.ledger.serve q w).2.state.records = w.state.records :=
    (hm.requestEffect none q).records_eq hstore hremove
  rw [of, of, hregistry, hrecords]

/-- **The ledger answers by what is held**, and what is held changes by its answers. -/
theorem agrees_serve (hm : w.state.Sound) (hkeyed : w.state.Keyed) (r : String) (q : Request) :
    (of w r).Agrees r q (Memory.ledger.serve q w).1 ∧
      of (Memory.ledger.serve q w).2 r = (of w r).after r q (Memory.ledger.serve q w).1 := by
  cases q with
  | find id => exact ⟨trivial, of_serve_spots hm r nofun nofun rfl⟩
  | reserve id => exact ⟨trivial, of_serve_spots hm r nofun nofun rfl⟩
  | release id => exact ⟨trivial, of_serve_spots hm r nofun nofun rfl⟩
  | store b => exact agrees_store b
  | remove reference => exact agrees_remove hkeyed reference
  | draw => exact ⟨trivial, rfl⟩
  | claim reference id => exact agrees_claim reference id
  | enter reference id =>
      refine ⟨trivial, ?_⟩
      simp only [of, after, Ledger.serve, Table.get?_insert, @eq_comm _ r]
      split <;> rfl
  | forget reference =>
      constructor
      · rintro rfl
        rfl
      · simp only [of, after, Ledger.serve, Table.get?_erase, @eq_comm _ r]
        split <;> rfl
  | log event => exact ⟨trivial, rfl⟩

/-! ## Protocol -/

/-- Neither a fault nor the end of all draws. -/
def Smooth : (q : Request) → q.Answer → Prop
  | .find _, .error _ => False
  | .reserve _, .error _ => False
  | .release _, .error _ => False
  | .log (.redrawsExhausted _ _ _), _ => False
  | _, _ => True

/-- A procedure may do what it likes, and reckons with answers without faults that fit what is held under one
    reference. -/
def protocol (r : String) (start : Holding) : Protocol Holding where
  start := start
  may _ _ := True
  heard s q x := s.Agrees r q x ∧ Smooth q x
  next := after r

variable {r : String} {s start : Holding}

theorem protocol_ignores_draw : (protocol r start).Ignores .draw := fun _ => ⟨trivial, fun _ => rfl⟩

theorem protocol_ignores_log (event : Event) : (protocol r start).Ignores (.log event) :=
  fun _ => ⟨trivial, fun _ => rfl⟩

/-! ## Calls -/

end Holding

/-- A call that cancels by this reference, in whichever way. -/
def Call.Cancels (r : String) (c : Call) : Prop := c = .cancel r ∨ c = .cancelRecorded r

/-- The booking that a call ended with. -/
def Ending.booking? : Ending → Option Booking
  | .booked (.ok b) => some b
  | _ => none

/-- A call that ended with a booking under this reference. -/
def Ending.Issues (r : String) (e : Ending) : Prop := ∃ b, e = .booked (.ok b) ∧ b.reference = r

theorem Ending.booking?_eq_some {e : Ending} {b : Booking} : e.booking? = some b ↔ e = .booked (.ok b) := by
  constructor
  · intro h
    match e with
    | .booked (.ok b') =>
        cases h
        rfl
  · rintro rfl
    rfl

theorem Ending.issues_iff {r : String} {e : Ending} : e.Issues r ↔ ∃ b ∈ e.booking?, b.reference = r := by
  simp only [Option.mem_def, Ending.booking?_eq_some, Ending.Issues]

instance (r : String) (e : Ending) : Decidable (e.Issues r) := decidable_of_iff' _ Ending.issues_iff

/-- **What a call does** to the holding of one reference. -/
inductive Handles (r : String) (s : Holding) : Call → Ending → Holding → Prop
  | other {c : Call} {e : Ending} (hc : ¬ c.Cancels r) (he : ¬ e.Issues r) : Handles r s c e s
  | issued {c : Call} {b : Booking} {id : OfferingId} (hb : b.reference = r) (hfree : s.entered = none) :
      Handles r s c (.booked (.ok b)) ⟨some id, s.recorded⟩
  | recorded {c : Call} {b : Booking} {id : OfferingId} (hb : b.reference = r) (hfree : s.entered = none)
      (hnew : s.recorded = none) : Handles r s c (.booked (.ok b)) ⟨some id, some b⟩
  | unknown (h : s.entered = none) :
      Handles r s (.cancel r) (.freed (.error (.notFound (Booking.unknown r)))) s
  | forgotten {id : OfferingId} {x : Freeing} (h : s.entered = some id) :
      Handles r s (.cancel r) (.freed (Desk.freed id (.ok x))) ⟨none, s.recorded⟩
  | unrecorded (h : s.recorded = none) :
      Handles r s (.cancelRecorded r) (.freed (.error (.notFound (Booking.unknown r)))) s
  | removed {b : Booking} {x : Freeing} (h : s.recorded = some b) :
      Handles r s (.cancelRecorded r) (.freed (Desk.freed b.offeringId (.ok x))) ⟨none, none⟩

namespace Holding

open Procedure

variable {r : String} {s start : Holding}

/-- Freeing comes to no booking. -/
theorem not_issues_freed (x : Except ReleaseError Snapshot) : ¬ (Ending.freed x).Issues r := by
  rintro ⟨b, h, _⟩
  cases h

theorem follows_cancel (reference : String) :
    (Desk.cancel reference).Follows (protocol r start)
      (fun s' x => Handles r s (.cancel reference) (.freed x) s') s := by
  by_cases hr : reference = r
  · subst hr
    refine Desk.cancel_rule protocol_ignores_log trivial ?_ ?_
    · intro hx
      have hnone : none = s.entered := hx.1 rfl
      obtain ⟨entered, recorded⟩ := s
      cases hnone
      simp only [protocol, after, if_true]
      exact .unknown rfl
    · intro id hx
      have hsome : some id = s.entered := hx.1 rfl
      obtain ⟨entered, recorded⟩ := s
      cases hsome
      refine ⟨trivial, ?_⟩
      rintro (cause | y) hy
      · exact hy.2.elim
      · simp only [protocol, after, if_true]
        exact .forgotten rfl
  · have hother : ¬ (Call.cancel reference).Cancels r := by
      rintro (h | h)
      · exact hr (Call.cancel.inj h)
      · cases h
    refine Desk.cancel_rule protocol_ignores_log trivial ?_ ?_
    · intro _
      simp only [protocol, after, hr, if_false]
      exact .other hother (not_issues_freed _)
    · intro id _
      refine ⟨trivial, ?_⟩
      rintro (cause | y) hy
      · exact hy.2.elim
      · simp only [protocol, after, hr, if_false]
        exact .other hother (not_issues_freed _)

theorem follows_cancelRecorded (reference : String) :
    (Desk.cancelRecorded reference).Follows (protocol r start)
      (fun s' x => Handles r s (.cancelRecorded reference) (.freed x) s') s := by
  by_cases hr : reference = r
  · subst hr
    refine Desk.cancelRecorded_rule protocol_ignores_log trivial ?_ ?_ ?_
    · intro cause hx
      exact hx.1.elim
    · intro hx
      have hnone : s.recorded = none := hx.1 rfl
      obtain ⟨entered, recorded⟩ := s
      cases hnone
      simp only [protocol, after, if_true]
      exact .unrecorded rfl
    · intro b hx
      obtain ⟨hb, hsome⟩ := hx.1
      have hrecorded : s.recorded = some b := hsome rfl
      refine follows_ask.mpr ⟨trivial, fun _ _ => ⟨trivial, ?_⟩⟩
      rintro (cause | y) hy
      · exact hy.2.elim
      · simp only [protocol, after, if_true]
        exact .removed hrecorded
  · have hother : ¬ (Call.cancelRecorded reference).Cancels r := by
      rintro (h | h)
      · cases h
      · exact hr (Call.cancelRecorded.inj h)
    refine Desk.cancelRecorded_rule protocol_ignores_log trivial ?_ ?_ ?_
    · intro cause hx
      exact hx.1.elim
    · intro _
      simp only [protocol, after, hr, if_false]
      exact .other hother (not_issues_freed _)
    · intro b hx
      have hb : b.reference ≠ r := hx.1.1 ▸ hr
      refine follows_ask.mpr ⟨trivial, fun _ _ => ⟨trivial, ?_⟩⟩
      rintro (cause | y) hy
      · exact hy.2.elim
      · simp only [protocol, after, hr, if_false]
        exact .other hother (not_issues_freed _)

/-! ### Booking without faults -/

/-- A booking that failed holds nothing. -/
theorem not_issues_error (e : BookingError) : ¬ (Ending.booked (.error e)).Issues r := by
  rintro ⟨b, h, _⟩
  cases h

/-- The holding once a reference is claimed for an offering. -/
def claimed (s : Holding) (r reference : String) (id : OfferingId) : Holding :=
  if reference = r then { s with entered := some id } else s

/-- **Issuing** claims a reference that is free. -/
theorem follows_issue {d : Desk} (hunique : d.rule.unique = true) {o : Offering} {firstName : String} :
    (d.issue o firstName).Follows (protocol r start)
      (fun s' reference => s' = s.claimed r reference o.id ∧ (reference = r → s.entered = none)) s := by
  refine Desk.issue_rule protocol_ignores_draw protocol_ignores_log (fun reference => ⟨trivial, ?_, ?_⟩) ?_
  · intro hx
    refine ⟨rfl, fun hr => ?_⟩
    have hfree : true = s.entered.isNone := hx.1 hr
    simpa using hfree.symm
  · intro _
    rfl
  · intro reference hx
    exact (hx hunique).2.elim

theorem follows_reserve {d : Desk} {id : OfferingId} {holder : Holder}
    {Q : Holding → Except BookingError Offering → Prop}
    (hrefused : ∀ e, Q s (.error e)) (hreserved : ∀ o, Q s (.ok o)) :
    (d.reserve id holder).Follows (protocol r start) Q s := by
  refine Desk.follows_reserve protocol_ignores_log trivial (fun x e _ _ => hrefused e) fun x _ _ => ?_
  refine ⟨trivial, ?_⟩
  intro y _
  show Q s (Desk.settle id y)
  cases Desk.settle id y with
  | error e => exact hrefused e
  | ok o => exact hreserved o

theorem follows_book {d : Desk} (hunique : d.rule.unique = true) (now : Timestamp) (id : OfferingId)
    (holder : Holder) :
    (d.book now id holder).Follows (protocol r start)
      (fun s' x => Handles r s (.book now id holder) (.booked x) s') s := by
  have hother : ¬ (Call.book now id holder).Cancels r := by rintro (h | h) <;> cases h
  refine Desk.book_rule protocol_ignores_log (follows_reserve ?_ ?_)
  · intro e
    exact .other hother (not_issues_error e)
  · intro o
    refine (follows_issue hunique).mono ?_
    rintro _ reference ⟨rfl, hfree⟩
    unfold claimed
    split
    · next hr => exact .issued hr (hfree hr)
    · next hr =>
        refine .other hother ?_
        rintro ⟨b, h, hb⟩
        cases h
        exact hr hb

theorem forgotten_claimed {reference : String} {id : OfferingId} (hfree : reference = r → s.entered = none)
    (x : Option OfferingId) : (s.claimed r reference id).after r (.forget reference) x = s := by
  obtain ⟨entered, recorded⟩ := s
  by_cases hr : reference = r
  · cases hfree hr
    simp only [claimed, after, hr, if_true]
  · simp only [claimed, after, hr, if_false]

/-- A record is stored under a claimed reference. -/
theorem handles_stored {c : Call} {b : Booking} {id : OfferingId} (hother : ¬ c.Cancels r)
    (hfree : b.reference = r → s.entered = none)
    (hnew : b.reference = r → true = (s.claimed r b.reference id).recorded.isNone) :
    Handles r s c (.booked (.ok b)) ((s.claimed r b.reference id).after r (.store b) (.ok true)) := by
  by_cases hr : b.reference = r
  · have hnone : s.recorded = none := by
      have hempty := hnew hr
      simp only [claimed, hr, if_true] at hempty
      simpa using hempty.symm
    simp only [claimed, after, hr, if_true]
    exact .recorded hr (hfree hr) hnone
  · simp only [claimed, after, hr, if_false]
    refine .other hother ?_
    rintro ⟨b', h, hb⟩
    cases h
    exact hr hb

theorem follows_bookRecorded {d : Desk} (hunique : d.rule.unique = true) (now : Timestamp) (id : OfferingId)
    (holder : Holder) :
    (d.bookRecorded now id holder).Follows (protocol r start)
      (fun s' x => Handles r s (.bookRecorded now id holder) (.booked x) s') s := by
  have hother : ¬ (Call.bookRecorded now id holder).Cancels r := by rintro (h | h) <;> cases h
  refine follows_bind.mpr (follows_reserve ?_ ?_)
  · intro e
    exact .other hother (not_issues_error e)
  · intro o
    -- between two references all is as it was at the start
    refine Desk.storeUnderFresh_rule protocol_ignores_log (· = s)
      (fun s' reference => s' = s.claimed r reference o.id ∧ (reference = r → s.entered = none)) rfl ?_ ?_ ?_
    · rintro _ rfl
      exact follows_issue hunique
    · rintro _ reference ⟨rfl, hfree⟩
      refine ⟨trivial, ?_⟩
      rintro (cause | (_ | _)) hx
      · exact hx.1.elim
      · -- the reference is stored already, and its claim is given up
        exact follows_ask.mpr ⟨trivial, fun answer _ => forgotten_claimed hfree answer⟩
      · exact handles_stored hother hfree fun hr => hx.1 hr
    · rintro _ cause rfl
      exact ⟨trivial, fun x _ => .other hother (not_issues_error _)⟩

/-- **Every call** without faults does one of these things. -/
theorem handles {d : Desk} (hunique : d.rule.unique = true) (c : Call) :
    (c.procedure d).Follows (protocol r start) (fun s' e => Handles r s c e s') s := by
  cases c with
  | book now id holder => exact follows_bind.mpr (follows_book hunique now id holder)
  | bookRecorded now id holder => exact follows_bind.mpr (follows_bookRecorded hunique now id holder)
  | cancel reference => exact follows_bind.mpr (follows_cancel reference)
  | cancelRecorded reference => exact follows_bind.mpr (follows_cancelRecorded reference)
  | release id =>
      have hother : ¬ (Call.release id).Cancels r := by rintro (h | h) <;> cases h
      refine follows_bind.mpr (Desk.follows_release protocol_ignores_log trivial fun x _ => ?_)
      exact .other hother (not_issues_freed _)
  | availability id =>
      have hother : ¬ (Call.availability id).Cancels r := by rintro (h | h) <;> cases h
      refine follows_bind.mpr (Desk.follows_availability trivial fun x _ => .other hother ?_)
      rintro ⟨b, h, _⟩
      cases h

end Holding

end DiveSchool
