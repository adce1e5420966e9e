import DiveSchool.Proofs.Beside
import DiveSchool.Proofs.Effect
import DiveSchool.Proofs.Errand

/-!
# `DiveSchool.Proofs.Akin` — worlds that are alike at one offering

For everybody who asks about one offering, a world in memory is the row of that offering and its lock. Two
worlds that show the same there (`World.Akin`) may differ in every other offering, in the registry of
references and in the draws: a request about the offering is answered alike and leaves them akin, and
whatever else happens in one of them spares the offering (`World.Spares`). Issuing a reference is among
what else happens, and as it always comes to some reference, a booking is decided once its spot is taken.

## Contents
- **Akin worlds.** `World.Akin`, `World.Spares`.
- **Requests.** `Akin.respond` for requests about the offering, `spares_respond` for all others.
- **Orders.** `Akin.order` and `spares_apply`.
- **Bare results.** `Ending.bare` and `Report.bare`: what is left without references and moments.
- **Dealings.** `Dealing.beside_at` and `Dealing.follows_aside`.
-/

namespace DiveSchool

/-! ## Akin worlds -/

namespace World

variable {a : OfferingId} {w w' w₁ : World Memory}

/-- Two worlds with sound ledgers show the same at an offering: its row up to the moments in it, and
    whether others hold its lock. -/
structure Akin (a : OfferingId) (w w' : World Memory) : Prop where
  sound : w.state.Sound
  sound' : w'.state.Sound
  row : (w.state.offerings.get? a).map Offering.timeless =
    (w'.state.offerings.get? a).map Offering.timeless
  locked : a ∈ w.state.held ↔ a ∈ w'.state.held

/-- A world has become another one with a sound ledger in which an offering and the locks are as they
    were. -/
structure Spares (a : OfferingId) (w w₁ : World Memory) : Prop where
  sound : w₁.state.Sound
  row : w₁.state.offerings.get? a = w.state.offerings.get? a
  held : w₁.state.held = w.state.held

theorem Spares.trans {w₂ : World Memory} (h : Spares a w w₁) (h' : Spares a w₁ w₂) : Spares a w w₂ :=
  ⟨h'.sound, h'.row.trans h.row, h'.held.trans h.held⟩

theorem akin_self (hm : w.state.Sound) : Akin a w w := ⟨hm, hm, rfl, Iff.rfl⟩

theorem Akin.symm (h : Akin a w w') : Akin a w' w := ⟨h.sound', h.sound, h.row.symm, h.locked.symm⟩

theorem Akin.of_spares (h : Akin a w w') (hs : Spares a w w₁) : Akin a w₁ w' :=
  ⟨hs.sound, h.sound', hs.row ▸ h.row, hs.held ▸ h.locked⟩

theorem Akin.clock (h : Akin a w w') (now now' : Timestamp) :
    Akin a { w with now } { w' with now := now' } := ⟨h.sound, h.sound', h.row, h.locked⟩

/-! ## Requests -/

/-- A look-up shows the same. -/
theorem Akin.find (h : Akin a w w') : (w.state.find a).answer.map (Option.map Offering.timeless) =
    (w'.state.find a).answer.map (Option.map Offering.timeless) := by
  have hrow := h.row
  cases ho : w.state.offerings.get? a with
  | none =>
      rw [ho] at hrow
      have ho' := Option.map_eq_none_iff.mp hrow.symm
      simp only [Memory.find, Memory.underLock, ho, ho']
  | some o =>
      rw [ho] at hrow
      obtain ⟨o', ho', hsame⟩ := Option.map_eq_some_iff.mp hrow.symm
      simp only [Memory.find, Memory.underLock, ho, ho', List.contains_iff_mem, h.locked]
      split
      · rfl
      · exact congrArg (fun o => Except.ok (some o)) hsame.symm

/-- **An operation by row** is answered alike and leaves the rows alike. -/
theorem Akin.byRow (h : Akin a w w') {α : Type} {f f' : Option Offering → Except Failure α}
    {row? : α → Option Offering} {g : α → α} {reply reply' : Reply Memory (Except Failure α)}
    (hreply : w.state.ByRow a f row? reply) (hreply' : w'.state.ByRow a f' row? reply')
    (hf : ∀ row row' : Option Offering, row.map Offering.timeless = row'.map Offering.timeless →
      (f row).map g = (f' row').map g)
    (hrow : ∀ x, row? (g x) = (row? x).map Offering.timeless) :
    reply.answer.map g = reply'.answer.map g ∧
      (reply.state.offerings.get? a).map Offering.timeless =
        (reply'.state.offerings.get? a).map Offering.timeless := by
  have hanswer : reply.answer.map g = reply'.answer.map g := by
    rw [hreply.answer, hreply'.answer]
    have hfind := h.find
    cases hx : (w.state.find a).answer with
    | error e =>
        cases hy : (w'.state.find a).answer with
        | error e' =>
            rw [hx, hy] at hfind
            cases hfind
            rfl
        | ok y => rw [hx, hy] at hfind; cases hfind
    | ok x =>
        cases hy : (w'.state.find a).answer with
        | error e' => rw [hx, hy] at hfind; cases hfind
        | ok y =>
            rw [hx, hy] at hfind
            exact hf x y (Except.ok.inj hfind)
  refine ⟨hanswer, ?_⟩
  rw [hreply.row, hreply'.row]
  exact rowAfter_timeless hrow h.row hanswer

end World

/-- The offering that a request asks about. -/
def Request.asks? : Request → Option OfferingId
  | find id | reserve id | release id => some id
  | _ => none

namespace World

variable {a : OfferingId} {w w' : World Memory}

/-- **A request about the offering** is answered alike in akin worlds and leaves them akin. -/
theorem Akin.serve (h : Akin a w w') {r : Request} (hr : r.asks? = some a) :
    r.Alike (Memory.ledger.serve r w).1 (Memory.ledger.serve r w').1 ∧
      Akin a (Memory.ledger.serve r w).2 (Memory.ledger.serve r w').2 := by
  have heffect := h.sound.requestEffect none r
  have heffect' := h.sound'.requestEffect none r
  have hafter := fun hrow => (⟨heffect.sound h.sound, heffect'.sound h.sound', hrow,
    heffect.held ▸ heffect'.held ▸ h.locked⟩ :
      Akin a (Memory.ledger.serve r w).2 (Memory.ledger.serve r w').2)
  cases r with
  | find id =>
      cases hr
      obtain ⟨hanswer, hrow⟩ := h.byRow (g := Option.map Offering.timeless)
        (Memory.byRow_find w.state a) (Memory.byRow_find w'.state a)
        (fun _ _ hrow => congrArg Except.ok hrow) fun _ => rfl
      exact ⟨hanswer, hafter hrow⟩
  | reserve id =>
      cases hr
      obtain ⟨hanswer, hrow⟩ := h.byRow (h.sound.byRow_reserve w.now a) (h.sound'.byRow_reserve w'.now a)
        (fun row row' hrow => congrArg Except.ok (by
          rw [Reservation.timeless_of, Reservation.timeless_of, hrow])) Reservation.row?_timeless
      exact ⟨hanswer, hafter hrow⟩
  | release id =>
      cases hr
      obtain ⟨hanswer, hrow⟩ := h.byRow (h.sound.byRow_release w.now a) (h.sound'.byRow_release w'.now a)
        (fun row row' hrow => congrArg Except.ok (by
          rw [Freeing.timeless_of, Freeing.timeless_of, hrow])) Freeing.row?_timeless
      exact ⟨hanswer, hafter hrow⟩
  | _ => cases hr

/-- The same with a fault on both sides. -/
theorem Akin.respond (h : Akin a w w') (fault : Option Failure) {r : Request} (hr : r.asks? = some a) :
    r.Alike (DiveSchool.respond fault r w).1 (DiveSchool.respond fault r w').1 ∧
      Akin a (DiveSchool.respond fault r w).2 (DiveSchool.respond fault r w').2 := by
  cases fault with
  | none => exact h.serve hr
  | some f => cases r <;> cases hr <;> exact ⟨rfl, h⟩

/-- **A request that changes no spot of the offering** spares it. -/
theorem spares_respond (hm : w.state.Sound) (fault : Option Failure) {r : Request}
    (hr : r.changes? ≠ some a) : Spares a w (DiveSchool.respond fault r w).2 := by
  have heffect := hm.requestEffect fault r
  obtain ⟨hrow, hheld⟩ := heffect.frame hm hr
  exact ⟨heffect.sound hm, hrow, hheld⟩

/-! ## Orders -/

/-- An order about another offering spares this one. -/
theorem spares_apply (hm : w.state.Sound) {o : Order} (ho : o.target ≠ a) : Spares a w (o.apply w) := by
  have heffect := hm.orderEffect o
  obtain ⟨hrow, hheld⟩ := heffect.frame hm ho
  exact ⟨heffect.sound hm, hrow, hheld⟩

end World

/-! ## Bare results -/

/-- The booking without its reference and its moment. -/
def Booking.bare (b : Booking) : Booking := { b with reference := "", issuedAt := default }

/-- The ending without references and moments. -/
def Ending.bare : Ending → Ending
  | booked outcome => booked (outcome.map Booking.bare)
  | freed outcome => freed outcome
  | shown outcome => shown outcome

/-- The report without references and moments. -/
def Report.bare : Report → Report
  | added x => added x
  | inserted x => inserted (x.map Offering.timeless)
  | changed x => changed (x.map Offering.timeless)
  | updated x => updated (x.map (Option.map Offering.timeless))
  | found x => found (x.map (Option.map Offering.timeless))
  | reserved x => reserved (x.map Reservation.timeless)
  | freed x => freed (x.map Freeing.timeless)
  | ended e => ended e.bare

namespace World

variable {a : OfferingId} {w w' : World Memory}

/-- **An order about the offering** is reported alike in akin worlds and leaves them akin. -/
theorem Akin.order (h : Akin a w w') {o : Order} (ho : o.target = a) :
    (Memory.office.order o w).1.bare = (Memory.office.order o w').1.bare ∧
      Akin a (o.apply w) (o.apply w') := by
  have heffect := h.sound.orderEffect o
  have heffect' := h.sound'.orderEffect o
  have hafter := fun hrow => (⟨heffect.sound h.sound, heffect'.sound h.sound', hrow,
    heffect.held ▸ heffect'.held ▸ h.locked⟩ : Akin a (o.apply w) (o.apply w'))
  subst ho
  cases o with
  | add o =>
      have hanswer : (w.state.insert o).answer = (w'.state.insert o).answer := by
        have hthere := congrArg Option.isSome h.row
        rw [Option.isSome_map, Option.isSome_map] at hthere
        rw [Memory.answer_insert, Memory.answer_insert, Memory.adding, Memory.adding]
        exact hthere ▸ rfl
      refine ⟨congrArg Report.added hanswer, hafter ?_⟩
      show ((w.state.insert o).state.offerings.get? o.id).map _ =
        ((w'.state.insert o).state.offerings.get? o.id).map _
      rw [Memory.row_insert, Memory.row_insert, hanswer]
      cases (w'.state.insert o).answer with
      | error e => exact h.row
      | ok _ => rfl
  | setCapacity id capacity =>
      obtain ⟨hanswer, hrow⟩ := h.byRow (g := Offering.timeless)
        (h.sound.byRow_setCapacity w.now id capacity) (h.sound'.byRow_setCapacity w'.now id capacity)
        (fun row row' hrow => by rw [Memory.timeless_resizing, Memory.timeless_resizing, hrow])
        fun _ => rfl
      exact ⟨congrArg Report.changed hanswer, hafter hrow⟩
  | setStatus id status =>
      obtain ⟨hanswer, hrow⟩ := h.byRow (g := Offering.timeless)
        (h.sound.byRow_setStatus w.now id status) (h.sound'.byRow_setStatus w'.now id status)
        (fun row row' hrow => by rw [Memory.timeless_moving, Memory.timeless_moving, hrow])
        fun _ => rfl
      exact ⟨congrArg Report.changed hanswer, hafter hrow⟩

end World

/-! ## Dealings -/

namespace Procedure

variable {α β : Type}

/-- An observer of one offering who is not concerned: no spot of it is taken or freed. -/
def aside (a : OfferingId) : Protocol Unit where
  start := ()
  may _ r := r.changes? ≠ some a
  heard _ _ _ := True
  next _ _ _ := ()

theorem aside_ledgerOnly (a : OfferingId) : (aside a).LedgerOnly := by
  constructor <;> intros <;> exact fun _ => ⟨nofun, fun _ => rfl⟩

/-- Whatever it is answered, a procedure comes to a result with a given bare form, and no spot of the
    offering is taken or freed meanwhile. -/
def Settles (a : OfferingId) (bare : α → β) (b : β) (p : Procedure α) : Prop :=
  p.Follows (aside a) (fun _ x => bare x = b) ()

/-- Two procedures come to the same bare result. -/
def Settled (a : OfferingId) (bare : α → β) (p q : Procedure α) : Prop :=
  ∃ b, p.Settles a bare b ∧ q.Settles a bare b

theorem settled_done {a : OfferingId} {bare : α → β} {x y : α} (h : bare x = bare y) :
    Settled a bare (done x) (done y) := ⟨bare y, h, rfl⟩

/-- A procedure that is not concerned with an offering spares it. -/
theorem Follows.spares {a : OfferingId} {Q : Unit → α → Prop} {p : Procedure α}
    (hp : p.Follows (aside a) Q ()) {w : World Memory} (hm : w.state.Sound) :
    World.Spares a w (Memory.ledger.run p w).2 ∧ Q () (Memory.ledger.run p w).1 := by
  have hserve : ∀ (s : Unit) (w' : World Memory) (r : Request), World.Spares a w w' → (aside a).may s r →
      (aside a).heard s r (Memory.ledger.serve r w').1 ∧
        World.Spares a w (Memory.ledger.serve r w').2 := by
    intro _ w' r hw' hmay
    exact ⟨trivial, hw'.trans (World.spares_respond hw'.sound none hmay)⟩
  obtain ⟨_, hQ, hspares⟩ := hp.run (R := fun _ w' => World.Spares a w w') hserve ⟨hm, rfl, rfl⟩
  exact ⟨hspares, hQ⟩

end Procedure

/-- Issuing a reference and announcing the booking settles it: no answer turns it into a failure. -/
theorem Desk.settles_issue (d : Desk) (now : Timestamp) (a id : OfferingId) (holder : Holder)
    (o : Offering) : Procedure.Settles a (Except.map Booking.bare)
      (.ok ⟨"", id, holder.firstName, default⟩) (do
        let reference ← d.issue o holder.firstName
        Procedure.log (.bookingConfirmed id reference o.bookings o.capacity)
        return (.ok ⟨reference, id, holder.firstName, now⟩ : Except BookingError Booking)) := by
  have hP := Procedure.aside_ledgerOnly a
  refine Procedure.follows_bind.mpr (Desk.follows_issue hP fun reference => ?_)
  exact (hP.log _).follows_bind fun _ => rfl

/-- **Booking** on both sides is decided by the offering alone: where the spot is taken, nothing more is
    asked about the offering, and whatever reference is issued in the end, the booking is made. -/
theorem Desk.beside_book_at (d : Desk) (now now' : Timestamp) (a : OfferingId) (holder : Holder) :
    (d.book now a holder).Beside (·.asks? = some a) Request.Alike
      (Procedure.Settled a (Except.map Booking.bare)) (d.book now' a holder) := by
  refine (Desk.beside_reserve (M := (·.asks? = some a)) d holder rfl rfl).bind ?_
  rintro (e | o) (e' | o') h
  · exact .rest (Procedure.settled_done (Except.error.inj h ▸ rfl))
  · cases h
  · cases h
  · exact .rest ⟨_, d.settles_issue now a a holder o, d.settles_issue now' a a holder o'⟩

namespace Dealing

open Procedure

variable {a : OfferingId} {v : Dealing}

/-- **A dealing about the offering** asks about it alone, and on alike answers it comes to the same bare
    ending. -/
theorem beside_at (d : Desk) (now now' : Timestamp) (hv : v.target? = some a) :
    ((v.call now).procedure d).Beside (·.asks? = some a) Request.Alike (Settled a Ending.bare)
      ((v.call now').procedure d) := by
  cases v with
  | cancel reference => cases hv
  | book id holder =>
      cases hv
      refine (d.beside_book_at now now' a holder).append fun p q ⟨b, hp, hq⟩ => .rest ⟨.booked b, ?_, ?_⟩
      · exact follows_bind.mpr (hp.mono fun _ x hx => congrArg Ending.booked hx)
      · exact follows_bind.mpr (hq.mono fun _ x hx => congrArg Ending.booked hx)
  | release id =>
      cases hv
      refine (Desk.beside_release (M := (·.asks? = some a)) rfl).bind fun x y hxy => .rest ?_
      exact settled_done (hxy ▸ rfl)
  | availability id =>
      cases hv
      refine (Desk.beside_availability (M := (·.asks? = some a)) rfl).bind fun x y hxy => .rest ?_
      exact settled_done (hxy ▸ rfl)

/-- A dealing about another offering is not concerned with this one. -/
theorem follows_aside (d : Desk) (now : Timestamp) {b : OfferingId} (hv : v.target? = some b)
    (hne : b ≠ a) : ((v.call now).procedure d).Follows (aside a) (fun _ _ => True) () := by
  have hP := aside_ledgerOnly a
  have hother : some b ≠ some a := fun h => hne (Option.some.inj h)
  cases v with
  | cancel reference => cases hv
  | book id holder =>
      cases hv
      refine follows_bind.mpr (Desk.follows_book hP (Desk.follows_reserve hP.log nofun ?_ ?_))
      · exact fun _ _ _ _ => trivial
      · refine fun x _ _ => ⟨hother, ?_⟩
        rintro (cause | (o | o | o | _)) _
        · exact trivial
        · exact fun _ => trivial
        · exact trivial
        · exact trivial
        · exact trivial
  | release id =>
      cases hv
      exact follows_bind.mpr (Desk.follows_release hP.log hother fun _ _ => trivial)
  | availability id =>
      cases hv
      exact follows_bind.mpr (Desk.follows_availability nofun fun _ _ => trivial)

end Dealing

end DiveSchool
