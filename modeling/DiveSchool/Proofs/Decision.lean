import DiveSchool.Proofs.Books
import DiveSchool.Proofs.Draws

/-!
# `DiveSchool.Proofs.Decision` — who gets a spot, and what the others are told

The checks of a booking are spread out: the desk looks at the status and the counter, a strategy at the
levels, and the ledger looks once more before it gives a spot. When nobody else is there they come to one
decision about the offering as it is stored. `Offering.Admits` and `Desk.Refuses` say what it is, without the
desk; each refusal carries what all checks before it have found.

## Contents
- **Verdicts.** `Ordinal.Decides`, and `Strategy.validate_ofKind`: both strategies give the same verdict.
- **Decisions.** `Offering.Admits` and `Desk.Refuses`; `Desk.judge_decides`, what the desk makes of them.
- **Ledger.** `Desk.follows_reserve_memory` and `Desk.follows_book_memory`, under a free lock.
- **Booking.** `Memory.Reachable`, `Memory.OneMore`, `Desk.BookOutcome`, and `booking_decided`.
-/

namespace DiveSchool

/-! ## Verdicts -/

/-- The verdicts on a holder of a level, with what each rests on. -/
inductive Ordinal.Decides (level : Level) (o : Offering) : Verdict → Prop
  | certified {p : Level} (hp : o.provided = some p) (h : p.rank ≤ level.rank) :
      Decides level o .alreadyCertified
  | unqualified {r : Level} (hnew : ∀ p, o.provided = some p → level.rank < p.rank)
      (hr : o.required = some r) (h : level.rank < r.rank) : Decides level o (.insufficient level r)
  | eligible (hnew : ∀ p, o.provided = some p → level.rank < p.rank)
      (hmet : ∀ r, o.required = some r → r.rank ≤ level.rank) : Decides level o .eligible

/-- Whether an offering confers a level that a holder has. -/
theorem any_meets_iff {provided : Option Level} {level : Level} :
    provided.any level.meets = true ↔ ∃ p, provided = some p ∧ p.rank ≤ level.rank := by
  cases provided with
  | none => simp
  | some p => simp [Level.meets]

theorem Ordinal.decides (holder : Option Level) (o : Offering) :
    Decides (Level.ofHolder holder) o (validate holder o) := by
  unfold validate
  dsimp only
  split
  · next hcertified =>
      obtain ⟨p, hp, h⟩ := any_meets_iff.mp hcertified
      exact .certified hp h
  · next huncertified =>
      have hnew : ∀ p, o.provided = some p → (Level.ofHolder holder).rank < p.rank := by
        intro p hp
        by_contra h
        exact huncertified (any_meets_iff.mpr ⟨p, hp, by omega⟩)
      cases hr : o.required with
      | none => exact .eligible hnew (by simp [hr])
      | some r =>
          by_cases hmeets : (Level.ofHolder holder).meets r = true
          · simp only [hmeets, if_true]
            refine .eligible hnew fun r' hr' => ?_
            cases hr.symm.trans hr'
            exact of_decide_eq_true hmeets
          · simp only [hmeets]
            refine .unqualified hnew hr ?_
            simpa [Level.meets] using hmeets

/-- What a verdict rests on leaves no other verdict. -/
theorem Ordinal.Decides.unique {level : Level} {o : Offering} {v v' : Verdict} (h : Decides level o v)
    (h' : Decides level o v') : v = v' := by
  cases h with
  | certified hp hhas =>
      cases h' with
      | certified => rfl
      | unqualified hnew => exact absurd hhas (Nat.not_le_of_lt (hnew _ hp))
      | eligible hnew => exact absurd hhas (Nat.not_le_of_lt (hnew _ hp))
  | unqualified hnew hr hlacks =>
      cases h' with
      | certified hp hhas => exact absurd hhas (Nat.not_le_of_lt (hnew _ hp))
      | unqualified _ hr' => cases hr.symm.trans hr'; rfl
      | eligible _ hmet => exact absurd (hmet _ hr) (Nat.not_le_of_lt hlacks)
  | eligible hnew hmet =>
      cases h' with
      | certified hp hhas => exact absurd hhas (Nat.not_le_of_lt (hnew _ hp))
      | unqualified _ hr hlacks => exact absurd (hmet _ hr) (Nat.not_le_of_lt hlacks)
      | eligible => rfl

theorem RuleTable.rules_stock : stock.rules = stockRules :=
  List.mergeSort_of_pairwise (by decide)

/-- **The two strategies** that can be chosen decide alike. -/
theorem Strategy.validate_ofKind (kind : StrategyKind) (holder : Option Level) (o : Offering) :
    (ofKind kind).validate holder o = Ordinal.validate holder o := by
  cases kind with
  | ordinal => rfl
  | rules =>
      show (RuleTable.stock.verdict (Facts.gather holder o)) = _
      unfold RuleTable.verdict RuleTable.fire? Ordinal.validate
      rw [RuleTable.rules_stock]
      simp only [RuleTable.stockRules, List.find?, Condition.holds, Facts.gather]
      -- the conditions of the rules are the tests of the ordinal strategy, one after the other
      cases hcertified : o.provided.any (Level.ofHolder holder).meets with
      | true => rfl
      | false =>
          cases hr : o.required with
          | none => rfl
          | some r =>
              have hholder : Level.ofHolder (some (Level.ofHolder holder)) = Level.ofHolder holder := rfl
              simp only [Level.satisfies, hholder]
              cases (Level.ofHolder holder).meets r with
              | true => rfl
              | false => rfl

/-! ## Decisions -/

/-- What it takes to get a spot: the offering is published and not full, the level it confers is above the
    holder's, and the one it asks for is not. -/
structure Offering.Admits (o : Offering) (holder : Holder) : Prop where
  published : o.status = .published
  room : o.bookings.toInt < o.capacity.toInt
  fresh : ∀ p, o.provided = some p → holder.effective.rank < p.rank
  qualified : ∀ r, o.required = some r → r.rank ≤ holder.effective.rank

namespace Desk

/-- Why a holder gets no spot of what was found under an id. Each reason comes with the absence of those that
    would have been given before it. -/
inductive Refuses (id : OfferingId) (holder : Holder) : Option Offering → BookingError → Prop
  | unknown : Refuses id holder none (.notFound s!"Offering {id} not found")
  | closed {o : Offering} (hclosed : o.status ≠ .published) : Refuses id holder (some o) (.notBookable o.status)
  | full {o : Offering} (hopen : o.status = .published) (hfull : o.capacity.toInt ≤ o.bookings.toInt) :
      Refuses id holder (some o) .capacityExceeded
  | certified {o : Offering} {p : Level} (hopen : o.status = .published)
      (hroom : o.bookings.toInt < o.capacity.toInt) (hp : o.provided = some p)
      (hhas : p.rank ≤ holder.effective.rank) :
      Refuses id holder (some o) (.ineligible "holder already holds this certification or higher")
  | unqualified {o : Offering} {r : Level} (hopen : o.status = .published)
      (hroom : o.bookings.toInt < o.capacity.toInt)
      (hnew : ∀ p, o.provided = some p → holder.effective.rank < p.rank) (hr : o.required = some r)
      (hlacks : holder.effective.rank < r.rank) :
      Refuses id holder (some o) (.ineligible
        s!"Holder certification level {holder.effective} is insufficient for required level {r}")

section Judging

variable {d : Desk} {id : OfferingId} {holder : Holder} {o : Offering}
  (hd : ∀ o, d.strategy.validate holder.level o = Ordinal.validate holder.level o)
include hd

/-- The judgement on an offering that is open and not full, by the verdict on the holder. -/
theorem judge_of_decides {v : Verdict} (hopen : o.status = .published)
    (hroom : o.bookings.toInt < o.capacity.toInt) (hv : Ordinal.Decides holder.effective o v) :
    d.judge id holder (.ok (some o)) = if v.valid = true then .ok () else .error (.ineligible v.message) := by
  have hverdict : d.strategy.validate holder.level o = v :=
    (hd o).trans ((Ordinal.decides holder.level o).unique hv)
  simp only [judge, hverdict, hopen, Offering.isFull_eq_false_iff.mpr hroom]
  cases v.valid <;> rfl

theorem Refuses.judge_eq {found : Option Offering} {e : BookingError} (h : Refuses id holder found e) :
    d.judge id holder (.ok found) = .error e := by
  cases h with
  | unknown => rfl
  | closed hclosed => simp [judge, Status.acceptsBookings, hclosed]
  | full hopen hfull => simp [judge, Status.acceptsBookings, hopen, Offering.isFull_iff.mpr hfull]
  | certified hopen hroom hp hhas => exact judge_of_decides hd hopen hroom (.certified hp hhas)
  | unqualified hopen hroom hnew hr hlacks =>
      exact judge_of_decides hd hopen hroom (.unqualified hnew hr hlacks)

theorem judge_of_admits (h : o.Admits holder) :
    d.judge id holder (.ok (some o)) = .ok () :=
  judge_of_decides hd h.published h.room (.eligible h.fresh h.qualified)

/-- **Judging** is deciding: the holder is admitted, or there is a reason against it. -/
theorem judge_decides (found : Option Offering) :
    (d.judge id holder (.ok found) = .ok () ∧ ∃ o, found = some o ∧ o.Admits holder) ∨
      ∃ e, d.judge id holder (.ok found) = .error e ∧ Refuses id holder found e := by
  have hrefused : ∀ {e}, Refuses id holder found e →
      ∃ e, d.judge id holder (.ok found) = .error e ∧ Refuses id holder found e :=
    fun h => ⟨_, h.judge_eq hd, h⟩
  cases found with
  | none => exact .inr (hrefused .unknown)
  | some o =>
      by_cases hopen : o.status = .published
      · rcases Int.lt_or_le o.bookings.toInt o.capacity.toInt with hroom | hfull
        · have hverdict : Ordinal.Decides holder.effective o (Ordinal.validate holder.level o) :=
            Ordinal.decides holder.level o
          generalize Ordinal.validate holder.level o = v at hverdict
          cases hverdict with
          | certified hp hhas => exact .inr (hrefused (.certified hopen hroom hp hhas))
          | unqualified hnew hr hlacks => exact .inr (hrefused (.unqualified hopen hroom hnew hr hlacks))
          | eligible hnew hmet =>
              have hadmits : o.Admits holder := ⟨hopen, hroom, hnew, hmet⟩
              exact .inl ⟨judge_of_admits hd hadmits, o, rfl, hadmits⟩
        · exact .inr (hrefused (.full hopen hfull))
      · exact .inr (hrefused (.closed hopen))

end Judging

end Desk

/-! ## Ledger -/

/-- A look-up under a free lock shows what is stored, if anything. -/
theorem Memory.find_of_free {m : Memory} {id : OfferingId} (hheld : id ∉ m.held) :
    m.find id = ⟨.ok (m.offerings.get? id), m, []⟩ := by
  have hstep := findStep m id
  generalize m.find id = reply at hstep
  cases hstep with
  | absent hnone => rw [hnone]
  | locked _ hlocked => exact absurd hlocked hheld
  | found ho => rw [ho]

namespace Desk

open Procedure

section Follows

variable {d : Desk} {now : Timestamp} {id : OfferingId} {holder : Holder} {start w : World Memory}

/-- **Reserving** under a free lock is judging what is stored, and a holder who passes has a spot. -/
theorem follows_reserve_memory {Q : World Memory → Except BookingError Offering → Prop}
    (hm : w.state.Sound) (hheld : id ∉ w.state.held)
    (hrefused : ∀ e, d.judge id holder (.ok (w.state.offerings.get? id)) = .error e → Q w (.error e))
    (htaken : ∀ o, w.state.offerings.get? id = some o → d.judge id holder (.ok (some o)) = .ok () →
      Q { w with state := w.state.put (o.taken w.now) } (.ok (o.taken w.now))) :
    (d.reserve id holder).Follows (Memory.ledger.alone False start) Q w := by
  have hfound : Memory.ledger.find id w.state = ⟨.ok (w.state.offerings.get? id), w.state, []⟩ :=
    Memory.find_of_free hheld
  refine follows_reserve_alone ?_ ?_
  · intro e hjudge
    rw [hfound] at hjudge ⊢
    exact hrefused e hjudge
  · intro hjudge
    rw [hfound] at hjudge ⊢
    obtain ⟨o, hfind, hopen, hfree, -⟩ := of_judge_eq_ok hjudge
    have ho : w.state.offerings.get? id = some o := Except.ok.inj hfind
    have hreserved : Memory.ledger.reserve w.now id w.state =
        ⟨.ok (.reserved (o.taken w.now)), w.state.put (o.taken w.now), []⟩ := by
      have hreserve : w.state.reserve w.now id = _ := hm.reserve_eq ho hheld hopen
      rwa [hfree] at hreserve
    rw [ho] at hjudge
    rw [hreserved]
    exact htaken o ho hjudge

/-- **Booking** under a free lock does what is decided. -/
theorem follows_book_memory {Q : World Memory → Except BookingError Booking → Prop}
    (hd : ∀ o, d.strategy.validate holder.level o = Ordinal.validate holder.level o)
    (hm : w.state.Sound) (hheld : id ∉ w.state.held)
    (hrefused : ∀ e, Refuses id holder (w.state.offerings.get? id) e → Q w (.error e))
    (hbooked : ∀ o n, w.state.offerings.get? id = some o → o.Admits holder →
      Q (({ w with state := w.state.put (o.taken w.now) } : World Memory).issued o holder.firstName n)
        (.ok ⟨o.drawn holder.firstName w.generator n, id, holder.firstName, now⟩)) :
    (d.book now id holder).Follows (Memory.ledger.alone False start) Q w := by
  refine book_rule Ledger.alone_ignores_log (follows_reserve_memory hm hheld ?_ ?_)
  · intro e hjudge
    rcases judge_decides hd (w.state.offerings.get? id) with ⟨hok, -⟩ | ⟨e', herror, hreason⟩
    · cases hok.symm.trans hjudge
    · cases herror.symm.trans hjudge
      exact hrefused e hreason
  · intro o ho hjudge
    rcases judge_decides hd (some o) with ⟨-, o', heq, hadmits⟩ | ⟨e, herror, -⟩
    · cases heq
      exact follows_issue_alone fun n _ => hbooked o n ho hadmits
    · cases hjudge.symm.trans herror

end Follows

end Desk

/-! ## Booking -/

/-- A state that operations on the catalogue and bookings lead to. -/
def Memory.Reachable (m : Memory) : Prop := ∃ w : World Memory, w.Reachable ∧ w.state = m

theorem Memory.Reachable.sound {m : Memory} (h : m.Reachable) : m.Sound := by
  obtain ⟨w, hw, rfl⟩ := h
  exact hw.sound

/-- Ledgers that differ by one spot of an offering: its counter is higher by one, and nothing else is changed
    but the moment of its last change. -/
structure Memory.OneMore (m m' : Memory) (id : OfferingId) : Prop where
  rest : m' = { m with offerings := m'.offerings }
  counter : ∃ o o', m.offerings.get? id = some o ∧ o.Counted o' 1 ∧
    ∀ id', m'.offerings.get? id' = if id' = id then some o' else m.offerings.get? id'

theorem Memory.Sound.oneMore {m : Memory} {id : OfferingId} {o : Offering} (hm : m.Sound)
    (ho : m.offerings.get? id = some o) (hfree : o.isFull = false) (now : Timestamp) :
    m.OneMore (m.put (o.taken now)) id where
  rest := rfl
  counter := ⟨o, o.taken now, ho, Offering.counted_taken hfree, hm.get?_put ho _ rfl⟩

namespace Desk

/-- There is one reason against a booking, and none if the holder is admitted. -/
theorem Refuses.unique {id : OfferingId} {holder : Holder} {found : Option Offering} {e e' : BookingError}
    (h : Refuses id holder found e) (h' : Refuses id holder found e') : e = e' := by
  have hjudged : judge ⟨.ordinal, default⟩ id holder (.ok found) = .error e := h.judge_eq fun _ => rfl
  have hjudged' : judge ⟨.ordinal, default⟩ id holder (.ok found) = .error e' := h'.judge_eq fun _ => rfl
  exact Except.error.inj (hjudged.symm.trans hjudged')

theorem Refuses.not_admits {id : OfferingId} {holder : Holder} {o : Offering} {e : BookingError}
    (h : Refuses id holder (some o) e) : ¬ o.Admits holder := by
  intro hadmits
  have hjudged : judge ⟨.ordinal, default⟩ id holder (.ok (some o)) = .error e := h.judge_eq fun _ => rfl
  have hjudged' : judge ⟨.ordinal, default⟩ id holder (.ok (some o)) = .ok () :=
    judge_of_admits (fun _ => rfl) hadmits
  cases hjudged.symm.trans hjudged'

/-- How a booking ends that nobody interferes with. -/
inductive BookOutcome (now : Timestamp) (id : OfferingId) (holder : Holder) (w : World Memory) :
    Except BookingError Booking × World Memory → Prop
  | refused {e : BookingError} {log : List Event} (he : Refuses id holder (w.state.offerings.get? id) e) :
      BookOutcome now id holder w (.error e, { w with log })
  | booked {o : Offering} {b : Booking} {state : Memory} {generator : Generator} {log : List Event}
      (ho : w.state.offerings.get? id = some o) (hadmits : o.Admits holder)
      (hb : b = ⟨b.reference, id, holder.firstName, now⟩) (hstate : w.state.OneMore state id) :
      BookOutcome now id holder w
        (.ok b, { w with state, registry := w.registry.insert b.reference id, generator, log })

/-- **The run** of a booking, whichever strategy is chosen. -/
theorem book_outcome (kind : StrategyKind) (rule : ReferenceRule) (now : Timestamp) (id : OfferingId)
    (holder : Holder) {w : World Memory} (hm : w.state.Sound) (hheld : id ∉ w.state.held) :
    BookOutcome now id holder w (Memory.ledger.run (book ⟨.ofKind kind, rule⟩ now id holder) w) := by
  have hd : ∀ o, (Strategy.ofKind kind).validate holder.level o = Ordinal.validate holder.level o :=
    fun o => Strategy.validate_ofKind kind holder.level o
  -- following it alone says nothing of the log, so the outcome is shown for any
  have hfollows : (book ⟨.ofKind kind, rule⟩ now id holder).Follows (Memory.ledger.alone False w)
      (fun v x => ∀ log, BookOutcome now id holder w (x, { v with log })) w := by
    refine follows_book_memory hd hm hheld ?_ ?_
    · intro e he log
      exact .refused he
    · intro o n ho hadmits log
      have hfree : o.isFull = false := Offering.isFull_eq_false_iff.mpr hadmits.room
      obtain rfl : o.id = id := (hm id o ho).1
      exact .booked ho hadmits rfl (hm.oneMore ho hfree w.now)
  obtain ⟨v, hv, hworld⟩ := Ledger.run_of_follows hfollows
  have houtcome := hv (Memory.ledger.run (book ⟨.ofKind kind, rule⟩ now id holder) w).2.log
  rw [← hworld] at houtcome
  exact houtcome

end Desk

/-- **The decision on a booking.** Take any state of the ledger that operations lead to, and a booking that
    runs when nobody holds the lock of its offering, with either strategy and any registry and draws. It
    succeeds exactly if the offering admits the holder, and is refused with a reason exactly if that is the
    first against it. A refusal changes neither the ledger nor the registry nor the source of draws; a
    success takes one spot of the offering, enters the reference for it, and changes nothing else but the
    moment of the offering's last change. -/
theorem booking_decided (kind : StrategyKind) (rule : ReferenceRule) (now : Timestamp) (id : OfferingId)
    (holder : Holder) (w : World Memory) (hreach : w.state.Reachable) (hheld : id ∉ w.state.held) :
    let outcome := Memory.ledger.run (Desk.book ⟨.ofKind kind, rule⟩ now id holder) w
    ((∃ b, outcome.1 = .ok b) ↔ ∃ o, w.state.offerings.get? id = some o ∧ o.Admits holder) ∧
    (∀ e, outcome.1 = .error e ↔ Desk.Refuses id holder (w.state.offerings.get? id) e) ∧
    (∀ e, outcome.1 = .error e → outcome.2.state = w.state ∧ outcome.2.registry = w.registry ∧
      outcome.2.generator = w.generator) ∧
    (∀ b, outcome.1 = .ok b → b = ⟨b.reference, id, holder.firstName, now⟩ ∧
      w.state.OneMore outcome.2.state id ∧ outcome.2.registry = w.registry.insert b.reference id) := by
  intro outcome
  have houtcome : Desk.BookOutcome now id holder w outcome :=
    Desk.book_outcome kind rule now id holder hreach.sound hheld
  -- one of the two holds, and each excludes what is said of the other
  generalize outcome = x at houtcome
  cases houtcome with
  | @refused e log he =>
      refine ⟨⟨?_, ?_⟩, fun e' => ⟨?_, ?_⟩, fun e' _ => ⟨rfl, rfl, rfl⟩, ?_⟩
      · rintro ⟨b, hb⟩
        cases hb
      · rintro ⟨o, ho, hadmits⟩
        exact absurd hadmits (ho ▸ he).not_admits
      · rintro ⟨⟩
        exact he
      · intro he'
        exact congrArg Except.error (he.unique he')
      · intro b hb
        cases hb
  | booked ho hadmits hb hstate =>
      refine ⟨⟨fun _ => ⟨_, ho, hadmits⟩, fun _ => ⟨_, rfl⟩⟩, fun e => ⟨?_, ?_⟩, ?_, ?_⟩
      · intro he
        cases he
      · intro he
        exact absurd hadmits (ho ▸ he).not_admits
      · intro e he
        cases he
      · rintro b' ⟨⟩
        exact ⟨hb, hstate, rfl⟩

namespace OneLevel

/-- A course for holders of the level before the one it confers. -/
def course : Offering := Offering.course ⟨1⟩ default "Advanced Open Water" 2 (some .openWater)

theorem provided_course : course.provided = some .advancedOpenWater := by decide +kernel

/-- The course is in the ledger. -/
def world : World Memory :=
  ((Traffic.opening 0 .empty .empty default default).run default (Tested.adding ⟨course, rfl⟩)).world

theorem reachable_world : world.state.Reachable :=
  ⟨world, ⟨default, 0, .empty, .empty, default, default, Tested.adding ⟨course, rfl⟩, rfl⟩, rfl⟩

/-- Ann books. -/
def booked (kind : StrategyKind) (level : Option Level) : Except BookingError Booking × World Memory :=
  Memory.ledger.run (Desk.book ⟨.ofKind kind, default⟩ default ⟨1⟩ ⟨"Ann", level⟩) world

end OneLevel

open OneLevel in
/-- Ann gets a spot with the level before, and not with less or with more. -/
theorem course_booked :
    (∃ b, (booked .rules (some .openWater)).1 = .ok b ∧
      (booked .rules (some .openWater)).2.registry = world.registry.insert b.reference ⟨1⟩) ∧
    (booked .rules none).1 = .error (.ineligible
      "Holder certification level Non Diver is insufficient for required level Open Water") ∧
    (booked .ordinal (some .instructor)).1 = .error (.ineligible
      "holder already holds this certification or higher") := by
  have hstored : world.state.offerings.get? ⟨1⟩ = some course := by decide +kernel
  have hfresh : ∀ level : Level, level.rank < Level.advancedOpenWater.rank →
      ∀ p, course.provided = some p → level.rank < p.rank := by
    intro level hlevel p hp
    cases provided_course.symm.trans hp
    exact hlevel
  have hheld : (⟨1⟩ : OfferingId) ∉ world.state.held := nofun
  obtain ⟨hadmitted, -, -, hsuccess⟩ :=
    booking_decided .rules default default ⟨1⟩ ⟨"Ann", some .openWater⟩ world reachable_world hheld
  obtain ⟨-, hlacks, -⟩ := booking_decided .rules default default ⟨1⟩ ⟨"Ann", none⟩ world reachable_world hheld
  obtain ⟨-, hhas, -⟩ :=
    booking_decided .ordinal default default ⟨1⟩ ⟨"Ann", some .instructor⟩ world reachable_world hheld
  refine ⟨?_, ?_, ?_⟩
  · obtain ⟨b, hb⟩ := hadmitted.mpr ⟨course, hstored, rfl, by decide, hfresh _ (by decide), by decide⟩
    exact ⟨b, hb, (hsuccess b hb).2.2⟩
  · exact (hlacks _).mpr (.unqualified rfl (by decide) (hfresh _ (by decide)) rfl (by decide))
  · exact (hhas _).mpr (.certified rfl (by decide) provided_course (by decide))

end DiveSchool
