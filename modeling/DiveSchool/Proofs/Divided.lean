import DiveSchool.Proofs.Beside
import DiveSchool.Proofs.Books

/-!
# `DiveSchool.Proofs.Divided` — ledgers whose counters and records keep apart

In a divided ledger no answer about an offering depends on the records, and storing or removing a record
leaves the offerings alone. Two of its states are as good as the same to whoever asks about offerings only, if
these differ in their moments, and the records in anything. So two procedures that ask nothing of the records
can run side by side, one of them among other records than the other.

## Contents
- **Divided ledgers.** `Divided`; `Divided.Matched`, two worlds that differ in moments and records alone.
- **Side by side.** `Divided.run_onward`: what asks nothing of the records.
- **Offerings.** `SameOfferings`.
- **Ledgers.** `Memory.divided`, and `Drill.divided` with faults in front of another one.
-/

namespace DiveSchool

/-! ## Divided ledgers -/

/-- Whether a request is about the records. -/
def Request.recorded : Request → Bool
  | store _ | remove _ => true
  | _ => false

/-- Two replies are alike as `f` has it, they leave states that are the same to `Same`, and neither concerns
    the records. -/
structure Replied {σ α β : Type} (Same : σ → σ → Prop) (record? : σ → String → Option Booking) (f : α → β)
    (s t : σ) (reply reply' : Reply σ (Except Failure α)) : Prop where
  answer : reply.answer.map f = reply'.answer.map f
  same : Same reply.state reply'.state
  records_left : record? reply.state = record? s
  records_right : record? reply'.state = record? t

/-- A ledger whose counters and records have nothing to do with each other. -/
structure Divided (σ : Type) where
  ledger : Ledger σ
  /-- Two states answer alike about every offering, up to moments. -/
  Same : σ → σ → Prop
  record? : σ → String → Option Booking
  /-- What is kept of a record: all of it, but the moment may be rounded. -/
  kept : Booking → Booking
  kept_eq : ∀ b, kept b = { b with issuedAt := (kept b).issuedAt }
  found : ∀ {s t : σ} (id : OfferingId), Same s t →
    Replied Same record? (Option.map Offering.timeless) s t (ledger.find id s) (ledger.find id t)
  reserved : ∀ {s t : σ} (now now' : Timestamp) (id : OfferingId), Same s t →
    Replied Same record? Reservation.timeless s t (ledger.reserve now id s) (ledger.reserve now' id t)
  released : ∀ {s t : σ} (now now' : Timestamp) (id : OfferingId), Same s t →
    Replied Same record? Freeing.timeless s t (ledger.release now id s) (ledger.release now' id t)
  stored : ∀ {s t : σ} {b : Booking} {new : Bool}, Same s t → (ledger.store b t).answer = .ok new →
    Same s (ledger.store b t).state ∧ (new = true ↔ record? t b.reference = none) ∧
      record? (ledger.store b t).state =
        if new then Function.update (record? t) b.reference (some (kept b)) else record? t
  removed : ∀ {s t : σ} {reference : String} {found : Option Booking}, Same s t →
    (ledger.remove reference t).answer = .ok found →
    Same s (ledger.remove reference t).state ∧ found = record? t reference ∧
      record? (ledger.remove reference t).state = Function.update (record? t) reference none

namespace Divided

variable {σ : Type} (D : Divided σ)

/-- Two worlds that answer alike about every offering and issue the same references. -/
structure Matched (w v : World σ) : Prop where
  same : D.Same w.state v.state
  registry_eq : w.registry = v.registry
  generator_eq : w.generator = v.generator

/-- Two matched worlds have become two others, with no record changed. -/
structure Onward (w v w' v' : World σ) : Prop where
  matched : D.Matched w' v'
  records_left : D.record? w'.state = D.record? w.state
  records_right : D.record? v'.state = D.record? v.state

variable {D} {w v w' v' : World σ}

theorem Onward.refl (h : D.Matched w v) : D.Onward w v w v := ⟨h, rfl, rfl⟩

theorem Onward.trans {w'' v'' : World σ} (h : D.Onward w v w' v') (h' : D.Onward w' v' w'' v'') :
    D.Onward w v w'' v'' :=
  ⟨h'.matched, h'.records_left.trans h.records_left, h'.records_right.trans h.records_right⟩

/-- **One request** that is not about records is answered alike. -/
theorem Matched.serve (h : D.Matched w v) {r : Request} (hr : r.recorded = false) :
    r.Alike (D.ledger.serve r w).1 (D.ledger.serve r v).1 ∧
      D.Onward w v (D.ledger.serve r w).2 (D.ledger.serve r v).2 := by
  obtain ⟨hsame, hregistry, hgenerator⟩ := h
  cases r with
  | find id =>
      obtain ⟨hanswer, hsame, hleft, hright⟩ := D.found id hsame
      exact ⟨hanswer, ⟨hsame, hregistry, hgenerator⟩, hleft, hright⟩
  | reserve id =>
      obtain ⟨hanswer, hsame, hleft, hright⟩ := D.reserved w.now v.now id hsame
      exact ⟨hanswer, ⟨hsame, hregistry, hgenerator⟩, hleft, hright⟩
  | release id =>
      obtain ⟨hanswer, hsame, hleft, hright⟩ := D.released w.now v.now id hsame
      exact ⟨hanswer, ⟨hsame, hregistry, hgenerator⟩, hleft, hright⟩
  | draw =>
      have hsuffix : w.generator.draw.1 = v.generator.draw.1 := by rw [hgenerator]
      have hafter : w.generator.draw.2 = v.generator.draw.2 := by rw [hgenerator]
      exact ⟨hsuffix, ⟨hsame, hregistry, hafter⟩, rfl, rfl⟩
  | claim reference id =>
      simp only [Ledger.serve, hregistry]
      cases v.registry.claim? reference id with
      | none => exact ⟨rfl, ⟨hsame, hregistry, hgenerator⟩, rfl, rfl⟩
      | some registry => exact ⟨rfl, ⟨hsame, rfl, hgenerator⟩, rfl, rfl⟩
  | enter reference id =>
      exact ⟨trivial, ⟨hsame, congrArg (·.insert reference id) hregistry, hgenerator⟩, rfl, rfl⟩
  | forget reference =>
      exact ⟨congrArg (fun registry : Registry => registry.get? reference) hregistry,
        ⟨hsame, congrArg (·.erase reference) hregistry, hgenerator⟩, rfl, rfl⟩
  | log event => exact ⟨trivial, ⟨hsame, hregistry, hgenerator⟩, rfl, rfl⟩
  | store b => cases hr
  | remove reference => cases hr

/-- Every state that answers like itself will do on both sides. -/
theorem Matched.self {w : World σ} (h : D.Same w.state w.state) : D.Matched w w := ⟨h, rfl, rfl⟩

theorem Matched.logged (h : D.Matched w v) (event event' : Event) :
    D.Matched (D.ledger.serve (.log event) w).2 (D.ledger.serve (.log event') v).2 :=
  ⟨h.same, h.registry_eq, h.generator_eq⟩

/-! ## Side by side -/

/-- **Two procedures side by side** that ask nothing of the records come to related results in matched
    worlds. -/
theorem run_onward {α β : Type} {Q : α → β → Prop} {p : Procedure α} {q : Procedure β}
    (hbeside : p.Beside (·.recorded = false) Request.Alike (Procedure.Both Q) q) (h : D.Matched w v) :
    Q (D.ledger.run p w).1 (D.ledger.run q v).1 ∧ D.Onward w v (D.ledger.run p w).2 (D.ledger.run q v).2 := by
  refine hbeside.run (W := D.Onward w v) ?_ ?_ (fun _ _ hboth => hboth.run) (.refl h)
  · intro r w' v' hr honward
    obtain ⟨hanswer, hnext⟩ := honward.matched.serve hr
    exact ⟨hanswer, honward.trans hnext⟩
  · intro event event' w' v' honward
    exact ⟨honward.matched.logged event event', honward.records_left, honward.records_right⟩

end Divided

/-! ## Offerings -/

namespace Offering

variable {o o' : Offering}

/-- Of two offerings that may be there, and are the same up to their moments, either none is there or both. -/
theorem alike_cases {x y : Option Offering} (h : x.map timeless = y.map timeless) :
    (x = none ∧ y = none) ∨ ∃ o o', x = some o ∧ y = some o' ∧ o.timeless = o'.timeless := by
  cases x with
  | none => exact .inl ⟨rfl, Option.map_eq_none_iff.mp h.symm⟩
  | some o =>
      obtain ⟨o', hright, hsame⟩ := Option.map_eq_some_iff.mp h.symm
      exact .inr ⟨o, o', rfl, hright, hsame.symm⟩

theorem timeless_increment? (h : o.timeless = o'.timeless) (now now' : Timestamp) :
    (o.increment? now).map timeless = (o'.increment? now').map timeless := by
  have hfull : o.isFull = o'.isFull := eq_of_timeless _ h
  have hnext : ({ o with bookings := o.bookings + 1, updatedAt := now } : Offering).timeless =
      ({ o' with bookings := o'.bookings + 1, updatedAt := now' } : Offering).timeless :=
    eq_of_timeless (fun o => ({ o with bookings := o.bookings + 1 } : Offering).timeless) h
  unfold increment?
  rw [hfull]
  split
  · rfl
  · exact congrArg some hnext

theorem timeless_decrement? (h : o.timeless = o'.timeless) (now now' : Timestamp) :
    (o.decrement? now).map timeless = (o'.decrement? now').map timeless := by
  have hbookings : o.bookings = o'.bookings := eq_of_timeless _ h
  have hnext : ({ o with bookings := o.bookings - 1, updatedAt := now } : Offering).timeless =
      ({ o' with bookings := o'.bookings - 1, updatedAt := now' } : Offering).timeless :=
    eq_of_timeless (fun o => ({ o with bookings := o.bookings - 1 } : Offering).timeless) h
  unfold decrement?
  rw [hbookings] at hnext ⊢
  split
  · rfl
  · exact congrArg some hnext

end Offering

/-- Two tables hold the same offerings up to their moments. -/
def SameOfferings (t t' : Table OfferingId Offering) : Prop :=
  ∀ id, (t.get? id).map Offering.timeless = (t'.get? id).map Offering.timeless

/-- Alike offerings are written on both sides. -/
theorem SameOfferings.insert {t t' : Table OfferingId Offering} {o o' : Offering} (h : SameOfferings t t')
    (ho : o.timeless = o'.timeless) : SameOfferings (t.insert o.id o) (t'.insert o'.id o') := by
  have hid : o.id = o'.id := Offering.eq_of_timeless _ ho
  intro id
  rw [Table.get?_insert, Table.get?_insert, hid]
  split
  · exact congrArg some ho
  · exact h id

/-! ## Ledgers -/

namespace Memory

variable {α β : Type} {m m' : Memory} {id : OfferingId}

/-- Two ledgers hold the same offerings up to their moments, and the same locks are held. -/
structure Same (m m' : Memory) : Prop where
  offerings : SameOfferings m.offerings m'.offerings
  held_eq : m.held = m'.held

/-- The records under their references. -/
def record? (m : Memory) : String → Option Booking := m.records.get?

theorem same_self (m : Memory) : m.Same m := ⟨fun _ => rfl, rfl⟩

theorem Same.unchanged (h : m.Same m') {f : α → β} {x y : Except Failure α} (hxy : x.map f = y.map f)
    (events events' : List Event) : Replied Same record? f m m' ⟨x, m, events⟩ ⟨y, m', events'⟩ :=
  ⟨hxy, h, rfl, rfl⟩

theorem Same.put (h : m.Same m') {o o' : Offering} (ho : o.timeless = o'.timeless) :
    (m.put o).Same (m'.put o') := ⟨h.offerings.insert ho, h.held_eq⟩

theorem Same.underLock (h : m.Same m') {f : α → β} {absent : Except Failure α}
    {body body' : Offering → Reply Memory (Except Failure α)}
    (hbody : ∀ o o', o.timeless = o'.timeless → Replied Same record? f m m' (body o) (body' o')) :
    Replied Same record? f m m' (m.underLock id absent body) (m'.underLock id absent body') := by
  unfold Memory.underLock
  rcases Offering.alike_cases (h.offerings id) with ⟨hleft, hright⟩ | ⟨o, o', hleft, hright, hsame⟩
  · rw [hleft, hright]
    exact h.unchanged rfl _ _
  · simp only [hleft, hright, h.held_eq]
    split
    · exact h.unchanged rfl _ _
    · exact hbody o o' hsame

theorem Same.find (h : m.Same m') (id : OfferingId) :
    Replied Same record? (Option.map Offering.timeless) m m' (m.find id) (m'.find id) := by
  refine h.underLock fun o o' ho => h.unchanged ?_ _ _
  exact congrArg (fun o => Except.ok (some o)) ho

/-- An offering that was changed alike is checked and written on both sides. -/
theorem Same.written (h : m.Same m') {f : α → β} {g : Offering → α} {o o' : Offering}
    (ho : o.timeless = o'.timeless) (hg : f (g o) = f (g o')) :
    Replied Same record? f m m'
      (match o.checkInvariant with
        | .error e => ⟨.error e, m.put o, []⟩
        | .ok () => ⟨.ok (g o), m.put o, []⟩)
      (match o'.checkInvariant with
        | .error e => ⟨.error e, m'.put o', []⟩
        | .ok () => ⟨.ok (g o'), m'.put o', []⟩) := by
  have hcheck : o.checkInvariant = o'.checkInvariant := Offering.eq_of_timeless _ ho
  rw [hcheck]
  cases o'.checkInvariant with
  | error e => exact ⟨rfl, h.put ho, rfl, rfl⟩
  | ok _ => exact ⟨congrArg Except.ok hg, h.put ho, rfl, rfl⟩

theorem Same.reserve (h : m.Same m') (now now' : Timestamp) (id : OfferingId) :
    Replied Same record? Reservation.timeless m m' (m.reserve now id) (m'.reserve now' id) := by
  refine h.underLock fun o o' ho => ?_
  have hcheck : o.checkInvariant = o'.checkInvariant := Offering.eq_of_timeless _ ho
  have hstatus : o.status = o'.status := Offering.eq_of_timeless _ ho
  rw [hcheck, hstatus]
  cases o'.checkInvariant with
  | error e => exact h.unchanged rfl _ _
  | ok _ =>
      dsimp only
      split
      · refine h.unchanged ?_ _ _
        exact congrArg (fun o => Except.ok (Reservation.notBookable o)) ho
      · rcases Offering.alike_cases (Offering.timeless_increment? ho now now') with
          ⟨hleft, hright⟩ | ⟨taken, taken', hleft, hright, hsame⟩
        · rw [hleft, hright]
          refine h.unchanged ?_ _ _
          exact congrArg (fun o => Except.ok (Reservation.full o)) ho
        · rw [hleft, hright]
          exact h.written hsame (congrArg Reservation.reserved hsame)

theorem Same.release (h : m.Same m') (now now' : Timestamp) (id : OfferingId) :
    Replied Same record? Freeing.timeless m m' (m.release now id) (m'.release now' id) := by
  refine h.underLock fun o o' ho => ?_
  have hcheck : o.checkInvariant = o'.checkInvariant := Offering.eq_of_timeless _ ho
  rw [hcheck]
  cases o'.checkInvariant with
  | error e => exact h.unchanged rfl _ _
  | ok _ =>
      rcases Offering.alike_cases (Offering.timeless_decrement? ho now now') with
        ⟨hleft, hright⟩ | ⟨freed, freed', hleft, hright, hsame⟩
      · rw [hleft, hright]
        refine h.unchanged ?_ _ _
        exact congrArg (fun o => Except.ok (Freeing.empty o)) ho
      · rw [hleft, hright]
        exact h.written hsame (congrArg Freeing.released hsame)

theorem Same.store {s t : Memory} {b : Booking} {new : Bool} (h : s.Same t)
    (hanswer : (t.store b).answer = .ok new) :
    s.Same (t.store b).state ∧ (new = true ↔ t.records.get? b.reference = none) ∧
      (t.store b).state.records.get? =
        if new then Function.update t.records.get? b.reference (some b) else t.records.get? := by
  unfold Memory.store Table.contains at hanswer ⊢
  cases hthere : t.records.get? b.reference with
  | none =>
      simp only [hthere] at hanswer ⊢
      cases hanswer
      exact ⟨⟨h.offerings, h.held_eq⟩, by simp, Table.get?_insert_eq_update _ _ _⟩
  | some other =>
      simp only [hthere] at hanswer ⊢
      cases hanswer
      exact ⟨h, by simp, rfl⟩

/-- The ledger in memory is divided, whatever it holds. -/
def divided : Divided Memory where
  ledger := ledger
  Same := Same
  record? := record?
  kept b := b
  kept_eq _ := rfl
  found id h := h.find id
  reserved now now' id h := h.reserve now now' id
  released now now' id h := h.release now now' id
  stored h hanswer := h.store hanswer
  removed {s t reference found} h hanswer := by
    cases hanswer
    exact ⟨⟨h.offerings, h.held_eq⟩, rfl, Table.get?_erase_eq_update _ _⟩

end Memory

/-- The fault that is taken leaves the rivals alone. -/
theorem Faults.rivals_take {f f' : Faults} {point : FaultPoint} {failure : Failure}
    (h : f.take point = some (failure, f')) : f'.rivals = f.rivals := by
  obtain ⟨hit, -, htaken⟩ := Option.map_eq_some_iff.mp h
  cases htaken
  rfl

namespace Drill

variable {σ α β : Type} {D : Divided σ} {d d' : Drill σ}

/-- What is behind the faults is the same, and so are the faults; no rival is about to act. -/
structure Same (D : Divided σ) (d d' : Drill σ) : Prop where
  inner : D.Same d.inner d'.inner
  faults_eq : d.faults = d'.faults
  calm : d'.faults.rivals = []

/-- The records behind the faults. -/
def record? (D : Divided σ) (d : Drill σ) : String → Option Booking := D.record? d.inner

theorem same_self (h : D.Same d.inner d.inner) (hcalm : d.faults.rivals = []) : Same D d d :=
  ⟨h, rfl, hcalm⟩

/-- An operation that is told to fail does so on both sides. -/
theorem Same.guarded (h : Same D d d') (point : FaultPoint) {act act' : σ → Reply σ (Except Failure α)}
    {f : α → β} (hact : Replied D.Same D.record? f d.inner d'.inner (act d.inner) (act' d'.inner)) :
    Replied (Same D) (record? D) f d d' (d.guarded point act) (d'.guarded point act') := by
  unfold Drill.guarded
  rw [h.faults_eq]
  cases htake : d'.faults.take point with
  | none => exact ⟨hact.answer, ⟨hact.same, rfl, h.calm⟩, hact.records_left, hact.records_right⟩
  | some hit => exact ⟨rfl, ⟨h.inner, rfl, (Faults.rivals_take htake).trans h.calm⟩, rfl, rfl⟩

theorem Same.find (h : Same D d d') (id : OfferingId) :
    Replied (Same D) (record? D) (Option.map Offering.timeless) d d' (d.find D.ledger id)
      (d'.find D.ledger id) := by
  unfold Drill.find
  rw [h.faults_eq]
  cases d'.faults.stale with
  | none => exact h.guarded .find (D.found id h.inner)
  | some answer => exact h.guarded .find ⟨rfl, h.inner, rfl, rfl⟩

/-- An operation that succeeds is that of the ledger behind. -/
theorem guarded_of_ok {point : FaultPoint} {act : σ → Reply σ (Except Failure α)} {a : α}
    (h : (d.guarded point act).answer = .ok a) :
    (act d.inner).answer = .ok a ∧ (d.guarded point act).state = { d with inner := (act d.inner).state } := by
  unfold Drill.guarded at h ⊢
  cases htake : d.faults.take point with
  | none =>
      rw [htake] at h
      exact ⟨h, rfl⟩
  | some hit =>
      rw [htake] at h
      cases h

/-- A divided ledger is divided behind faults too, as long as no rival is about to act. -/
def divided (D : Divided σ) (now : Timestamp) : Divided (Drill σ) where
  ledger := ledger D.ledger now
  Same := Same D
  record? := record? D
  kept := D.kept
  kept_eq := D.kept_eq
  found id h := h.find id
  reserved now now' id h := h.guarded .reserve (D.reserved now now' id h.inner)
  released now now' id h := h.guarded .release (D.released now now' id h.inner)
  stored {s t b new} h hanswer := by
    obtain ⟨hcalm, hstate⟩ := store_of_calm now D.ledger b h.calm
    obtain ⟨hbehind, hafter⟩ := guarded_of_ok (hcalm.symm.trans hanswer)
    obtain ⟨hsame, hnew, hrecord⟩ := D.stored h.inner hbehind
    have hnext : (t.store D.ledger now b).state = { t with inner := (D.ledger.store b t.inner).state } :=
      hstate.trans hafter
    show Same D s (t.store D.ledger now b).state ∧ _ ∧ record? D (t.store D.ledger now b).state = _
    rw [hnext]
    exact ⟨⟨hsame, h.faults_eq, h.calm⟩, hnew, hrecord⟩
  removed {s t reference found} h hanswer := by
    obtain ⟨hbehind, hafter⟩ := guarded_of_ok hanswer
    obtain ⟨hsame, hfound, hrecord⟩ := D.removed h.inner hbehind
    show Same D s (t.guarded .remove (D.ledger.remove reference)).state ∧ _ ∧
      record? D (t.guarded .remove (D.ledger.remove reference)).state = _
    rw [hafter]
    exact ⟨⟨hsame, h.faults_eq, h.calm⟩, hfound, hrecord⟩

end Drill

end DiveSchool
