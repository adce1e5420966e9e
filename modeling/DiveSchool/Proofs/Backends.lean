import Mathlib.Data.List.Forall2
import DiveSchool.Proofs.Beside
import DiveSchool.Proofs.Effect
import DiveSchool.Proofs.Errand
import DiveSchool.Proofs.Relational

/-!
# `DiveSchool.Proofs.Backends` — the two backends are one store

The ledger in memory keeps its checks in the offering and makes them under a lock; the database keeps
them in the constraints of its tables and makes them on a locked row, in another order and with other
outcomes in between. Where no lock is held and no statement fails, both are functions of the same rows, so
two worlds that hold the same offerings up to their moments (`World.Twin`) report the same for every
errand and are twins again.

## Contents
- **Twins.** `World.Twin`, and what a change of one row on both sides leaves of it (`Twin.next`).
- **Requests.** A request is answered alike by twins (`Twin.serve`).
- **Agreement.** `Errand.Agree`: which reports of the two backends say the same.
- **Errands.** One errand (`Twin.perform`).
- **Main result.** `backends_agree`.
-/

namespace DiveSchool

/-! ## Twins -/

/-- A world in memory and one in a database hold the same offerings up to their moments, issue references
    from the same draws and the same registry, and nothing disturbs either: no lock is held, no statement
    fails, and the tables keep their constraints. -/
structure World.Twin (w : World Memory) (v : World Database) : Prop where
  unlocked : w.state.held = []
  ready : v.state.Ready
  sound : v.state.tables.Sound
  rows : ∀ id, (w.state.offerings.get? id).map Offering.timeless =
    (v.state.tables.offerings.get? id).map Offering.timeless
  registry : w.registry = v.registry
  generator : w.generator = v.generator

namespace World.Twin

variable {w w' : World Memory} {v v' : World Database} {id : OfferingId}

/-- The constraints of the tables hold in memory too. -/
theorem memory_sound (h : w.Twin v) : w.state.Sound := by
  intro id o ho
  have hrow := h.rows id
  rw [ho] at hrow
  obtain ⟨o', ho', hsame⟩ := Option.map_eq_some_iff.mp hrow.symm
  have hid : o'.id = o.id := Offering.eq_of_timeless _ hsame
  exact ⟨hid.symm.trans (h.sound.ids id o' ho'),
    Offering.withinCapacity_of_timeless hsame (h.sound.counters id o' ho')⟩

theorem clock (h : w.Twin v) (now now' : Timestamp) :
    World.Twin { w with now } { v with now := now' } :=
  ⟨h.unlocked, h.ready, h.sound, h.rows, h.registry, h.generator⟩

/-- **A change of one row on both sides** leaves twins if the rows are alike afterwards. -/
theorem next (h : w.Twin v) {t' : Tables} (id : OfferingId) (hheld : w'.state.held = w.state.held)
    (hstate : v'.state = { v.state with tables := t' }) (hsound : t'.Sound)
    (hmemory : ∀ id', id' ≠ id → w'.state.offerings.get? id' = w.state.offerings.get? id')
    (htables : ∀ id', id' ≠ id → t'.offerings.get? id' = v.state.tables.offerings.get? id')
    (hrow : (w'.state.offerings.get? id).map Offering.timeless =
      (t'.offerings.get? id).map Offering.timeless)
    (hregistry : w'.registry = v'.registry) (hgenerator : w'.generator = v'.generator) :
    w'.Twin v' where
  unlocked := hheld.trans h.unlocked
  ready := hstate ▸ h.ready.withTables t'
  sound := by rwa [hstate]
  rows id' := by
    rw [hstate]
    by_cases hid : id' = id
    · rw [hid]
      exact hrow
    · rw [hmemory id' hid, htables id' hid]
      exact h.rows id'
  registry := hregistry
  generator := hgenerator

end World.Twin

/-! ## Requests -/

namespace Memory

/-- Where no lock is held, an operation answers by the row. -/
theorem ByRow.answer_of_unlocked {m : Memory} {id : OfferingId} {α : Type}
    {f : Option Offering → Except Failure α} {row? : α → Option Offering}
    {reply : Reply Memory (Except Failure α)} (h : m.ByRow id f row? reply) (hheld : m.held = []) :
    reply.answer = f (m.offerings.get? id) := by
  rw [h.answer]
  cases ho : m.offerings.get? id with
  | none => simp only [find, underLock, ho, Except.bind]
  | some o =>
      have hfree : id ∉ m.held := by
        rw [hheld]
        exact List.not_mem_nil
      rw [find_eq ho hfree]
      rfl

end Memory

namespace Tables

variable {t : Tables} {now : Timestamp} {id : OfferingId}

/-- A request changes no row but the one it is about. -/
theorem Answers.frame {r : Request} {x : r.Answer} (h : t.Answers now r x) (ht : t.Sound)
    (hne : r.changes? ≠ some id) : (t.after r x).offerings.get? id = t.offerings.get? id := by
  cases h with
  | @reserved _ o ho _ _ =>
      have hsame : (o.taken now).stored.id = o.id := rfl
      exact ht.get?_put_of_ne ho hsame fun hid => hne (congrArg some hid.symm)
  | @released _ o ho _ =>
      have hsame : (o.vacated now).stored.id = o.id := rfl
      exact ht.get?_put_of_ne ho hsame fun hid => hne (congrArg some hid.symm)
  | _ => rfl

theorem Answers.find {x : (Request.find id).Answer} (h : t.Answers now (.find id) x) :
    x = .ok (t.offerings.get? id) := by
  cases h
  rfl

/-- An attempt to take a spot answers by the row, and the row is the one in the answer. -/
theorem Answers.reserve {x : (Request.reserve id).Answer} (h : t.Answers now (.reserve id) x)
    (ht : t.Sound) : ∃ y, x = .ok y ∧
      y.timeless = .of default ((t.offerings.get? id).map Offering.timeless) ∧
      (t.after (.reserve id) x).offerings.get? id = y.row? := by
  cases h with
  | nothingToReserve ho => exact ⟨_, rfl, by rw [ho]; rfl, ho⟩
  | closed ho hstatus =>
      refine ⟨_, rfl, ?_, ho⟩
      rw [ho, ← Reservation.timeless_of now, Reservation.of, if_pos hstatus]
  | full ho hstatus hfull =>
      refine ⟨_, rfl, ?_, ho⟩
      rw [ho, ← Reservation.timeless_of now, Reservation.of, if_neg (not_not_intro hstatus), if_pos hfull]
  | reserved ho hstatus hfree =>
      refine ⟨_, rfl, ?_, ht.get?_put_self ho rfl⟩
      rw [ho, ← Reservation.timeless_of now, Reservation.of, if_neg (not_not_intro hstatus), hfree]
      rfl

/-- An attempt to free a spot answers by the row, and the row is the one in the answer. -/
theorem Answers.release {x : (Request.release id).Answer} (h : t.Answers now (.release id) x)
    (ht : t.Sound) : ∃ y, x = .ok y ∧
      y.timeless = .of default ((t.offerings.get? id).map Offering.timeless) ∧
      (t.after (.release id) x).offerings.get? id = y.row? := by
  cases h with
  | nothingToRelease ho => exact ⟨_, rfl, by rw [ho]; rfl, ho⟩
  | empty ho hempty =>
      refine ⟨_, rfl, ?_, ho⟩
      rw [ho, ← Freeing.timeless_of now, Freeing.of, if_pos hempty]
  | released ho hbooked =>
      refine ⟨_, rfl, ?_, ht.get?_put_self ho rfl⟩
      rw [ho, ← Freeing.timeless_of now, Freeing.of, if_neg (Int.ne_of_gt hbooked)]
      rfl

end Tables

namespace World.Twin

variable {w : World Memory} {v : World Database}

/-- A request about one offering leaves twins, if the rows under its id are alike afterwards. -/
theorem served (h : w.Twin v) {r : Request} (id : OfferingId) (hr : ∀ id', id' ≠ id → r.changes? ≠ some id')
    (hrow : ((Memory.ledger.serve r w).2.state.offerings.get? id).map Offering.timeless =
      ((v.state.tables.after r (Database.ledger.serve r v).1).offerings.get? id).map Offering.timeless)
    (hregistry : (Memory.ledger.serve r w).2.registry = (Database.ledger.serve r v).2.registry)
    (hgenerator : (Memory.ledger.serve r w).2.generator = (Database.ledger.serve r v).2.generator) :
    (Memory.ledger.serve r w).2.Twin (Database.ledger.serve r v).2 := by
  obtain ⟨hanswer, hstate, _⟩ := h.ready.serve h.sound r
  have heffect := h.memory_sound.requestEffect none r
  refine h.next id heffect.held hstate (h.sound.after hanswer) ?_ ?_ hrow hregistry hgenerator
  · exact fun id' hid => (heffect.frame h.memory_sound (hr id' hid)).1
  · exact fun id' hid => hanswer.frame h.sound (hr id' hid)

/-- Twins find the same. -/
theorem find (h : w.Twin v) (id : OfferingId) : ∃ x y,
    (Memory.ledger.serve (.find id) w).1 = .ok x ∧ (Database.ledger.serve (.find id) v).1 = .ok y ∧
    x.map Offering.timeless = y.map Offering.timeless ∧
    (Memory.ledger.serve (.find id) w).2.Twin (Database.ledger.serve (.find id) v).2 := by
  obtain ⟨hanswer, _, _⟩ := h.ready.serve h.sound (.find id)
  have hx := (Memory.byRow_find w.state id).answer_of_unlocked h.unlocked
  have hrow := (Memory.byRow_find w.state id).row
  rw [hx] at hrow
  refine ⟨_, _, hx, hanswer.find, h.rows id, ?_⟩
  refine h.served (r := .find id) id (fun _ _ => nofun) ?_ h.registry h.generator
  exact (congrArg (Option.map Offering.timeless) hrow).trans (h.rows id)

/-- Twins take spots alike. -/
theorem reserve (h : w.Twin v) (id : OfferingId) : ∃ x y,
    (Memory.ledger.serve (.reserve id) w).1 = .ok x ∧ (Database.ledger.serve (.reserve id) v).1 = .ok y ∧
    x.timeless = y.timeless ∧
    (Memory.ledger.serve (.reserve id) w).2.Twin (Database.ledger.serve (.reserve id) v).2 := by
  obtain ⟨hanswer, _, _⟩ := h.ready.serve h.sound (.reserve id)
  obtain ⟨y, hy, htimeless, hrow'⟩ := hanswer.reserve h.sound
  have hreserve := h.memory_sound.byRow_reserve w.now id
  have hx := hreserve.answer_of_unlocked h.unlocked
  have hrow := hreserve.row
  rw [hx] at hrow
  have hsame : (Reservation.of w.now (w.state.offerings.get? id)).timeless = y.timeless := by
    rw [Reservation.timeless_of, h.rows id, htimeless]
  refine ⟨_, y, hx, hy, hsame, ?_⟩
  refine h.served (r := .reserve id) id (fun _ hne hid => hne (Option.some.inj hid).symm) ?_
    h.registry h.generator
  rw [hrow', ← Reservation.row?_timeless, ← hsame, Reservation.row?_timeless]
  exact congrArg (Option.map Offering.timeless) hrow

/-- Twins free spots alike. -/
theorem release (h : w.Twin v) (id : OfferingId) : ∃ x y,
    (Memory.ledger.serve (.release id) w).1 = .ok x ∧ (Database.ledger.serve (.release id) v).1 = .ok y ∧
    x.timeless = y.timeless ∧
    (Memory.ledger.serve (.release id) w).2.Twin (Database.ledger.serve (.release id) v).2 := by
  obtain ⟨hanswer, _, _⟩ := h.ready.serve h.sound (.release id)
  obtain ⟨y, hy, htimeless, hrow'⟩ := hanswer.release h.sound
  have hrelease := h.memory_sound.byRow_release w.now id
  have hx := hrelease.answer_of_unlocked h.unlocked
  have hrow := hrelease.row
  rw [hx] at hrow
  have hsame : (Freeing.of w.now (w.state.offerings.get? id)).timeless = y.timeless := by
    rw [Freeing.timeless_of, h.rows id, htimeless]
  refine ⟨_, y, hx, hy, hsame, ?_⟩
  refine h.served (r := .release id) id (fun _ hne hid => hne (Option.some.inj hid).symm) ?_
    h.registry h.generator
  rw [hrow', ← Freeing.row?_timeless, ← hsame, Freeing.row?_timeless]
  exact congrArg (Option.map Offering.timeless) hrow

/-- A request that changes no row leaves twins, if it does the same to the registry and the draws. -/
theorem quietly (h : w.Twin v) {r : Request} (hr : r.changes? = none)
    (hregistry : (Memory.ledger.serve r w).2.registry = (Database.ledger.serve r v).2.registry)
    (hgenerator : (Memory.ledger.serve r w).2.generator = (Database.ledger.serve r v).2.generator) :
    (Memory.ledger.serve r w).2.Twin (Database.ledger.serve r v).2 := by
  have hnone : ∀ id, r.changes? ≠ some id := by
    intro id
    rw [hr]
    nofun
  have hmemory := ((h.memory_sound.requestEffect none r).frame h.memory_sound (hnone default)).1
  have htables := (h.ready.serve h.sound r).1.frame h.sound (hnone default)
  refine h.served default (fun id' _ => hnone id') ?_ hregistry hgenerator
  rw [htables]
  exact (congrArg (Option.map Offering.timeless) hmemory).trans (h.rows default)

/-- **One request** is answered alike by twins and leaves twins. -/
theorem serve (h : w.Twin v) (r : Request) :
    r.Alike (Memory.ledger.serve r w).1 (Database.ledger.serve r v).1 ∧
      (Memory.ledger.serve r w).2.Twin (Database.ledger.serve r v).2 := by
  cases r with
  | find id =>
      obtain ⟨x, y, hx, hy, hsame, htwin⟩ := h.find id
      rw [hx, hy]
      exact ⟨congrArg Except.ok hsame, htwin⟩
  | reserve id =>
      obtain ⟨x, y, hx, hy, hsame, htwin⟩ := h.reserve id
      rw [hx, hy]
      exact ⟨congrArg Except.ok hsame, htwin⟩
  | release id =>
      obtain ⟨x, y, hx, hy, hsame, htwin⟩ := h.release id
      rw [hx, hy]
      exact ⟨congrArg Except.ok hsame, htwin⟩
  | store b => exact ⟨trivial, h.quietly rfl h.registry h.generator⟩
  | remove reference => exact ⟨trivial, h.quietly rfl h.registry h.generator⟩
  | draw =>
      have hdraw := congrArg Generator.draw h.generator
      exact ⟨congrArg Prod.fst hdraw, h.quietly rfl h.registry (congrArg Prod.snd hdraw)⟩
  | claim reference id =>
      have hquiet := h.quietly (r := .claim reference id) rfl
      simp only [Ledger.serve, h.registry] at hquiet ⊢
      cases hclaim : v.registry.claim? reference id with
      | none =>
          simp only [hclaim] at hquiet ⊢
          exact ⟨rfl, hquiet h.registry h.generator⟩
      | some registry =>
          simp only [hclaim] at hquiet ⊢
          exact ⟨rfl, hquiet trivial h.generator⟩
  | enter reference id =>
      exact ⟨trivial, h.quietly rfl (congrArg (·.insert reference id) h.registry) h.generator⟩
  | forget reference =>
      exact ⟨congrArg (fun registry : Registry => registry.get? reference) h.registry,
        h.quietly rfl (congrArg (·.erase reference) h.registry) h.generator⟩
  | log event => exact ⟨trivial, h.quietly rfl h.registry h.generator⟩

/-- What is logged leaves twins. -/
theorem log (h : w.Twin v) (event event' : Event) :
    (Memory.ledger.serve (.log event) w).2.Twin (Database.ledger.serve (.log event') v).2 :=
  ⟨h.unlocked, h.ready, h.sound, h.rows, h.registry, h.generator⟩

end World.Twin

/-! ## Agreement -/

/-- A dealing makes the same requests at whatever moment and on alike answers ends alike. -/
theorem Dealing.beside (d : Desk) (now now' : Timestamp) (v : Dealing) :
    ((v.call now).procedure d).Beside (fun _ => True) Request.Alike
      (Procedure.Both fun e e' => e.timeless = e'.timeless) ((v.call now').procedure d) := by
  have hM : ∀ _ : Request, True := fun _ => trivial
  cases v with
  | book id holder =>
      refine (Desk.beside_book hM d now now' id holder).bind fun x y hxy => ?_
      exact Procedure.beside_done (congrArg Ending.booked hxy)
  | release id =>
      refine (Desk.beside_release trivial).bind fun x y hxy => ?_
      exact Procedure.beside_done (congrArg Ending.freed hxy)
  | cancel reference =>
      refine (Desk.beside_cancel hM reference).bind fun x y hxy => ?_
      exact Procedure.beside_done (congrArg Ending.freed hxy)
  | availability id =>
      refine (Desk.beside_availability trivial).bind fun x y hxy => ?_
      exact Procedure.beside_done (congrArg Ending.shown hxy)

/-- Which reports of the ledger in memory and of the one in a database say the same: the offerings are
    the same up to their moments; an unknown id is a failure of the catalogue in memory and no row of the
    database; an offering outside the invariant is refused by both for the same reason, and one whose id is
    in use by both for their own. -/
inductive Errand.Agree : Errand → Report → Report → Prop
  | added {o row : Offering} (h : o.timeless = row.timeless) :
      Agree (.order (.add o)) (.added (.ok ())) (.inserted (.ok row))
  | corrupt {o : Offering} {e : Failure} (h : o.checkInvariant = .error e) :
      Agree (.order (.add o)) (.added (.error e)) (.inserted (.error e))
  | duplicate {o : Offering} {e : Failure} (h : o.checkInvariant = .ok ()) (he : e.kind = .database) :
      Agree (.order (.add o)) (.added (.error (Offering.duplicate o.id))) (.inserted (.error e))
  | resized {id : OfferingId} {capacity : Int32} {o row : Offering} (h : o.timeless = row.timeless) :
      Agree (.order (.setCapacity id capacity)) (.changed (.ok o)) (.updated (.ok (some row)))
  | refused {id : OfferingId} {capacity : Int32} {e : Failure} (he : e.kind = .validation) :
      Agree (.order (.setCapacity id capacity)) (.changed (.error e)) (.updated (.error e))
  | notResized {id : OfferingId} {capacity : Int32} :
      Agree (.order (.setCapacity id capacity)) (.changed (.error (Offering.unknown id)))
        (.updated (.ok none))
  | moved {id : OfferingId} {status : Status} {o row : Offering} (h : o.timeless = row.timeless) :
      Agree (.order (.setStatus id status)) (.changed (.ok o)) (.updated (.ok (some row)))
  | notMoved {id : OfferingId} {status : Status} :
      Agree (.order (.setStatus id status)) (.changed (.error (Offering.unknown id)))
        (.updated (.ok none))
  | found {id : OfferingId} {x y : Option Offering}
      (h : x.map Offering.timeless = y.map Offering.timeless) :
      Agree (.find id) (.found (.ok x)) (.found (.ok y))
  | reserved {id : OfferingId} {x y : Reservation} (h : x.timeless = y.timeless) :
      Agree (.reserve id) (.reserved (.ok x)) (.reserved (.ok y))
  | freed {id : OfferingId} {x y : Freeing} (h : x.timeless = y.timeless) :
      Agree (.release id) (.freed (.ok x)) (.freed (.ok y))
  | ended {v : Dealing} {e e' : Ending} (h : e.timeless = e'.timeless) :
      Agree (.deal v) (.ended e) (.ended e')

/-! ## Errands -/

namespace World.Twin

variable {w : World Memory} {v : World Database}

/-- An order that makes the same of one row on both sides leaves twins. -/
theorem ordered (h : w.Twin v) (o : Order) {v' : World Database} {t' : Tables}
    (hstate : v'.state = { v.state with tables := t' }) (hsound : t'.Sound)
    (htables : ∀ id, id ≠ o.target → t'.offerings.get? id = v.state.tables.offerings.get? id)
    (hrow : ((o.apply w).state.offerings.get? o.target).map Offering.timeless =
      (t'.offerings.get? o.target).map Offering.timeless)
    (hregistry : v'.registry = v.registry) (hgenerator : v'.generator = v.generator) :
    (o.apply w).Twin v' := by
  have heffect := h.memory_sound.orderEffect o
  refine h.next o.target heffect.held hstate hsound ?_ htables hrow ?_ ?_
  · exact fun id hid => (heffect.frame h.memory_sound (Ne.symm hid)).1
  · rw [Order.registry_apply, h.registry, hregistry]
  · rw [Order.generator_apply, h.generator, hgenerator]

/-- What a session comes to on the state of a world. -/
theorem attended (h : w.Twin v) {α : Type} {s : Session α} {Q : Except Failure α → Tables → Prop}
    (hs : s.Meets Q v.state.tables) : ∃ t', (Database.attend s v).2.state = { v.state with tables := t' } ∧
      Q (Database.attend s v).1 t' := by
  obtain ⟨x, t', hrun, hQ⟩ := hs v.state h.ready rfl
  refine ⟨t', ?_, ?_⟩
  · simp only [Database.attend, Database.reply, hrun, World.afterReply]
  · simpa only [Database.attend, Database.reply, hrun] using hQ

/-- What an order makes of the tables agrees with what it makes of the ledger in memory. -/
def Matches (w : World Memory) (v : World Database) (o : Order) (y : Report) (t' : Tables) : Prop :=
  (Errand.order o).Agree (Memory.office.order o w).1 y ∧ t'.Sound ∧
    (∀ id, id ≠ o.target → t'.offerings.get? id = v.state.tables.offerings.get? id) ∧
    ((o.apply w).state.offerings.get? o.target).map Offering.timeless =
      (t'.offerings.get? o.target).map Offering.timeless

theorem unchanged (h : w.Twin v) {o : Order} {x y : Report} (hx : (Memory.office.order o w).1 = x)
    (hagree : (Errand.order o).Agree x y)
    (hrow : (o.apply w).state.offerings.get? o.target = w.state.offerings.get? o.target) :
    Matches w v o y v.state.tables :=
  ⟨hx ▸ hagree, h.sound, fun _ _ => rfl, by rw [hrow, h.rows]⟩

theorem rewritten {o : Order} {x y : Report} {row : Offering} (hx : (Memory.office.order o w).1 = x)
    (hagree : (Errand.order o).Agree x y) (hid : row.id = o.target)
    (hsound : (v.state.tables.put row).Sound)
    (hrow : ((o.apply w).state.offerings.get? o.target).map Offering.timeless = some row.timeless) :
    Matches w v o y (v.state.tables.put row) := by
  refine ⟨hx ▸ hagree, hsound, fun id hne => ?_, ?_⟩
  · rw [Tables.get?_put, hid, if_neg hne]
  · rw [hrow, Tables.get?_put, hid, if_pos rfl]
    rfl

/-- An offering is added to both catalogues or refused by both. -/
theorem meets_add (h : w.Twin v) (o : Offering) : (Database.createOffering o).Meets
    (fun y t' => Matches w v (.add o) (.inserted y) t') v.state.tables := by
  have hx := Memory.answer_insert w.state o
  have hrow := Memory.row_insert w.state o
  have hsame := h.rows o.id
  rw [hx] at hrow
  unfold Memory.adding at hx hrow
  cases hcheck : o.checkInvariant with
  | error e =>
      rw [hcheck] at hx hrow
      refine Session.meets_bind (Session.meets_lift ?_)
      rw [hcheck]
      exact h.unchanged (congrArg Report.added hx) (.corrupt hcheck) hrow
  | ok _ =>
      have hwithin := Offering.checkInvariant_eq_ok_iff.mp hcheck
      rw [hcheck] at hx hrow
      refine Database.meets_createOffering hwithin ?_ ?_
      · intro o' ho'
        rw [ho'] at hsame
        obtain ⟨o'', ho'', -⟩ := Option.map_eq_some_iff.mp hsame
        simp only [ho'', Option.isSome_some, if_true] at hx hrow
        exact h.unchanged (congrArg Report.added hx) (.duplicate hcheck rfl) (hrow.trans ho''.symm)
      · intro hnew
        rw [hnew] at hsame
        have hnone := Option.map_eq_none_iff.mp hsame
        simp only [hnone, Option.isSome_none, Bool.false_eq_true, if_false] at hx hrow
        exact rewritten (congrArg Report.added hx) (.added rfl) rfl (h.sound.put hwithin)
          (congrArg (Option.map Offering.timeless) hrow)

/-- A capacity is changed in both catalogues or refused by both for the same reason. -/
theorem meets_setCapacity (h : w.Twin v) (now : Timestamp) (id : OfferingId) (capacity : Int32) :
    (Database.setCapacity now id capacity).Meets
      (fun y t' => Matches w v (.setCapacity id capacity) (.updated y) t') v.state.tables := by
  have hresize := h.memory_sound.byRow_setCapacity w.now id capacity
  have hx := hresize.answer_of_unlocked h.unlocked
  have hrow := hresize.row
  have hsame := h.rows id
  rw [hx] at hrow
  refine Database.meets_setCapacity h.sound ?_ ?_ ?_
  · intro hnone
    rw [hnone] at hsame
    replace hsame := Option.map_eq_none_iff.mp hsame
    rw [hsame] at hx hrow
    exact h.unchanged (congrArg Report.changed hx) .notResized (hrow.trans hsame.symm)
  · intro o' e ho' hcheck
    rw [ho'] at hsame
    obtain ⟨o, ho, htimeless⟩ := Option.map_eq_some_iff.mp hsame
    have hrefused : o.resized w.now capacity = .error e := by
      rw [Offering.resized, Offering.eq_of_timeless (·.checkCapacity capacity) htimeless, hcheck]
      rfl
    simp only [ho, Memory.resizing, hrefused] at hx hrow
    exact h.unchanged (congrArg Report.changed hx) (.refused (Offering.kind_of_checkCapacity hcheck))
      (hrow.trans ho.symm)
  · intro o' ho' hcheck
    rw [ho'] at hsame
    obtain ⟨o, ho, htimeless⟩ := Option.map_eq_some_iff.mp hsame
    have hresized : o.resized w.now capacity = .ok { o with capacity, updatedAt := w.now } := by
      rw [Offering.resized, Offering.eq_of_timeless (·.checkCapacity capacity) htimeless, hcheck]
      rfl
    have hrows : ({ o with capacity, updatedAt := w.now } : Offering).timeless =
        ({ o' with capacity, updatedAt := now } : Offering).stored.timeless :=
      congrArg (fun o : Offering => { o with capacity }) htimeless
    simp only [ho, Memory.resizing, hresized] at hx hrow
    exact rewritten (congrArg Report.changed hx) (.resized hrows) (h.sound.ids id o' ho')
      (h.sound.put_resized ho' hcheck)
      ((congrArg (Option.map Offering.timeless) hrow).trans (congrArg some hrows))

/-- A status is changed in both catalogues, or neither has the offering. -/
theorem meets_setStatus (h : w.Twin v) (now : Timestamp) (id : OfferingId) (status : Status) :
    (Database.setStatus now id status).Meets
      (fun y t' => Matches w v (.setStatus id status) (.updated y) t') v.state.tables := by
  have hmove := h.memory_sound.byRow_setStatus w.now id status
  have hx := hmove.answer_of_unlocked h.unlocked
  have hrow := hmove.row
  have hsame := h.rows id
  rw [hx] at hrow
  refine Database.meets_setStatus h.sound ?_ ?_
  · intro hnone
    rw [hnone] at hsame
    replace hsame := Option.map_eq_none_iff.mp hsame
    rw [hsame] at hx hrow
    exact h.unchanged (congrArg Report.changed hx) .notMoved (hrow.trans hsame.symm)
  · intro o' ho'
    rw [ho'] at hsame
    obtain ⟨o, ho, htimeless⟩ := Option.map_eq_some_iff.mp hsame
    have hrows : (o.moved w.now status).timeless =
        ({ o' with status, updatedAt := now } : Offering).stored.timeless :=
      congrArg (fun o : Offering => { o with status }) htimeless
    simp only [ho, Memory.moving] at hx hrow
    exact rewritten (congrArg Report.changed hx) (.moved hrows) (h.sound.ids id o' ho')
      (h.sound.put_moved ho') ((congrArg (Option.map Offering.timeless) hrow).trans (congrArg some hrows))

/-- **One order** is reported alike by twins and leaves twins. -/
theorem order (h : w.Twin v) (o : Order) :
    (Errand.order o).Agree (Memory.office.order o w).1 (Database.office.order o v).1 ∧
      (Memory.office.order o w).2.Twin (Database.office.order o v).2 := by
  cases o with
  | add o =>
      obtain ⟨t', hstate, hagree, hsound, htables, hrow⟩ := h.attended (h.meets_add o)
      exact ⟨hagree, h.ordered (.add o) hstate hsound htables hrow rfl rfl⟩
  | setCapacity id capacity =>
      obtain ⟨t', hstate, hagree, hsound, htables, hrow⟩ :=
        h.attended (h.meets_setCapacity v.now id capacity)
      exact ⟨hagree, h.ordered (.setCapacity id capacity) hstate hsound htables hrow rfl rfl⟩
  | setStatus id status =>
      obtain ⟨t', hstate, hagree, hsound, htables, hrow⟩ := h.attended (h.meets_setStatus v.now id status)
      exact ⟨hagree, h.ordered (.setStatus id status) hstate hsound htables hrow rfl rfl⟩

/-- **One dealing** ends alike at twins and leaves twins. -/
theorem deal (h : w.Twin v) (d : Desk) (now now' : Timestamp) (dealing : Dealing) :
    ((Memory.ledger.run ((dealing.call now).procedure d) w).1.timeless =
      (Database.ledger.run ((dealing.call now').procedure d) v).1.timeless) ∧
    (Memory.ledger.run ((dealing.call now).procedure d) w).2.Twin
      (Database.ledger.run ((dealing.call now').procedure d) v).2 := by
  have hbeside := dealing.beside d now now'
  exact hbeside.run (W := World.Twin) (Q := fun e e' => e.timeless = e'.timeless)
    (fun r w v _ h => h.serve r) (fun event event' w v h => h.log event event')
    (fun p q h w v htwin => h.run w v htwin) h

/-- **One errand** is reported alike by twins and leaves twins, at whatever moments it is performed. -/
theorem perform (h : w.Twin v) (d : Desk) (now now' : Timestamp) (e : Errand) :
    e.Agree (Memory.office.perform d now e w).1 (Database.office.perform d now' e v).1 ∧
      (Memory.office.perform d now e w).2.Twin (Database.office.perform d now' e v).2 := by
  replace h := h.clock now now'
  cases e with
  | order o => exact h.order o
  | find id =>
      obtain ⟨x, y, hx, hy, hsame, htwin⟩ := h.find id
      refine ⟨?_, htwin⟩
      show (Errand.find id).Agree (.found _) (.found _)
      exact hx ▸ hy ▸ .found hsame
  | reserve id =>
      obtain ⟨x, y, hx, hy, hsame, htwin⟩ := h.reserve id
      refine ⟨?_, htwin⟩
      show (Errand.reserve id).Agree (.reserved _) (.reserved _)
      exact hx ▸ hy ▸ .reserved hsame
  | release id =>
      obtain ⟨x, y, hx, hy, hsame, htwin⟩ := h.release id
      refine ⟨?_, htwin⟩
      show (Errand.release id).Agree (.freed _) (.freed _)
      exact hx ▸ hy ▸ .freed hsame
  | deal dealing =>
      obtain ⟨hending, htwin⟩ := h.deal d now now' dealing
      exact ⟨.ended hending, htwin⟩

end World.Twin

/-! ## Main result -/

/-- **The two backends are one store.** From twins, the same errands in the same order, at whatever
    moments either backend performs them, are reported alike one by one and leave twins: orders of the
    catalogue with any capacity, look-ups and attempts to take and to free a spot on any ids, and bookings,
    releases, cancellations and availabilities at the desk. -/
theorem backends_agree (d : Desk) {w : World Memory} {v : World Database} (h : w.Twin v)
    {es es' : List (Timestamp × Errand)} (hsame : es.map Prod.snd = es'.map Prod.snd) :
    List.Forall₂ (fun x y => x.1 = y.1 ∧ x.1.Agree x.2 y.2) (Memory.office.reports d es w)
        (Database.office.reports d es' v) ∧
      (Memory.office.after d es w).Twin (Database.office.after d es' v) := by
  induction es generalizing w v es' with
  | nil =>
      rw [List.map_nil] at hsame
      rw [List.map_eq_nil_iff.mp hsame.symm]
      exact ⟨.nil, h⟩
  | cons e es ih =>
      obtain ⟨now, e⟩ := e
      obtain ⟨⟨now', e'⟩, es', rfl, he, hes⟩ := List.map_eq_cons_iff.mp hsame.symm
      obtain rfl : e' = e := he
      obtain ⟨hagree, htwin⟩ := h.perform d now now' e'
      obtain ⟨hrest, hafter⟩ := ih htwin hes.symm
      exact ⟨.cons ⟨rfl, hagree⟩ hrest, hafter⟩

/-! ## One spot -/

namespace OneSpot

/-- The trip in memory, with nothing booked. -/
def inMemory : World Memory := ⟨(Memory.empty 0).put (trip 0), .empty, default, default, []⟩

/-- The trip in a database, written down a minute later. -/
def inDatabase : World Database :=
  ⟨{ tables := Tables.empty.put { trip 0 with createdAt := ⟨60, 0⟩ } }, .empty, default, default, []⟩

theorem twin : inMemory.Twin inDatabase where
  unlocked := rfl
  ready := ⟨rfl, rfl, rfl, rfl⟩
  sound := Tables.sound_empty.put (by decide)
  rows id := by
    simp only [inMemory, inDatabase, Memory.get?_put, Tables.get?_put]
    split <;> rfl
  registry := rfl
  generator := rfl

/-- Errands of every sort: the trip is booked out and offered with more spots, an offering is refused
    because its id is in use, and another because it is corrupt. -/
def errands : List Errand :=
  [.deal (.book ⟨1⟩ default), .deal (.book ⟨1⟩ default), .order (.setCapacity ⟨1⟩ 0),
   .order (.setCapacity ⟨1⟩ 2), .reserve ⟨1⟩, .order (.add (trip 0)), .order (.add (trip 2)),
   .order (.setStatus ⟨2⟩ .archived), .deal (.cancel "REEF_GUEST_100"), .release ⟨1⟩, .find ⟨1⟩,
   .deal (.availability ⟨2⟩)]

end OneSpot

open OneSpot in
/-- The errands at once in memory and a minute later in the database. -/
theorem one_spot_at_both :
    let es := errands.map fun e => ((default : Timestamp), e)
    let es' := errands.map fun e => ((⟨60, 0⟩ : Timestamp), e)
    inMemory.Twin inDatabase ∧ es.map Prod.snd = es'.map Prod.snd ∧
      List.Forall₂ (fun x y => x.1 = y.1 ∧ x.1.Agree x.2 y.2) (Memory.office.reports desk es inMemory)
        (Database.office.reports desk es' inDatabase) ∧
      (Memory.office.after desk es inMemory).Twin (Database.office.after desk es' inDatabase) :=
  ⟨twin, rfl, backends_agree desk twin rfl⟩

end DiveSchool
