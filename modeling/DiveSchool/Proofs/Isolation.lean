import Mathlib.Data.List.Forall2
import DiveSchool.Proofs.Akin

/-!
# `DiveSchool.Proofs.Isolation` — offerings do not influence each other

All offerings share one source of random words and one registry of references, and two offerings of one
name even compete for the same references. Nothing of that reaches from one offering to another: whoever
asks about an offering hears the same, references aside, in the run in which nothing is ever asked about
any other. Both runs start in one world and soon differ in all that is shared; what they keep in common is
`World.Akin`.

The runs are lists of errands performed one after another, or of moves of any number of callers. A draw is
repeated as long as it collides, so a caller may need other numbers of steps in the two runs; therefore
moves are compared by what a call has come to, or comes to if it goes on alone (`Traffic.prospect`).

## Contents
- **Errands.** `Akin.perform`, `spares_perform`, and lists of errands (`Akin.performAll`).
- **One step.** `Procedure.advance`, what serving a caller does to what is left of its call.
- **Thinning.** `Traffic.thinned`: the moves that concern one offering.
- **Moves.** `Thin`, kept by every move (`Thin.step`) and so by every run (`Thin.run`).
- **Main result.** `offerings_are_isolated`.
-/

namespace DiveSchool

/-! ## Errands -/

namespace World

variable {a : OfferingId} {w w' : World Memory}

/-- What is asked about the offering alone, and settled on both sides, comes to the same bare result. -/
theorem Akin.run (h : Akin a w w') {α β : Type} {bare : α → β} {p q : Procedure α}
    (hp : p.Beside (·.asks? = some a) Request.Alike (Procedure.Settled a bare) q) :
    bare (Memory.ledger.run p w).1 = bare (Memory.ledger.run q w').1 ∧
      Akin a (Memory.ledger.run p w).2 (Memory.ledger.run q w').2 := by
  refine hp.run (W := Akin a) (Q := fun x y => bare x = bare y) (fun r w w' hr h => h.serve hr)
    (fun e e' w w' h => ⟨h.sound, h.sound', h.row, h.locked⟩) ?_ h
  rintro p q ⟨b, hp, hq⟩ w w' h
  obtain ⟨hspares, hx⟩ := hp.spares h.sound
  obtain ⟨hspares', hy⟩ := hq.spares h.sound'
  exact ⟨hx.trans hy.symm, ((h.of_spares hspares).symm.of_spares hspares').symm⟩

/-- **An errand about the offering** is reported alike in akin worlds and leaves them akin. -/
theorem Akin.perform (h : Akin a w w') (d : Desk) (now now' : Timestamp) {e : Errand}
    (he : e.target? = some a) :
    (Memory.office.perform d now e w).1.bare = (Memory.office.perform d now' e w').1.bare ∧
      Akin a (Memory.office.perform d now e w).2 (Memory.office.perform d now' e w').2 := by
  replace h := h.clock now now'
  cases e with
  | order o =>
      obtain ⟨hreport, hafter⟩ := h.order (Option.some.inj he)
      cases o <;> exact ⟨hreport, hafter⟩
  | find id =>
      obtain ⟨hanswer, hafter⟩ := h.serve (r := .find id) he
      exact ⟨congrArg Report.found hanswer, hafter⟩
  | reserve id =>
      obtain ⟨hanswer, hafter⟩ := h.serve (r := .reserve id) he
      exact ⟨congrArg Report.reserved hanswer, hafter⟩
  | release id =>
      obtain ⟨hanswer, hafter⟩ := h.serve (r := .release id) he
      exact ⟨congrArg Report.freed hanswer, hafter⟩
  | deal v =>
      obtain ⟨hending, hafter⟩ := h.run (v.beside_at d now now' he)
      exact ⟨congrArg Report.ended hending, hafter⟩

/-- An errand about another offering spares this one. -/
theorem spares_perform (hm : w.state.Sound) (d : Desk) (now : Timestamp) {e : Errand} {b : OfferingId}
    (he : e.target? = some b) (hne : b ≠ a) : Spares a w (Memory.office.perform d now e w).2 := by
  have hother : some b ≠ some a := fun h => hne (Option.some.inj h)
  have hclock : Spares a w { w with now } := ⟨hm, rfl, rfl⟩
  refine hclock.trans ?_
  cases e with
  | order o =>
      have hspares := spares_apply hclock.sound (o := o) fun h => hne ((Option.some.inj he).symm.trans h)
      cases o <;> exact hspares
  | find id => exact spares_respond hclock.sound none (r := .find id) nofun
  | reserve id =>
      exact spares_respond hclock.sound none (r := .reserve id) fun h => hother (he.symm.trans h)
  | release id =>
      exact spares_respond hclock.sound none (r := .release id) fun h => hother (he.symm.trans h)
  | deal v => exact ((v.follows_aside d now he hne).spares hclock.sound).1

/-- **Errands one after another**: leaving out those about other offerings changes no bare report. -/
theorem Akin.performAll (h : Akin a w w') (d : Desk) {es es' : List (Timestamp × Errand)}
    (htarget : ∀ e ∈ es, e.2.target?.isSome = true)
    (hkept : es'.map Prod.snd = (es.map Prod.snd).filter (·.target? = some a)) :
    ((Memory.office.reports d es w).filter (·.1.target? = some a)).map (fun x => (x.1, x.2.bare)) =
        (Memory.office.reports d es' w').map (fun x => (x.1, x.2.bare)) ∧
      Akin a (Memory.office.after d es w) (Memory.office.after d es' w') := by
  induction es generalizing w w' es' with
  | nil =>
      obtain rfl : es' = [] := List.map_eq_nil_iff.mp hkept
      exact ⟨rfl, h⟩
  | cons e es ih =>
      obtain ⟨now, e⟩ := e
      have hrest := fun e he => htarget e (List.mem_cons_of_mem _ he)
      by_cases he : e.target? = some a
      · -- the errand is performed in both runs
        rw [List.map_cons, List.filter_cons_of_pos (by simpa using he)] at hkept
        obtain ⟨⟨now', e'⟩, es', rfl, hsame, hrest'⟩ := List.map_eq_cons_iff.mp hkept
        obtain rfl : e' = e := hsame
        obtain ⟨hreport, hafter⟩ := h.perform d now now' he
        obtain ⟨hreports, hafter⟩ := ih hafter hrest hrest'
        refine ⟨?_, hafter⟩
        simp only [Office.reports]
        rw [List.filter_cons_of_pos (by simpa using he), List.map_cons, List.map_cons, hreports, hreport]
      · -- it is performed in one run only, which spares the offering
        rw [List.map_cons, List.filter_cons_of_neg (by simpa using he)] at hkept
        obtain ⟨b, hb⟩ := Option.isSome_iff_exists.mp (htarget _ List.mem_cons_self)
        have hne : b ≠ a := fun hba => he (hb.trans (congrArg some hba))
        obtain ⟨hreports, hafter⟩ := ih (h.of_spares (spares_perform h.sound d now hb hne)) hrest hkept
        refine ⟨?_, hafter⟩
        simp only [Office.reports]
        rw [List.filter_cons_of_neg (by simpa using he), hreports]

end World

/-! ## One step -/

namespace Procedure

variable {α β : Type} {a : OfferingId} {w w' : World Memory}

/-- What is left of a procedure, and the world, after one more step of it. -/
def advance (fault : Option Failure) : Procedure α → World Memory → Procedure α × World Memory
  | done x, w => (done x, w)
  | step r next, w => (next (respond fault r w).1, (respond fault r w).2)

theorem Follows.advance {Q : Unit → α → Prop} {p : Procedure α} (hp : p.Follows (aside a) Q ())
    (hm : w.state.Sound) (fault : Option Failure) :
    (p.advance fault w).1.Follows (aside a) Q () ∧ World.Spares a w (p.advance fault w).2 := by
  cases p with
  | done x => exact ⟨hp, hm, rfl, rfl⟩
  | step r next => exact ⟨hp.2 _ trivial, World.spares_respond hm fault hp.1⟩

/-- **One step on both sides** leaves two procedures side by side and the worlds akin. -/
theorem Beside.advance {bare : α → β} {p q : Procedure α}
    (hp : p.Beside (·.asks? = some a) Request.Alike (Settled a bare) q) (h : World.Akin a w w')
    (fault : Option Failure) :
    (p.advance fault w).1.Beside (·.asks? = some a) Request.Alike (Settled a bare)
        (q.advance fault w').1 ∧
      World.Akin a (p.advance fault w).2 (q.advance fault w').2 := by
  cases hp with
  | rest hsettled =>
      obtain ⟨b, hp, hq⟩ := hsettled
      obtain ⟨hp', hspares⟩ := hp.advance h.sound fault
      obtain ⟨hq', hspares'⟩ := hq.advance h.sound' fault
      exact ⟨.rest ⟨b, hp', hq'⟩, ((h.of_spares hspares).symm.of_spares hspares').symm⟩
  | step hr hnext =>
      obtain ⟨hanswer, hafter⟩ := h.respond fault hr
      exact ⟨hnext _ _ hanswer, hafter⟩
  | @log e e' next next' hnext =>
      have hspares := World.spares_respond h.sound fault (r := .log e) (a := a) nofun
      have hspares' := World.spares_respond h.sound' fault (r := .log e') (a := a) nofun
      exact ⟨hnext, ((h.of_spares hspares).symm.of_spares hspares').symm⟩

end Procedure

/-! ## Thinning -/

/-- The offering that a call without records is about, unless it is a cancellation. -/
def Call.target? : Call → Option OfferingId
  | .book _ id _ | .release id | .availability id => some id
  | _ => none

theorem Call.exists_dealing {c : Call} {a : OfferingId} (h : c.target? = some a) :
    ∃ v now, c = Dealing.call now v ∧ v.target? = some a := by
  cases c with
  | book now id holder => exact ⟨.book id holder, now, rfl, h⟩
  | release id => exact ⟨.release id, default, rfl, h⟩
  | availability id => exact ⟨.availability id, default, rfl, h⟩
  | _ => cases h

namespace Traffic

/-- The callers on an offering, in the order in which they came. -/
def callersOn (t : Traffic) (a : OfferingId) : List Caller :=
  t.callers.filter fun c => c.call.target? = some a

/-- The place of a caller among those on an offering. -/
def placeOn (t : Traffic) (a : OfferingId) (i : Nat) : Nat :=
  ((t.callers.take i).filter fun c => c.call.target? = some a).length

/-- A move in a run in which nothing happens to other offerings; one that concerns another offering is left
    out. -/
def keep (t : Traffic) (a : OfferingId) : Move → List Move
  | .order o => if o.target = a then [.order o] else []
  | .write o => if o.val.id = a then [.write o] else []
  | .call c => if c.target? = some a then [.call c] else []
  | .serve i fault =>
    match t.callers[i]? with
    | some c => if c.call.target? = some a then [.serve (t.placeOn a i) fault] else []
    | none => []
  | .lock held => [.lock held]
  | .clock now => [.clock now]

/-- A run without the moves that concern other offerings. -/
def thinned (d : Desk) (a : OfferingId) : Traffic → List Move → List Move
  | _, [] => []
  | t, mv :: moves => t.keep a mv ++ thinned d a (t.step d mv) moves

/-- What a call has come to, or comes to if it goes on alone. -/
def prospect (t : Traffic) (c : Caller) : Ending := (Memory.ledger.run c.rest t.world).1

/-- Serving a caller, whether anything is left of its call or not. -/
theorem step_serve_eq {d : Desk} {t : Traffic} {i : Nat} {c : Caller} (hi : t.callers[i]? = some c)
    (fault : Option Failure) : ∃ trail, t.step d (.serve i fault) =
      ⟨(c.rest.advance fault t.world).2,
        t.callers.set i ⟨c.call, trail, (c.rest.advance fault t.world).1⟩, t.pending⟩ := by
  obtain ⟨call, trail, rest⟩ := c
  cases rest with
  | done e =>
      refine ⟨trail, ?_⟩
      obtain ⟨hlt, hget⟩ := List.getElem?_eq_some_iff.mp hi
      have hset : t.callers.set i ⟨call, trail, .done e⟩ = t.callers := by
        rw [← hget, List.set_getElem_self]
      simp only [step, hi, Procedure.advance, hset]
  | step r next => exact ⟨_, step_serve ⟨hi, rfl⟩⟩

end Traffic

/-! ## Orders -/

/-- What is yet to be written after an order is what the order was about. -/
theorem Order.target_of_tested? {m : Memory} {order : Order} {p : Tested} (h : order.tested? m = some p) :
    p.val.id = order.target := by
  rw [(Order.tested?_eq_some_iff.mp h).1]
  rfl

namespace World

variable {a : OfferingId} {w w' : World Memory}

/-- The first step of an order about another offering spares this one. -/
theorem spares_begun (hm : w.state.Sound) {o : Order} (ho : o.target ≠ a) : Spares a w (o.begun w) := by
  have heffect := hm.begunEffect o
  obtain ⟨hrow, hheld⟩ := heffect.frame hm ho
  exact ⟨heffect.sound hm, hrow, hheld⟩

theorem spares_write (hm : w.state.Sound) {p : Tested} (hp : p.val.id ≠ a) : Spares a w (p.write w) :=
  ⟨hm.write p, Memory.get?_write hp, rfl⟩

/-- The first step of an order about the offering leaves akin worlds akin. -/
theorem Akin.begun (h : Akin a w w') {o : Order} (ho : o.target = a) : Akin a (o.begun w) (o.begun w') := by
  cases o with
  | add o => exact h
  | _ => exact (h.order ho).2

/-- In akin worlds the same offerings pass the test. -/
theorem Akin.tested? (h : Akin a w w') {o : Order} (ho : o.target = a) :
    o.tested? w.state = o.tested? w'.state := by
  have hfree : w.state.offerings.get? a = none ↔ w'.state.offerings.get? a = none := by
    rw [← Option.map_eq_none_iff, h.row, Option.map_eq_none_iff]
  refine Option.ext fun p => ?_
  rw [Order.tested?_eq_some_iff, Order.tested?_eq_some_iff]
  refine and_congr_right fun hadd => ?_
  have hid : p.val.id = a := (congrArg Order.target hadd).symm.trans ho
  rw [hid]
  exact hfree

/-- An offering that is written is the same in both worlds. -/
theorem Akin.write (h : Akin a w w') {p : Tested} (hid : p.val.id = a) : Akin a (p.write w) (p.write w') where
  sound := h.sound.write p
  sound' := h.sound'.write p
  row := by
    show ((w.state.put p.val).offerings.get? a).map _ = ((w'.state.put p.val).offerings.get? a).map _
    rw [Memory.get?_put, Memory.get?_put, if_pos hid.symm, if_pos hid.symm]
  locked := h.locked

end World

/-! ## Moves -/

/-- Two calls are the same, and what is left of them comes to the same bare ending. -/
def Caller.Level (a : OfferingId) (c c' : Caller) : Prop :=
  c.call = c'.call ∧
    c.rest.Beside (·.asks? = some a) Request.Alike (Procedure.Settled a Ending.bare) c'.rest

/-- In the second run nothing happens to other offerings: the worlds are akin, it has the callers on the
    offering and no others, those others are not concerned with the offering, and it has what is yet to be
    written under the id of the offering. -/
structure Thin (a : OfferingId) (t u : Traffic) : Prop where
  akin : World.Akin a t.world u.world
  callers : List.Forall₂ (Caller.Level a) (t.callersOn a) u.callers
  others : ∀ c ∈ t.callers, c.call.target? ≠ some a →
    c.rest.Follows (Procedure.aside a) (fun _ _ => True) ()
  pending : u.pending = t.pending.filter (·.val.id = a)

namespace Thin

variable {a : OfferingId} {d : Desk} {t u : Traffic}

/-- Where a list has `x`, a related list has a related entry. -/
theorem forall₂_split {α β : Type} {R : α → β → Prop} {l₁ l₂ : List α} {x : α} {l' : List β}
    (h : List.Forall₂ R (l₁ ++ x :: l₂) l') : ∃ l₁' y l₂', l' = l₁' ++ y :: l₂' ∧
      List.Forall₂ R l₁ l₁' ∧ R x y ∧ List.Forall₂ R l₂ l₂' := by
  induction l₁ generalizing l' with
  | nil =>
      obtain ⟨y, l₂', hxy, hrest, rfl⟩ := List.forall₂_cons_left_iff.mp h
      exact ⟨[], y, l₂', rfl, .nil, hxy, hrest⟩
  | cons z l₁ ih =>
      obtain ⟨z', l', hz, hrest, rfl⟩ := List.forall₂_cons_left_iff.mp h
      obtain ⟨l₁', y, l₂', rfl, hl₁, hxy, hl₂⟩ := ih hrest
      exact ⟨z' :: l₁', y, l₂', rfl, .cons hz hl₁, hxy, hl₂⟩

theorem filter_set {α : Type} (p : α → Bool) {l : List α} {i : Nat} {x : α} (hi : i < l.length) :
    (l.set i x).filter p = (l.take i).filter p ++ [x].filter p ++ (l.drop (i + 1)).filter p := by
  rw [List.set_eq_take_append_cons_drop, if_pos hi, ← List.filter_append, ← List.filter_append,
    List.append_assoc, List.singleton_append]

/-- The callers on the offering, before and after one of them has been served. -/
theorem callersOn_set {i : Nat} {c : Caller} (hi : t.callers[i]? = some c) (hc : c.call.target? = some a)
    (c₁ : Caller) (hcall : c₁.call = c.call) : ∃ l₁ l₂, l₁.length = t.placeOn a i ∧
      t.callersOn a = l₁ ++ c :: l₂ ∧
      (t.callers.set i c₁).filter (fun c => c.call.target? = some a) = l₁ ++ c₁ :: l₂ := by
  obtain ⟨hlt, hget⟩ := List.getElem?_eq_some_iff.mp hi
  refine ⟨_, (t.callers.drop (i + 1)).filter fun c => c.call.target? = some a, rfl, ?_, ?_⟩
  · have hsame : t.callers = t.callers.set i c := by rw [← hget, List.set_getElem_self]
    rw [Traffic.callersOn, hsame, filter_set _ hlt, ← hsame, List.filter_singleton]
    simp only [hc, decide_true, cond_true, List.append_assoc, List.singleton_append]
  · rw [filter_set _ hlt, List.filter_singleton]
    simp only [hcall, hc, decide_true, cond_true, List.append_assoc, List.singleton_append]

/-- A caller on the offering is served in both runs. -/
theorem serve (h : Thin a t u) {i : Nat} {c : Caller} (hi : t.callers[i]? = some c)
    (hc : c.call.target? = some a) (fault : Option Failure) :
    Thin a (t.step d (.serve i fault)) (u.step d (.serve (t.placeOn a i) fault)) := by
  obtain ⟨trail, ht⟩ := Traffic.step_serve_eq (d := d) hi fault
  obtain ⟨l₁, l₂, hplace, hbefore, hset⟩ :=
    callersOn_set hi hc ⟨c.call, trail, (c.rest.advance fault t.world).1⟩ rfl
  have hcallers := h.callers
  rw [hbefore] at hcallers
  obtain ⟨l₁', c', l₂', hu, hl₁, hlevel, hl₂⟩ := forall₂_split hcallers
  rw [hl₁.length_eq] at hplace
  have hi' : u.callers[t.placeOn a i]? = some c' := by
    rw [hu, ← hplace, List.getElem?_append_right (Nat.le_refl _), Nat.sub_self]
    rfl
  obtain ⟨trail', hu'⟩ := Traffic.step_serve_eq (d := d) hi' fault
  obtain ⟨hrest, hafter⟩ := hlevel.2.advance h.akin fault
  rw [ht, hu']
  refine ⟨hafter, ?_, ?_, h.pending⟩
  · show List.Forall₂ _ ((t.callers.set i _).filter _) (u.callers.set (t.placeOn a i) _)
    rw [hset, hu, ← hplace, List.set_append_right _ _ (Nat.le_refl _), Nat.sub_self, List.set_cons_zero]
    exact List.rel_append hl₁ (.cons ⟨hlevel.1, hrest⟩ hl₂)
  · intro c₁ hmem hother
    rcases List.mem_or_eq_of_mem_set hmem with hmem | rfl
    · exact h.others c₁ hmem hother
    · exact absurd hc hother

/-- A caller on another offering is served in the first run only. -/
theorem serve_other (h : Thin a t u) {i : Nat} {c : Caller} (hi : t.callers[i]? = some c)
    (hc : c.call.target? ≠ some a) (fault : Option Failure) : Thin a (t.step d (.serve i fault)) u := by
  obtain ⟨trail, ht⟩ := Traffic.step_serve_eq (d := d) hi fault
  obtain ⟨hlt, hget⟩ := List.getElem?_eq_some_iff.mp hi
  obtain ⟨hrest, hspares⟩ := (h.others c (List.mem_of_getElem? hi) hc).advance h.akin.sound fault
  rw [ht]
  refine ⟨h.akin.of_spares hspares, ?_, ?_, h.pending⟩
  · have hsame : t.callers = t.callers.set i c := by rw [← hget, List.set_getElem_self]
    have hcallers := h.callers
    rw [Traffic.callersOn, hsame, filter_set _ hlt, List.filter_singleton] at hcallers
    show List.Forall₂ _ ((t.callers.set i _).filter _) u.callers
    rw [filter_set _ hlt, List.filter_singleton]
    simp only [hc, decide_false, cond_false] at hcallers ⊢
    exact hcallers
  · intro c₁ hmem hother
    rcases List.mem_or_eq_of_mem_set hmem with hmem | rfl
    · exact h.others c₁ hmem hother
    · exact hrest

/-- An offering is written under the id in both runs, or in neither. -/
theorem write (h : Thin a t u) {p : Tested} (hid : p.val.id = a) :
    Thin a (t.step d (.write p)) (u.run d [.write p]) := by
  have hmem : p ∈ u.pending ↔ p ∈ t.pending := by
    rw [h.pending, List.mem_filter]
    exact and_iff_left (decide_eq_true hid)
  by_cases hp : p ∈ t.pending
  · simp only [Traffic.run, List.foldl_cons, List.foldl_nil, Traffic.step, hp, hmem.mpr hp, if_true]
    exact ⟨h.akin.write hid, h.callers, h.others, by rw [h.pending, List.erase_filter]⟩
  · simp only [Traffic.run, List.foldl_cons, List.foldl_nil, Traffic.step, hp, mt hmem.mp hp, if_false]
    exact h

/-- An offering is written under another id in the first run only. -/
theorem write_other (h : Thin a t u) {p : Tested} (hid : p.val.id ≠ a) : Thin a (t.step d (.write p)) u := by
  by_cases hp : p ∈ t.pending
  · simp only [Traffic.step, hp, if_true]
    refine ⟨h.akin.of_spares (World.spares_write h.akin.sound hid), h.callers, h.others, ?_⟩
    have hnot : p ∉ t.pending.filter (·.val.id = a) := fun hp =>
      hid (of_decide_eq_true (List.mem_filter.mp hp).2)
    show u.pending = (t.pending.erase p).filter _
    rw [h.pending, ← List.erase_filter, List.erase_of_not_mem hnot]
  · simp only [Traffic.step, hp, if_false]
    exact h

/-- **One move** of the first run, and what is kept of it in the second. -/
theorem step (h : Thin a t u) {mv : Move} (hcall : ∀ c, mv = .call c → c.target?.isSome = true) :
    Thin a (t.step d mv) (u.run d (t.keep a mv)) := by
  cases mv with
  | order o =>
      by_cases ho : o.target = a
      · simp only [Traffic.keep, ho, if_true]
        have hkept : ∀ p ∈ (o.tested? t.world.state).toList, decide (p.val.id = a) = true := fun p hp =>
          decide_eq_true ((Order.target_of_tested? (Option.mem_toList.mp hp)).trans ho)
        refine ⟨h.akin.begun ho, h.callers, h.others, ?_⟩
        show u.pending ++ _ = (t.pending ++ _).filter _
        rw [List.filter_append, h.pending, ← h.akin.tested? ho, List.filter_eq_self.mpr hkept]
      · simp only [Traffic.keep, ho, if_false]
        have hleft : ∀ p ∈ (o.tested? t.world.state).toList, ¬ decide (p.val.id = a) = true := fun p hp hid =>
          ho ((Order.target_of_tested? (Option.mem_toList.mp hp)).symm.trans (of_decide_eq_true hid))
        refine ⟨h.akin.of_spares (World.spares_begun h.akin.sound ho), h.callers, h.others, ?_⟩
        show u.pending = (t.pending ++ _).filter _
        rw [List.filter_append, ← h.pending, List.filter_eq_nil_iff.mpr hleft, List.append_nil]
  | write p =>
      by_cases hid : p.val.id = a
      · simp only [Traffic.keep, hid, if_true]
        exact h.write hid
      · simp only [Traffic.keep, hid, if_false]
        exact h.write_other hid
  | call c =>
      obtain ⟨b, hb⟩ := Option.isSome_iff_exists.mp (hcall c rfl)
      obtain ⟨v, now, rfl, hv⟩ := Call.exists_dealing hb
      by_cases hc : (Dealing.call now v).target? = some a
      · -- the call is made in both runs
        obtain rfl : b = a := Option.some.inj (hb.symm.trans hc)
        simp only [Traffic.keep, hc, if_true]
        refine ⟨h.akin, ?_, ?_, h.pending⟩
        · show List.Forall₂ _ ((t.callers ++ [Caller.fresh d (v.call now)]).filter _)
            (u.callers ++ [Caller.fresh d (v.call now)])
          have hfresh : (Caller.fresh d (v.call now)).call.target? = some b := hc
          rw [List.filter_append, List.filter_cons_of_pos (by simpa using hfresh)]
          exact List.rel_append h.callers (.cons ⟨rfl, v.beside_at d now now hv⟩ .nil)
        · intro c hmem hother
          rcases List.mem_append.mp hmem with hmem | hmem
          · exact h.others c hmem hother
          · rw [List.mem_singleton.mp hmem] at hother
            exact absurd hc hother
      · simp only [Traffic.keep, hc, if_false]
        refine ⟨h.akin, ?_, ?_, h.pending⟩
        · show List.Forall₂ _ ((t.callers ++ [Caller.fresh d (v.call now)]).filter _) u.callers
          have hfresh : (Caller.fresh d (v.call now)).call.target? ≠ some a := hc
          rw [List.filter_append, List.filter_cons_of_neg (by simpa using hfresh), List.filter_nil,
            List.append_nil]
          exact h.callers
        · intro c hmem hother
          rcases List.mem_append.mp hmem with hmem | hmem
          · exact h.others c hmem hother
          · rw [List.mem_singleton.mp hmem]
            exact v.follows_aside d now hv fun hba => hc (hb.trans (congrArg some hba))
  | serve i fault =>
      simp only [Traffic.keep]
      cases hi : t.callers[i]? with
      | none => 
          simp only [Traffic.step, hi]
          exact h
      | some c =>
          by_cases hc : c.call.target? = some a
          · simp only [hc, if_true]
            exact h.serve hi hc fault
          · simp only [hc, if_false]
            exact h.serve_other hi hc fault
  | lock held => exact ⟨⟨h.akin.sound, h.akin.sound', h.akin.row, Iff.rfl⟩, h.callers, h.others, h.pending⟩
  | clock now => exact ⟨h.akin.clock now now, h.callers, h.others, h.pending⟩

/-- **A run of moves** and the run without those that concern other offerings. -/
theorem run (h : Thin a t u) {moves : List Move}
    (hcalls : ∀ c, Move.call c ∈ moves → c.target?.isSome = true) :
    Thin a (t.run d moves) (u.run d (t.thinned d a moves)) := by
  induction moves generalizing t u with
  | nil => exact h
  | cons mv moves ih =>
      have hstep : Thin a (t.step d mv) (u.run d (t.keep a mv)) :=
        h.step fun c hmv => hcalls c (hmv ▸ List.mem_cons_self)
      have hrun : u.run d (t.thinned d a (mv :: moves)) =
          (u.run d (t.keep a mv)).run d ((t.step d mv).thinned d a moves) := by
        simp only [Traffic.run, Traffic.thinned, List.foldl_append]
      rw [hrun]
      exact ih hstep fun c hc => hcalls c (List.mem_cons_of_mem _ hc)

/-- The callers on the offering have the same prospects in both runs. -/
theorem prospects (h : Thin a t u) : (t.callersOn a).map (fun c => (c.call, (t.prospect c).bare)) =
    u.callers.map (fun c => (c.call, (u.prospect c).bare)) := by
  refine List.forall₂_eq_eq_eq ▸ List.forall₂_map_left_iff.mpr (List.forall₂_map_right_iff.mpr ?_)
  refine h.callers.imp fun c c' hlevel => ?_
  exact Prod.ext hlevel.1 (h.akin.run hlevel.2).1

end Thin

/-! ## Main result -/

/-- **Offerings do not influence each other.** Starting from any sound ledger, with any registry and any
    draws, at a desk of either strategy that issues unique references or not: what is done about other
    offerings makes no difference to an offering. Whether errands are performed one after another or the
    steps of any number of calls are interleaved with orders, faults and locks held by others, what is
    asked about the offering comes to the same, references and moments aside, as in the run in which all
    that concerns other offerings is left out, and so does the offering that is stored in the end. -/
theorem offerings_are_isolated (d : Desk) {w : World Memory} (hm : w.state.Sound) (a : OfferingId) :
    (∀ es es' : List (Timestamp × Errand), (∀ e ∈ es, e.2.target?.isSome = true) →
      es'.map Prod.snd = (es.map Prod.snd).filter (·.target? = some a) →
      ((Memory.office.reports d es w).filter (·.1.target? = some a)).map (fun x => (x.1, x.2.bare)) =
          (Memory.office.reports d es' w).map (fun x => (x.1, x.2.bare)) ∧
        ((Memory.office.after d es w).state.offerings.get? a).map Offering.timeless =
          ((Memory.office.after d es' w).state.offerings.get? a).map Offering.timeless) ∧
    ∀ moves : List Move, (∀ c, Move.call c ∈ moves → c.target?.isSome = true) →
      let t := (⟨w, [], []⟩ : Traffic).run d moves
      let u := (⟨w, [], []⟩ : Traffic).run d ((⟨w, [], []⟩ : Traffic).thinned d a moves)
      (t.callersOn a).map (fun c => (c.call, (t.prospect c).bare)) =
          u.callers.map (fun c => (c.call, (u.prospect c).bare)) ∧
        (t.world.state.offerings.get? a).map Offering.timeless =
          (u.world.state.offerings.get? a).map Offering.timeless := by
  have hself : World.Akin a w w := World.akin_self hm
  refine ⟨fun es es' htarget hkept => ?_, fun moves hcalls => ?_⟩
  · obtain ⟨hreports, hafter⟩ := hself.performAll d htarget hkept
    exact ⟨hreports, hafter.row⟩
  · have hthin : Thin a ⟨w, [], []⟩ ⟨w, [], []⟩ := ⟨hself, .nil, List.forall_mem_nil _, rfl⟩
    have hrun := hthin.run (d := d) hcalls
    exact ⟨hrun.prospects, hrun.akin.row⟩

/-! ## Namesakes -/

namespace Namesakes

/-- Two trips of one name, each with one spot. -/
def world : World Memory :=
  ⟨((Memory.empty 0).put (.trip ⟨1⟩ default "Reef" 1 none)).put (.trip ⟨2⟩ default "Reef" 1 none), .empty,
    default, default, []⟩

/-- A desk that draws a reference once. -/
def desk : Desk := ⟨.ordinal, ⟨true, 1⟩⟩

theorem sound_world : world.state.Sound :=
  ((Memory.sound_empty 0 .empty).put (by decide)).put (by decide)

/-- The second trip is booked first, so the booking of the first one finds its reference taken. -/
def errands : List (Timestamp × Errand) :=
  [(default, .deal (.book ⟨2⟩ default)), (default, .deal (.book ⟨1⟩ default)),
   (default, .order (.setCapacity ⟨2⟩ 5)), (default, .deal (.availability ⟨1⟩)),
   (default, .deal (.release ⟨2⟩)), (default, .deal (.book ⟨1⟩ default))]

/-- Two bookings take turns, and the second trip is closed meanwhile. -/
def moves : List Move :=
  [.call (.book default ⟨2⟩ default), .call (.book default ⟨1⟩ default)] ++
    (List.replicate 6 [.serve 0 none, .serve 1 none]).flatten ++ [.order (.setStatus ⟨2⟩ .archived)]

end Namesakes

open Namesakes in
/-- With the bookings of the second trip and without them, the first trip is booked out by the first who
    asks. -/
theorem namesakes_apart :
    let a : OfferingId := ⟨1⟩
    let alone := errands.filter fun e => e.2.target? = some a
    let t := (⟨world, [], []⟩ : Traffic).run desk moves
    let u := (⟨world, [], []⟩ : Traffic).run desk ((⟨world, [], []⟩ : Traffic).thinned desk a moves)
    world.state.Sound ∧ (∀ e ∈ errands, e.2.target?.isSome = true) ∧
      alone.map Prod.snd = (errands.map Prod.snd).filter (·.target? = some a) ∧
      (∀ c, Move.call c ∈ moves → c.target?.isSome = true) ∧
      ((Memory.office.reports desk errands world).filter (·.1.target? = some a)).map
          (fun x => (x.1, x.2.bare)) =
        (Memory.office.reports desk alone world).map (fun x => (x.1, x.2.bare)) ∧
      (t.callersOn a).map (fun c => (c.call, (t.prospect c).bare)) =
        u.callers.map (fun c => (c.call, (u.prospect c).bare)) := by
  intro a alone t u
  have htarget : ∀ e ∈ errands, e.2.target?.isSome = true := by decide
  have hkept : alone.map Prod.snd = (errands.map Prod.snd).filter (·.target? = some a) := rfl
  have hcalls : ∀ c, Move.call c ∈ moves → c.target?.isSome = true := by
    intro c hc
    simp [moves] at hc
    rcases hc with rfl | rfl <;> rfl
  obtain ⟨herrands, hmoves⟩ := offerings_are_isolated desk sound_world a
  exact ⟨sound_world, htarget, hkept, hcalls, (herrands errands alone htarget hkept).1,
    (hmoves moves hcalls).1⟩

end DiveSchool
