import DiveSchool.Proofs.Effect

/-!
# `DiveSchool.Proofs.Admission` — no booking lands where it must not

The desk judges an offering as it was when it was looked up, and others may have changed it by the time
a spot is taken. Status and counter are looked at again at that moment. Eligibility is not: it is decided by
the terms of an offering, and of all that can happen only one thing changes those. An offering that was
tested before another one of its id was written takes that one's place when it is written itself. So as long
as no offering is tested while another one of its id waits to be written, the terms that a call has found
are those under which it takes its spot.

## Contents
- **Terms.** `Offering.SameTerms`, on which eligibility rests; `Memory.Lasts`: a move keeps them, unless it
  writes an offering under an id in use.
- **Order.** `Traffic.InTurn`, the condition, and `Traffic.Single`, what it keeps.
- **Charter.** `admission`: a call asks for a spot only of an offering that it found its holder eligible for.
- **Runs.** `Traffic.Current`: what a caller found is still there on the same terms.
- **Closed offerings.** `Memory.Closed` lasts until the offering is published again.
- **Main result.** `admitted_only_when_open_and_eligible`; `overtaken_test_admits`, what happens without the
  condition.
-/

namespace DiveSchool

/-! ## Terms -/

/-- Two states of an offering ask and confer the same. -/
structure Offering.SameTerms (o o' : Offering) : Prop where
  required : o'.required = o.required
  provided : o'.provided = o.provided

theorem Offering.SameTerms.refl (o : Offering) : o.SameTerms o := ⟨rfl, rfl⟩

theorem Offering.SameTerms.trans {o o' o'' : Offering} (h : o.SameTerms o') (h' : o'.SameTerms o'') :
    o.SameTerms o'' := ⟨h'.required.trans h.required, h'.provided.trans h.provided⟩

/-- Either strategy looks at the terms and at nothing else. -/
theorem Offering.SameTerms.validate {o o' : Offering} (h : o.SameTerms o') (s : Strategy)
    (level : Option Level) : s.validate level o' = s.validate level o := by
  cases s with
  | ordinal => simp only [Strategy.validate, Ordinal.validate, h.required, h.provided]
  | rules table =>
      simp only [Strategy.validate, RuleTable.validate, Facts.gather, h.required, h.provided]

namespace Memory

variable {m m' : Memory} {now : Timestamp} {id : OfferingId} {o : Offering}

/-- What is stored under an id stays stored, on the same terms. -/
def Lasts (id : OfferingId) (m m' : Memory) : Prop :=
  ∀ o, m.offerings.get? id = some o → ∃ o', m'.offerings.get? id = some o' ∧ o.SameTerms o'

theorem Lasts.refl (id : OfferingId) (m : Memory) : m.Lasts id m := fun o ho => ⟨o, ho, .refl o⟩

/-- What is true of the offering under an id is so after a change, if the change keeps it true. -/
theorem Sound.exists_put (hm : m.Sound) {P : Offering → Prop} {id' : OfferingId} {o' o'' : Offering}
    (ho : m.offerings.get? id = some o) (ho' : m.offerings.get? id' = some o') (hid : o''.id = o'.id)
    (hP : P o) (hchange : id' = id → o' = o → P o'') :
    ∃ o, (m.put o'').offerings.get? id = some o ∧ P o := by
  rw [hm.get?_put ho' o'' hid]
  by_cases hsame : id = id'
  · subst hsame
    rw [ho] at ho'
    cases ho'
    exact ⟨o'', if_pos rfl, hchange rfl rfl⟩
  · exact ⟨o, by rw [if_neg hsame, ho], hP⟩

theorem get?_put_of_new {o' : Offering} (ho : m.offerings.get? id = some o)
    (hnew : m.offerings.get? o'.id = none) : (m.put o').offerings.get? id = some o := by
  have hne : id ≠ o'.id := fun hid => nomatch (hid ▸ ho).symm.trans hnew
  rw [get?_put, if_neg hne, ho]

/-- A write replaces nothing where nothing is stored. -/
theorem lasts_write {w : World Memory} {p : Tested}
    (hnew : p.val.id = id → w.state.offerings.get? id = none) : w.state.Lasts id (p.write w).state := by
  intro o ho
  by_cases hid : p.val.id = id
  · cases ho.symm.trans (hnew hid)
  · exact ⟨o, (get?_write hid).trans ho, .refl o⟩

theorem Sound.lasts_put (hm : m.Sound) {id' : OfferingId} {o' o'' : Offering}
    (ho' : m.offerings.get? id' = some o') (hid : o''.id = o'.id) (hterms : o'.SameTerms o'') :
    m.Lasts id (m.put o'') := by
  intro o ho
  exact hm.exists_put ho ho' hid (.refl o) fun _ hsame => hsame ▸ hterms

theorem RequestEffect.lasts {r : Request} {x : r.Answer} (h : RequestEffect m now r x m')
    (hm : m.Sound) : m.Lasts id m' := by
  cases h with
  | took ho _ _ => exact hm.lasts_put ho rfl ⟨rfl, rfl⟩
  | freed ho _ => exact hm.lasts_put ho rfl ⟨rfl, rfl⟩
  | _ => exact .refl id m

theorem OrderEffect.lasts {order : Order} (h : OrderEffect m now order m') (hm : m.Sound) :
    m.Lasts id m' := by
  cases h with
  | nothing => exact .refl id m
  | added hnew _ => exact fun o ho => ⟨o, get?_put_of_new ho hnew, .refl o⟩
  | resized ho _ => exact hm.lasts_put ho rfl ⟨rfl, rfl⟩
  | moved ho => exact hm.lasts_put ho rfl ⟨rfl, rfl⟩

end Memory

/-- **One move** leaves an offering where it is, on the same terms, unless it writes another one there. -/
theorem Traffic.lasts_step {d : Desk} {t : Traffic} {id : OfferingId} (hm : t.world.state.Sound) {mv : Move}
    (hwrite : ∀ p ∈ t.pending, mv = .write p → p.val.id = id → t.world.state.offerings.get? id = none) :
    t.world.state.Lasts id (t.step d mv).world.state :=
  world_step (I := fun w => t.world.state.Lasts id w.state) (.refl _ _)
    (fun o _ => (hm.begunEffect o).lasts hm) (fun p hp hmv => Memory.lasts_write (hwrite p hp hmv))
    (fun _ fault _ r _ _ _ => (hm.requestEffect fault r).lasts hm) (fun _ _ => .refl _ _) fun _ _ => .refl _ _

/-! ## Order -/

namespace Traffic

variable {d : Desk} {t : Traffic} {id : OfferingId}

/-- No offering of an id is tested while another one of that id has passed its test and is not written yet. -/
def InTurn (id : OfferingId) (t : Traffic) : Move → Prop
  | .order (.add o) => o.id = id → ∀ p ∈ t.pending, p.val.id ≠ id
  | _ => True

/-- How many offerings of an id are yet to be written. -/
def underway (t : Traffic) (id : OfferingId) : Nat := t.pending.countP (·.val.id = id)

/-- Nothing is on its way to an id in use, and no two offerings are on their way to one id. -/
structure Single (id : OfferingId) (t : Traffic) : Prop where
  absent : ∀ p ∈ t.pending, p.val.id = id → t.world.state.offerings.get? id = none
  once : t.underway id ≤ 1

/-- What starts no write, and stores nothing new under an id, keeps it single. -/
theorem Single.mono {t' : Traffic} (h : t.Single id) (hpending : t'.pending.Sublist t.pending)
    (hstored : ∀ o, t'.world.state.offerings.get? id = some o →
      ∃ o', t.world.state.offerings.get? id = some o') : t'.Single id where
  absent p hp hid := by
    cases hafter : t'.world.state.offerings.get? id with
    | none => rfl
    | some o =>
        obtain ⟨o', ho'⟩ := hstored o hafter
        cases ho'.symm.trans (h.absent p (hpending.subset hp) hid)
  once := Nat.le_trans hpending.countP_le h.once

/-- **A test in turn** sends an offering on its way to an id that is free and that no other is on its way to. -/
theorem Single.order (h : t.Single id) (hm : t.world.state.Sound) {order : Order}
    (hturn : t.InTurn id (.order order)) : (t.step d (.order order)).Single id := by
  cases htested : order.tested? t.world.state with
  | none =>
      refine h.mono ?_ fun o ho => stored_before hm (fun _ _ hmv => Move.noConfusion hmv) ho
      simp only [step, htested, Option.toList_none, List.append_nil, List.Sublist.refl]
  | some p =>
      obtain ⟨rfl, hfree⟩ := Order.tested?_eq_some_iff.mp htested
      have hpending : (t.step d (.order (.add p.val))).pending = t.pending ++ [p] := by
        simp only [step, htested, Option.toList_some]
      have hunderway : (t.step d (.order (.add p.val))).underway id =
          t.underway id + if p.val.id = id then 1 else 0 := by
        simp only [underway, hpending, List.countP_append, List.countP_singleton, decide_eq_true_eq]
      refine ⟨fun q hq hid => ?_, ?_⟩
      · rw [hpending] at hq
        rcases List.mem_append.mp hq with hq | hq
        · exact h.absent q hq hid
        · rw [List.mem_singleton.mp hq] at hid
          exact hid ▸ hfree
      · rw [hunderway]
        by_cases hid : p.val.id = id
        · have hnone : t.underway id = 0 :=
            List.countP_eq_zero.mpr fun q hq hsame => hturn hid q hq (of_decide_eq_true hsame)
          simp only [if_pos hid, hnone, Nat.zero_add, Nat.le_refl]
        · rw [if_neg hid]
          exact h.once

/-- **A write** leaves nothing on its way to the id that is in use by it. -/
theorem Single.write (h : t.Single id) (p : Tested) : (t.step d (.write p)).Single id := by
  by_cases hp : p ∈ t.pending
  · have hstep : t.step d (.write p) =
        { t with world := p.write t.world, pending := t.pending.erase p } := by
      simp only [step, hp, if_true]
    rw [hstep]
    by_cases hid : p.val.id = id
    · have hone : (p :: t.pending.erase p).countP (·.val.id = id) ≤ 1 :=
        (List.perm_cons_erase hp).countP_eq _ ▸ h.once
      have hcons : (p :: t.pending.erase p).countP (·.val.id = id) =
          (t.pending.erase p).countP (·.val.id = id) + 1 := List.countP_cons_of_pos (decide_eq_true hid)
      have hnone : (t.pending.erase p).countP (·.val.id = id) = 0 := by omega
      refine ⟨fun q hq hsame => ?_, Nat.le_trans (Nat.le_of_eq hnone) (Nat.zero_le 1)⟩
      exact absurd (decide_eq_true hsame) (List.countP_eq_zero.mp hnone q hq)
    · exact h.mono List.erase_sublist fun o ho => ⟨o, Memory.get?_write hid ▸ ho⟩
  · have hstep : t.step d (.write p) = t := by simp only [step, hp, if_false]
    rw [hstep]
    exact h

/-- **One move** of a run in which tests are made in turn. -/
theorem single_step {mv : Move} (h : t.Single id) (hm : t.world.state.Sound) (hturn : t.InTurn id mv) :
    (t.step d mv).Single id := by
  cases mv with
  | order order => exact h.order hm hturn
  | write p => exact h.write p
  | serve i fault =>
      refine h.mono ?_ fun o ho => stored_before hm (fun _ _ hmv => Move.noConfusion hmv) ho
      exact pending_serve d t i fault ▸ List.Sublist.refl _
  | _ => exact h.mono (List.Sublist.refl _) fun o ho => ⟨o, ho⟩

end Traffic

/-! ## Charter -/

/-- What a call found last. -/
abbrev Finding := Option (OfferingId × Offering)

namespace Finding

/-- The finding after an answer. -/
def after : Finding → (r : Request) → r.Answer → Finding
  | _, .find id, .ok (some o) => some (id, o)
  | s, _, _ => s

/-- A spot may be asked for where the holder was found eligible. -/
def allows (d : Desk) (c : Call) (s : Finding) : Request → Prop
  | .reserve id => ∃ o holder, s = some (id, o) ∧ c.holder? = some holder ∧
      (d.strategy.validate holder.level o).valid = true
  | _ => True

end Finding

/-- A call asks for a spot only of the offering it found last and found its holder eligible for. -/
def admission (d : Desk) : Charter Finding where
  protocol c := { start := none, may := Finding.allows d c, heard := fun _ _ _ => True, next := Finding.after }
  ends _ _ _ := True

theorem admission_ledgerOnly (d : Desk) (c : Call) : ((admission d).protocol c).LedgerOnly := by
  constructor <;> intros <;> exact fun _ => ⟨trivial, fun _ => rfl⟩

/-- Reserving for the holder of a call keeps to the charter of that call. -/
theorem follows_reserve_admission {d : Desk} {c : Call} {id : OfferingId} {holder : Holder} {s : Finding}
    (hc : c.holder? = some holder) :
    (d.reserve id holder).Follows ((admission d).protocol c) (fun _ _ => True) s := by
  refine Desk.follows_reserve (admission_ledgerOnly d c).log trivial (fun _ _ _ _ => trivial) ?_
  intro x _ hx
  obtain ⟨o, rfl, _, _, hvalid⟩ := Desk.of_judge_eq_ok hx
  exact ⟨⟨o, holder, rfl, hc, hvalid⟩, fun _ _ => trivial⟩

/-- **Every call** keeps to the charter, whatever it is answered. -/
theorem grants_admission (d : Desk) (c : Call) : (admission d).Grants d c := by
  have hP := admission_ledgerOnly d c
  cases c with
  | book now id holder =>
      refine Procedure.follows_bind.mpr (Desk.follows_book hP ?_)
      refine (follows_reserve_admission rfl).mono fun s x _ => ?_
      cases x with
      | error e => exact trivial
      | ok o => exact fun _ => trivial
  | bookRecorded now id holder =>
      refine Procedure.follows_bind.mpr (Procedure.follows_bind.mpr ?_)
      refine (follows_reserve_admission rfl).mono fun s x _ => ?_
      cases x with
      | error e => exact trivial
      | ok o =>
          exact Desk.follows_storeUnderFresh hP (fun _ => True) trivial (fun _ _ _ => trivial)
            (fun _ _ _ _ => trivial) (fun _ _ _ _ _ _ => trivial)
            fun _ _ _ => ⟨trivial, fun _ _ => trivial⟩
  | release id =>
      exact Procedure.follows_bind.mpr (Desk.follows_release hP.log trivial fun _ _ => trivial)
  | cancel reference =>
      exact Procedure.follows_bind.mpr
        (Desk.follows_cancel hP trivial fun _ => ⟨trivial, fun _ _ => trivial⟩)
  | cancelRecorded reference =>
      refine Procedure.follows_bind.mpr (Desk.follows_cancelRecorded hP trivial
        (fun _ _ => trivial) (fun _ => trivial) fun b _ => ⟨trivial, ?_⟩)
      rintro (cause | x) _
      · exact ⟨trivial, fun _ _ => trivial⟩
      · exact trivial
  | availability id =>
      exact Procedure.follows_bind.mpr (Desk.follows_availability trivial fun _ _ => trivial)

/-! ## Runs -/

namespace Traffic

variable {d : Desk} {t : Traffic} {fault : Option Failure} {id : OfferingId}

/-- The next step of a caller takes a spot. -/
def Takes (t : Traffic) (i : Nat) (fault : Option Failure) (c : Caller) (id : OfferingId) : Prop :=
  ∃ next o, t.Turn i c (.reserve id) next ∧
    (respond fault (.reserve id) t.world).1 = .ok (.reserved o)

/-- Callers ask for a spot only of what they have found their holders eligible for. -/
structure Judged (d : Desk) (t : Traffic) : Prop where
  sound : t.world.state.Sound
  kept : ∀ c ∈ t.callers, (admission d).KeptBy c

/-- What callers found under an id is still there on the same terms. -/
structure Current (d : Desk) (id : OfferingId) (t : Traffic) : Prop where
  judged : t.Judged d
  single : t.Single id
  found : ∀ c ∈ t.callers, ∀ o, (admission d).stateOf c = some (id, o) →
    ∃ o', t.world.state.offerings.get? id = some o' ∧ o.SameTerms o'

theorem judged_step {mv : Move} (h : t.Judged d) : (t.step d mv).Judged d where
  sound := sound_step h.sound mv
  kept := Charter.keptBy_step h.kept (fun c _ => grants_admission d c) fun _ _ _ _ _ _ _ => trivial

theorem current_step {mv : Move} (h : t.Current d id) (hturn : t.InTurn id mv) :
    (t.step d mv).Current d id where
  judged := judged_step h.judged
  single := single_step h.single h.judged.sound hturn
  found c' hc' o hfound := by
    have hlasts : t.world.state.Lasts id (t.step d mv).world.state :=
      lasts_step h.judged.sound fun p hp _ hid => h.single.absent p hp hid
    -- what was stored on the terms of the finding before the move is so after it
    suffices hbefore : ∃ o', t.world.state.offerings.get? id = some o' ∧ o.SameTerms o' by
      obtain ⟨o', ho', hterms⟩ := hbefore
      obtain ⟨o'', ho'', hterms'⟩ := hlasts o' ho'
      exact ⟨o'', ho'', hterms.trans hterms'⟩
    rcases mem_callers_step hc' with hold | ⟨c, _, rfl⟩ | ⟨i, fault, c, r, next, _, hserved, rfl⟩
    · exact h.found c' hold o hfound
    · cases hfound
    · rw [Charter.stateOf_answered] at hfound
      cases r with
      | find id' =>
          cases hx : (respond fault (.find id') t.world).1 with
          | error cause =>
              rw [hx] at hfound
              exact h.found c hserved.mem o hfound
          | ok o? =>
              rw [hx] at hfound
              cases o? with
              | none => exact h.found c hserved.mem o hfound
              | some o' =>
                  cases hfound
                  exact ⟨o, stored_of_found h.judged.sound hx, .refl o⟩
      | _ => exact h.found c hserved.mem o hfound

/-- **A spot is taken** of an offering that is open and has one, by a call that has found its holder eligible. -/
theorem Judged.admitted (h : t.Judged d) {i : Nat} {c : Caller} (htakes : t.Takes i fault c id) :
    ∃ o found holder, t.world.state.offerings.get? id = some o ∧ o.status = .published ∧
      o.bookings < o.capacity ∧ c.call.holder? = some holder ∧
      (admission d).stateOf c = some (id, found) ∧
      (d.strategy.validate holder.level found).valid = true := by
  obtain ⟨next, o', hturn, hx⟩ := htakes
  obtain ⟨o, ho, hstatus, hfree⟩ := open_of_reserved h.sound hx
  obtain ⟨found, holder, hfound, hholder, hvalid⟩ := (h.kept c hturn.mem).may hturn
  refine ⟨o, found, holder, ho, hstatus, ?_, hholder, hfound, hvalid⟩
  rw [Int32.lt_iff_toInt_lt]
  exact Offering.isFull_eq_false_iff.mp hfree

/-- The offering judged is another state of the offering stored. -/
theorem Current.validate_eq (h : t.Current d id) {c : Caller} (hc : c ∈ t.callers) {o found : Offering}
    (ho : t.world.state.offerings.get? id = some o) (hfound : (admission d).stateOf c = some (id, found))
    (level : Option Level) : d.strategy.validate level o = d.strategy.validate level found := by
  obtain ⟨stored, hstored, hterms⟩ := h.found c hc found hfound
  rw [ho] at hstored
  cases hstored
  exact hterms.validate d.strategy level

end Traffic

/-! ## Closed offerings -/

namespace Memory

variable {m m' : Memory} {now : Timestamp} {id : OfferingId} {bound : Int}

/-- The offering under an id is not open and has no more than so many bookings. -/
def Closed (m : Memory) (id : OfferingId) (bound : Int) : Prop :=
  ∃ o, m.offerings.get? id = some o ∧ o.status ≠ .published ∧ o.bookings.toInt ≤ bound

theorem OrderEffect.closed {order : Order} (h : OrderEffect m now order m') (hm : m.Sound)
    (hclosed : m.Closed id bound) (hne : order ≠ .setStatus id .published) : m'.Closed id bound := by
  obtain ⟨o, ho, hstatus, hbound⟩ := hclosed
  cases h with
  | nothing => exact ⟨o, ho, hstatus, hbound⟩
  | added hnew _ => exact ⟨o, get?_put_of_new ho hnew, hstatus, hbound⟩
  | resized ho' _ =>
      refine hm.exists_put ho ho' rfl ⟨hstatus, hbound⟩ fun _ hsame => ?_
      exact hsame ▸ ⟨hstatus, hbound⟩
  | moved ho' =>
      -- the only order that opens an offering is the one that is ruled out
      refine hm.exists_put ho ho' rfl ⟨hstatus, hbound⟩ fun hid hsame => ?_
      refine ⟨fun hopen => hne ?_, hsame ▸ hbound⟩
      rw [← hid, ← hopen]

theorem RequestEffect.closed {r : Request} {x : r.Answer} (h : RequestEffect m now r x m')
    (hm : m.Sound) (hclosed : m.Closed id bound) : m'.Closed id bound := by
  obtain ⟨o, ho, hstatus, hbound⟩ := hclosed
  cases h with
  | took ho' hpublished _ =>
      refine hm.exists_put ho ho' rfl ⟨hstatus, hbound⟩ fun _ hsame => ?_
      exact absurd hpublished (hsame ▸ hstatus)
  | freed ho' hbooked =>
      refine hm.exists_put ho ho' rfl ⟨hstatus, hbound⟩ fun _ hsame => ?_
      subst hsame
      have hsub := Offering.toInt_bookings_sub_one hbooked
      refine ⟨hstatus, ?_⟩
      simp only [Offering.vacated, hsub]
      omega
  | _ => exact ⟨o, ho, hstatus, hbound⟩

theorem closed_write {w : World Memory} {p : Tested} (hclosed : w.state.Closed id bound)
    (hne : p.val.id ≠ id) : (p.write w).state.Closed id bound := by
  obtain ⟨o, ho, hclosed⟩ := hclosed
  exact ⟨o, (get?_write hne).trans ho, hclosed⟩

end Memory

namespace Traffic

variable {d : Desk} {t : Traffic} {id : OfferingId} {bound : Int}

/-- An offering is closed, and none of its id is about to take its place. -/
structure Shut (id : OfferingId) (bound : Int) (t : Traffic) : Prop where
  sound : t.world.state.Sound
  closed : t.world.state.Closed id bound
  alone : ∀ p ∈ t.pending, p.val.id ≠ id

/-- **One move** opens no offering but the one that publishes it: an id in use passes no test. -/
theorem Shut.step {mv : Move} (h : t.Shut id bound) (hmv : mv ≠ .order (.setStatus id .published)) :
    (t.step d mv).Shut id bound where
  sound := sound_step h.sound mv
  closed :=
    world_step (I := fun w => w.state.Closed id bound) h.closed
      (fun order horder => (h.sound.begunEffect order).closed h.sound h.closed fun hsame =>
        hmv (horder.trans (congrArg Move.order hsame)))
      (fun p hp _ => Memory.closed_write h.closed (h.alone p hp))
      (fun _ fault _ r _ _ _ => (h.sound.requestEffect fault r).closed h.sound h.closed)
      (fun _ _ => h.closed) fun _ _ => h.closed
  alone p hp := by
    rcases mem_pending_step hp with hp | ⟨order, -, htested⟩
    · exact h.alone p hp
    · rintro rfl
      obtain ⟨o, ho, -⟩ := h.closed
      cases ho.symm.trans (Order.tested?_eq_some_iff.mp htested).2

/-- **Closed stays closed** until the offering is published again. -/
theorem shut_run {moves : List Move} (h : t.Shut id bound)
    (hmoves : Move.order (.setStatus id .published) ∉ moves) : (t.run d moves).Shut id bound :=
  run_induction (A := fun _ mv => mv ≠ .order (.setStatus id .published)) (fun _ _ h hmv => h.step hmv) h
    (along_of_forall fun _ hmv _ hsame => hmoves (hsame ▸ hmv))

/-- Closing an offering, if it succeeds, closes it at the bookings it has. -/
theorem closed_of_setStatus {s : Status} {o : Offering} (hs : s ≠ .published)
    (hm : t.world.state.Sound)
    (h : (t.world.state.setStatus t.world.now id s).answer = .ok o) :
    (t.step d (.order (.setStatus id s))).world.state.Closed id o.bookings.toInt := by
  show (t.world.state.setStatus t.world.now id s).state.Closed id o.bookings.toInt
  have hstep := Memory.statusStep t.world.state t.world.now id s
  generalize t.world.state.setStatus t.world.now id s = reply at hstep h
  cases hstep with
  | changed ho =>
      cases h
      exact ⟨_, by rw [Memory.get?_put, if_pos (hm _ _ ho).1.symm], hs, Int.le_refl _⟩
  | _ => cases h

theorem shut_of_setStatus {s : Status} {o : Offering} (hs : s ≠ .published) (hm : t.world.state.Sound)
    (hsingle : t.Single id) (h : (t.world.state.setStatus t.world.now id s).answer = .ok o) :
    (t.step d (.order (.setStatus id s))).Shut id o.bookings.toInt where
  sound := sound_step hm _
  closed := closed_of_setStatus hs hm h
  alone p hp hid := by
    -- the offering is in use, so none of its id waits to be written
    obtain ⟨o, ho, -⟩ := closed_of_setStatus (d := d) hs hm h
    have hsingle' : (t.step d (.order (.setStatus id s))).Single id := single_step hsingle hm trivial
    cases ho.symm.trans (hsingle'.absent p hp hid)

end Traffic

/-! ## Main result -/

/-- **No booking lands where it must not.** Whatever happened since a ledger was opened without
    offerings, if only no offering of an id was tested while another one of it waited to be written: a step
    that takes a spot under that id finds the offering published and with a spot to spare, and the holder of
    its call is eligible for the offering as it is stored at that moment, under either strategy. And once the
    offering has been closed, no step takes a spot of it until it is published again, so that its counter can
    only fall. Test and write at once add an offering as the ledger does, so the condition holds if each
    offering is written before the next one is tested. -/
theorem admitted_only_when_open_and_eligible (d : Desk) (lockTimeout : Nat)
    (records : Table String Booking) (registry : Registry) (generator : Generator) (start : Timestamp)
    (moves : List Move) :
    let t₀ := Traffic.opening lockTimeout records registry generator start
    let t := t₀.run d moves
    (∀ id, Traffic.Along d (Traffic.InTurn id) t₀ moves →
      (∀ i fault c, t.Takes i fault c id →
        ∃ o holder, t.world.state.offerings.get? id = some o ∧ o.status = .published ∧
          o.bookings < o.capacity ∧ c.call.holder? = some holder ∧
          (d.strategy.validate holder.level o).valid = true) ∧
      ∀ s o, s ≠ .published → (t.world.state.setStatus t.world.now id s).answer = .ok o →
        ∀ moves', Move.order (.setStatus id .published) ∉ moves' →
          let t' := (t.step d (.order (.setStatus id s))).run d moves'
          (∀ i fault c, ¬ t'.Takes i fault c id) ∧
          ∃ o', t'.world.state.offerings.get? id = some o' ∧ o'.status ≠ .published ∧
            o'.bookings ≤ o.bookings) ∧
    (∀ p : Tested, t.world.state.checkNew p.val = .ok () →
      (t.run d p.adding).world = Order.apply t.world (.add p.val)) ∧
    ∀ o e, t.world.state.checkNew o = .error e →
      t.step d (.order (.add o)) = t ∧ (Order.apply t.world (.add o)).state = t.world.state := by
  intro t₀ t
  have hjudged₀ : t₀.Judged d := ⟨Memory.sound_empty lockTimeout records, List.forall_mem_nil _⟩
  have hjudged : t.Judged d := Traffic.run_always (fun _ _ h => Traffic.judged_step h) hjudged₀ moves
  have hcurrent : ∀ id, Traffic.Along d (Traffic.InTurn id) t₀ moves → t.Current d id := fun id hturn =>
    Traffic.run_induction (fun _ _ h hturn => Traffic.current_step h hturn)
      ⟨hjudged₀, ⟨List.forall_mem_nil _, Nat.zero_le 1⟩, List.forall_mem_nil _⟩ hturn
  refine ⟨fun id hturn => ⟨?_, ?_⟩, fun p => Traffic.world_add_write d, fun o e => Traffic.step_add_of_error d⟩
  · intro i fault c htakes
    obtain ⟨o, found, holder, ho, hopen, hfree, hholder, hfound, hvalid⟩ := hjudged.admitted htakes
    refine ⟨o, holder, ho, hopen, hfree, hholder, ?_⟩
    -- the terms that the call has found are those that are stored
    obtain ⟨next, o', hserved, -⟩ := htakes
    rw [(hcurrent id hturn).validate_eq hserved.mem ho hfound]
    exact hvalid
  · intro s o hs ho moves' hmoves' t'
    have hshut : t'.Shut id o.bookings.toInt :=
      Traffic.shut_run (Traffic.shut_of_setStatus hs hjudged.sound (hcurrent id hturn).single ho) hmoves'
    obtain ⟨o', ho', hclosed, hbound⟩ := hshut.closed
    refine ⟨fun i fault c htakes => ?_, o', ho', hclosed, Int32.le_iff_toInt_le.mpr hbound⟩
    obtain ⟨next, o'', hserved, hx⟩ := htakes
    obtain ⟨stored, hstored, hopen, _⟩ := Traffic.open_of_reserved hshut.sound hx
    rw [ho'] at hstored
    cases hstored
    exact hclosed hopen

namespace OneSpot

/-- The trip is added, and a caller looks it up. -/
def looked : List Move := Tested.adding ⟨trip 0, rfl⟩ ++ [.call booking, .serve 0 none]

/-- A trip that came by the same id, for instructors only. -/
def rival : Offering := Offering.trip ⟨1⟩ default "Wreck" 1 (some .instructor)

/-- Both trips are tested before either is written, and a caller looks up in between. -/
def overtaken : List Move :=
  [.order (.add (trip 0)), .order (.add rival), .write ⟨trip 0, rfl⟩, .call booking, .serve 0 none,
    .write ⟨rival, rfl⟩]

/-- The same trip is tested twice before it is written. -/
def twofold : List Move := [.order (.add (trip 0)), .order (.add (trip 0)), .write ⟨trip 0, rfl⟩]

/-- It is written a second time, and a caller looks it up. -/
def rewritten : List Move := [.write ⟨trip 0, rfl⟩, .call booking, .serve 0 none]

end OneSpot

open OneSpot in
/-- A caller who has looked takes the spot, so the trip is published at that moment and its holder eligible. -/
theorem one_spot_admitted :
    let t₀ := Traffic.opening 0 .empty .empty default default
    Traffic.Along desk (Traffic.InTurn ⟨1⟩) t₀ looked ∧
    ∃ (o : Offering) (holder : Holder), (t₀.run desk looked).world.state.offerings.get? ⟨1⟩ = some o ∧
      o.status = .published ∧ o.bookings < o.capacity ∧
      (desk.strategy.validate holder.level o).valid = true := by
  intro t₀
  have hturn : Traffic.Along desk (Traffic.InTurn ⟨1⟩) t₀ looked := by
    refine ⟨fun _ p hp => ?_, trivial, trivial, trivial, trivial⟩
    cases hp
  have htakes : ∃ c, (t₀.run desk looked).Takes 0 none c ⟨1⟩ := ⟨_, _, _, ⟨rfl, rfl⟩, rfl⟩
  obtain ⟨c, htakes⟩ := htakes
  obtain ⟨o, holder, ho, hopen, hfree, -, hvalid⟩ := ((admitted_only_when_open_and_eligible desk 0
    .empty .empty default default looked).1 ⟨1⟩ hturn).1 0 none c htakes
  exact ⟨hturn, o, holder, ho, hopen, hfree, hvalid⟩

open OneSpot in
/-- **A test that is overtaken.** The caller takes the spot of a trip that its holder is not eligible for; and
    a trip that has been archived is open to callers again, though nobody has published it. -/
theorem overtaken_test_admits :
    let t₀ := Traffic.opening 0 .empty .empty default default
    (∃ (c : Caller) (holder : Holder), (t₀.run desk overtaken).Takes 0 none c ⟨1⟩ ∧
      c.call.holder? = some holder ∧
      (t₀.run desk overtaken).world.state.offerings.get? ⟨1⟩ = some rival ∧
      (desk.strategy.validate holder.level rival).valid = false) ∧
    let t := t₀.run desk twofold
    (t.world.state.setStatus t.world.now ⟨1⟩ .archived).answer = .ok { trip 0 with status := .archived } ∧
    Move.order (.setStatus ⟨1⟩ .published) ∉ rewritten ∧
    ∃ c, ((t.step desk (.order (.setStatus ⟨1⟩ .archived))).run desk rewritten).Takes 0 none c ⟨1⟩ := by
  refine ⟨⟨_, default, ⟨_, _, ⟨rfl, rfl⟩, rfl⟩, rfl, rfl, rfl⟩, rfl, ?_, _, _, _, ⟨rfl, rfl⟩, rfl⟩
  simp [rewritten]

end DiveSchool
