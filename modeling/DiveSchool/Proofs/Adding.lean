import DiveSchool.Proofs.Books
import Mathlib.Data.List.Count

/-!
# `DiveSchool.Proofs.Adding` — adding offerings at the same time

Adding an offering takes two steps, a test and a write, and others may act between them. Nothing keeps two
clients from both passing the test for one id before either has written; then both are told that they added
their offering, and the later write replaces the earlier one with every spot booked on it. As long as no
offering is tested while another one of its id waits to be written, that cannot happen: an id is free, or on
its way, or in use.

## Contents
- **Additions.** `Addition` and its `Stage`s.
- **Acts.** `Catalogue`, `Catalogue.Act`, `Catalogue.step`; `insert_eq`, test and write at once.
- **Counting.** `Catalogue.gain`, the spots taken of an offering, and what an act does to a counter.
- **Order.** `Catalogue.InTurn`, the condition, and `Catalogue.Orderly`, what it keeps.
- **Exclusion.** `additions_are_exclusive`; `overtaken_test_replaces`, what happens without the condition.
-/

namespace DiveSchool

/-! ## Additions -/

namespace Addition

/-- How far the addition of an offering has come. -/
inductive Stage where
  /-- The offering is to be tested. -/
  | asked
  /-- It has passed the test and is to be written. -/
  | passed
  /-- It was written, and the client was told so. -/
  | added
  /-- It was refused, and the client was told why. -/
  | refused (cause : Failure)
  deriving DecidableEq, Repr

/-- What the client was told. -/
def Stage.answer? : Stage → Option (Except Failure Unit)
  | added => some (.ok ())
  | refused cause => some (.error cause)
  | asked | passed => none

theorem Stage.answer?_eq_error_iff {stage : Stage} {cause : Failure} :
    stage.answer? = some (.error cause) ↔ stage = .refused cause := by
  cases stage <;> simp [answer?]

end Addition

/-- An offering that a client wants to add. -/
structure Addition where
  offering : Offering
  stage : Addition.Stage
  deriving DecidableEq, Repr

namespace Addition

/-- Whether an offering of an id has passed the test and is not written yet. -/
def isUnderway (id : OfferingId) (a : Addition) : Bool := a.offering.id == id && a.stage == .passed

/-- Whether an offering of an id was written. -/
def isAdded (id : OfferingId) (a : Addition) : Bool := a.offering.id == id && a.stage == .added

/-- Test an offering against what is stored. -/
def tested (m : Memory) (o : Offering) : Stage :=
  match m.checkNew o with
  | .ok () => .passed
  | .error cause => .refused cause

end Addition

/-! ## Acts -/

/-- A ledger in memory, and the offerings on their way into it. -/
structure Catalogue where
  memory : Memory
  /-- The present moment. -/
  now : Timestamp
  additions : List Addition

namespace Catalogue

/-- One act among those of several clients at the same time. -/
inductive Act where
  /-- A client wants to add an offering. -/
  | ask (o : Offering)
  /-- An offering is tested. -/
  | test (i : Nat)
  /-- An offering that has passed the test is written. -/
  | write (i : Nat)
  /-- Someone asks for a spot of an offering. -/
  | reserve (id : OfferingId)
  /-- Someone gives a spot back. -/
  | release (id : OfferingId)
  /-- Others hold these locks from now on. -/
  | lock (held : List OfferingId)
  /-- The present moment is another one. -/
  | clock (now : Timestamp)

/-- One act. -/
def step (s : Catalogue) : Act → Catalogue
  | .ask o => { s with additions := s.additions ++ [⟨o, .asked⟩] }
  | .test i =>
    match s.additions[i]? with
    | some ⟨o, .asked⟩ => { s with additions := s.additions.set i ⟨o, Addition.tested s.memory o⟩ }
    | _ => s
  | .write i =>
    match s.additions[i]? with
    | some ⟨o, .passed⟩ =>
      { s with memory := s.memory.put o, additions := s.additions.set i ⟨o, .added⟩ }
    | _ => s
  | .reserve id => { s with memory := (s.memory.reserve s.now id).state }
  | .release id => { s with memory := (s.memory.release s.now id).state }
  | .lock held => { s with memory := { s.memory with held } }
  | .clock now => { s with now }

/-- Acts one after another. -/
def run (s : Catalogue) (acts : List Act) : Catalogue := acts.foldl step s

/-- A ledger into which nobody adds anything yet. -/
def opening (m : Memory) (now : Timestamp) : Catalogue := ⟨m, now, []⟩

variable {s : Catalogue} {m : Memory} {id : OfferingId} {o : Offering} {i : Nat}

theorem run_append (s : Catalogue) (before after : List Act) :
    s.run (before ++ after) = (s.run before).run after := List.foldl_append

/-- **Test and write at once** are the addition as the ledger knows it. -/
theorem insert_eq (h : s.additions[i]? = some ⟨o, .asked⟩) :
    (s.run [.test i, .write i]).memory = (s.memory.insert o).state ∧
    (s.run [.test i, .write i]).additions[i]?.bind (·.stage.answer?) = some (s.memory.insert o).answer := by
  have hlt := (List.getElem?_eq_some_iff.mp h).1
  simp only [run, List.foldl_cons, List.foldl_nil, step, h, Memory.insert, Memory.writeNew,
    Addition.tested]
  cases s.memory.checkNew o with
  | error cause => simp [List.getElem?_set_self hlt, Addition.Stage.answer?]
  | ok _ => simp [List.getElem?_set_self hlt, Addition.Stage.answer?]

/-! ## Counting -/

/-- The spots that an act takes of an offering, less those it frees: what its answer tells. -/
def gain (s : Catalogue) (id : OfferingId) : Act → Int
  | .reserve id' =>
    match (s.memory.reserve s.now id').answer with
    | .ok (.reserved _) => if id = id' then 1 else 0
    | _ => 0
  | .release id' =>
    match (s.memory.release s.now id').answer with
    | .ok (.released _) => if id = id' then -1 else 0
    | _ => 0
  | _ => 0

/-- The spots that acts take of an offering, less those they free. -/
def gains (s : Catalogue) (id : OfferingId) : List Act → Int
  | [] => 0
  | e :: acts => s.gain id e + gains (s.step e) id acts

/-- Under an id there is nothing as before, or the same offering as before with its counter changed by some
    difference. -/
def Carried (id : OfferingId) (difference : Int) (m m' : Memory) : Prop :=
  match m.offerings.get? id with
  | none => m'.offerings.get? id = none
  | some o => ∃ o', m'.offerings.get? id = some o' ∧ o.Counted o' difference

theorem carried_self (id : OfferingId) {m m' : Memory} (h : m'.offerings = m.offerings) :
    Carried id 0 m m' := by
  unfold Carried
  rw [h]
  split
  · next hnone => exact hnone
  · next o ho => exact ⟨o, ho, rfl, (Int.add_zero _).symm⟩

/-- Nothing changes under an id but its own counter. -/
theorem carried_put (hm : m.Sound) {id' : OfferingId} {o' : Offering} {difference : Int}
    (h : m.offerings.get? id' = some o) (ho : o.Counted o' difference) :
    Carried id (if id = id' then difference else 0) m (m.put o') := by
  unfold Carried
  rw [hm.get?_put h o' ho.id_eq]
  by_cases hid : id = id'
  · subst hid
    rw [h, if_pos rfl, if_pos rfl]
    exact ⟨o', rfl, ho⟩
  · rw [if_neg hid, if_neg hid]
    exact carried_self id rfl

theorem Carried.isSome_eq {difference : Int} {m m' : Memory} (h : Carried id difference m m') :
    (m'.offerings.get? id).isSome = (m.offerings.get? id).isSome := by
  unfold Carried at h
  split at h
  · next hnone => rw [h, hnone]
  · next o ho =>
    obtain ⟨o', ho', -⟩ := h
    rw [ho', ho]
    rfl

/-- An act that writes nothing new keeps a sound ledger sound, and every offering under its id. -/
theorem carried_step (hm : s.memory.Sound) {e : Act} (he : ∀ i, e ≠ .write i) (id : OfferingId) :
    (s.step e).memory.Sound ∧ Carried id (s.gain id e) s.memory (s.step e).memory := by
  cases e with
  | write i => exact absurd rfl (he i)
  | ask o => exact ⟨hm, carried_self id rfl⟩
  | test i =>
      simp only [step]
      split <;> exact ⟨hm, carried_self id rfl⟩
  | lock held => exact ⟨hm, carried_self id rfl⟩
  | clock now => exact ⟨hm, carried_self id rfl⟩
  | reserve id' =>
      simp only [step, gain]
      have hstep := hm.reserveStep s.now id'
      generalize s.memory.reserve s.now id' = reply at hstep
      cases hstep with
      | absent _ => exact ⟨hm, carried_self id rfl⟩
      | locked _ _ => exact ⟨hm, carried_self id rfl⟩
      | closed _ _ => exact ⟨hm, carried_self id rfl⟩
      | full _ _ _ => exact ⟨hm, carried_self id rfl⟩
      | @reserved o ho _ hfree =>
          exact ⟨hm.put ((hm id' o ho).2.taken hfree), carried_put hm ho (Offering.counted_taken hfree)⟩
  | release id' =>
      simp only [step, gain]
      have hstep := hm.releaseStep s.now id'
      generalize s.memory.release s.now id' = reply at hstep
      cases hstep with
      | absent _ => exact ⟨hm, carried_self id rfl⟩
      | locked _ _ => exact ⟨hm, carried_self id rfl⟩
      | empty _ _ => exact ⟨hm, carried_self id rfl⟩
      | @released o ho hbooked =>
          exact ⟨hm.put ((hm id' o ho).2.vacated hbooked), carried_put hm ho (Offering.counted_vacated hbooked)⟩

/-! ## Order -/

/-- No offering is tested while another one of its id has passed the test and is not written yet. -/
def InTurn (s : Catalogue) : Act → Prop
  | .test i => ∀ b ∈ s.additions[i]?, b.stage = .asked → ∀ a ∈ s.additions, a.isUnderway b.offering.id = false
  | _ => True

instance (s : Catalogue) (e : Act) : Decidable (s.InTurn e) := by
  cases e <;> unfold InTurn <;> infer_instance

/-- A condition on acts, each with the state it happens in. -/
def Along (A : Catalogue → Act → Prop) : Catalogue → List Act → Prop
  | _, [] => True
  | s, e :: acts => A s e ∧ Along A (s.step e) acts

instance decidableAlong (A : Catalogue → Act → Prop) [∀ s e, Decidable (A s e)] :
    (s : Catalogue) → (acts : List Act) → Decidable (Along A s acts)
  | _, [] => instDecidableTrue
  | s, e :: acts => @instDecidableAnd _ _ _ (decidableAlong A (s.step e) acts)

/-- How many offerings of an id are stored: one or none. -/
def stored (m : Memory) (id : OfferingId) : Nat := if (m.offerings.get? id).isSome then 1 else 0

/-- How many clients were told that they added an offering of an id. -/
def addedCount (s : Catalogue) (id : OfferingId) : Nat := s.additions.countP (·.isAdded id)

/-- How many offerings of an id have passed the test and are not written yet. -/
def underwayCount (s : Catalogue) (id : OfferingId) : Nat := s.additions.countP (·.isUnderway id)

/-- Why the addition of an offering may have been refused: it is corrupt, or its id is in use. -/
def Warranted (m : Memory) (o : Offering) (cause : Failure) : Prop :=
  o.checkInvariant = .error cause ∨
    (o.WithinCapacity ∧ cause = Offering.duplicate o.id ∧ stored m o.id = 1)

/-- Every id is free, or on its way, or in use, and it is in use exactly if it was from the start or one
    client was told that it is. -/
structure Orderly (start : Memory) (s : Catalogue) : Prop where
  sound : s.memory.Sound
  within : ∀ a ∈ s.additions, a.stage = .passed → a.offering.WithinCapacity
  single : ∀ id, s.underwayCount id + stored s.memory id ≤ 1
  accounted : ∀ id, s.addedCount id + stored start id = stored s.memory id
  told : ∀ a ∈ s.additions, ∀ cause, a.stage = .refused cause → Warranted s.memory a.offering cause

theorem stored_eq_zero (h : m.offerings.get? id = none) : stored m id = 0 := by
  rw [stored, h]
  rfl

theorem stored_put (m : Memory) (o : Offering) (id : OfferingId) :
    stored (m.put o) id = if id = o.id then 1 else stored m id := by
  rw [stored, Memory.get?_put]
  by_cases hid : id = o.id
  · rw [if_pos hid, if_pos hid]
    rfl
  · rw [if_neg hid, if_neg hid]
    rfl

theorem stored_eq_one (h : m.offerings.get? id = some o) : stored m id = 1 := by
  rw [stored, h]
  rfl

theorem Warranted.mono {m m' : Memory} {cause : Failure} (h : Warranted m o cause)
    (hstored : stored m o.id = 1 → stored m' o.id = 1) : Warranted m' o cause :=
  h.imp_right fun ⟨hwithin, hcause, hone⟩ => ⟨hwithin, hcause, hstored hone⟩

/-- A test is passed by a sound offering with a free id, and by no other. -/
theorem tested_cases (m : Memory) (o : Offering) :
    (Addition.tested m o = .passed ∧ m.offerings.get? o.id = none ∧ o.WithinCapacity) ∨
      ∃ cause, Addition.tested m o = .refused cause ∧ Warranted m o cause := by
  unfold Addition.tested Memory.checkNew
  cases hcheck : o.checkInvariant with
  | error cause => exact .inr ⟨cause, rfl, .inl hcheck⟩
  | ok _ =>
      have ho := Offering.checkInvariant_eq_ok_iff.mp hcheck
      by_cases htaken : m.offerings.contains o.id = true
      · have hone : stored m o.id = 1 := if_pos htaken
        exact .inr ⟨Offering.duplicate o.id, by simp only [htaken, if_true], .inr ⟨ho, rfl, hone⟩⟩
      · refine .inl ⟨by simp only [htaken, Bool.false_eq_true, if_false], ?_, ho⟩
        simpa [Table.contains] using htaken

/-- What a client goes on to counts in place of what it was at. -/
theorem countP_set_add {l : List Addition} {a : Addition} (h : l[i]? = some a) (b : Addition)
    (p : Addition → Bool) :
    (l.set i b).countP p + (if p a then 1 else 0) = l.countP p + (if p b then 1 else 0) := by
  obtain ⟨hlt, rfl⟩ := List.getElem?_eq_some_iff.mp h
  rw [List.countP_set hlt]
  by_cases hp : p l[i] = true
  · have hpos : 0 < l.countP p := List.countP_pos_iff.mpr ⟨l[i], List.getElem_mem hlt, hp⟩
    rw [if_pos hp]
    omega
  · rw [if_neg hp]
    omega

theorem tested_ne_added : Addition.tested m o ≠ .added := by
  rcases tested_cases m o with ⟨hpassed, -⟩ | ⟨cause, hrefused, -⟩
  · rw [hpassed]
    exact Addition.Stage.noConfusion
  · rw [hrefused]
    exact Addition.Stage.noConfusion

/-- A client that is at another stage now counts as underway if this stage is the one between test and write. -/
theorem underwayCount_set {old : Addition.Stage} (h : s.additions[i]? = some ⟨o, old⟩) (new : Addition.Stage)
    (id : OfferingId) :
    (s.additions.set i ⟨o, new⟩).countP (·.isUnderway id) + (if o.id = id ∧ old = .passed then 1 else 0) =
      s.underwayCount id + (if o.id = id ∧ new = .passed then 1 else 0) := by
  simpa [Addition.isUnderway, underwayCount] using countP_set_add h ⟨o, new⟩ (·.isUnderway id)

theorem addedCount_set {old : Addition.Stage} (h : s.additions[i]? = some ⟨o, old⟩) (new : Addition.Stage)
    (id : OfferingId) :
    (s.additions.set i ⟨o, new⟩).countP (·.isAdded id) + (if o.id = id ∧ old = .added then 1 else 0) =
      s.addedCount id + (if o.id = id ∧ new = .added then 1 else 0) := by
  simpa [Addition.isAdded, addedCount] using countP_set_add h ⟨o, new⟩ (·.isAdded id)

variable {start : Memory}

theorem Orderly.ask (h : Orderly start s) (o : Offering) : Orderly start (s.step (.ask o)) := by
  have hnew : ∀ a ∈ (s.step (.ask o)).additions, a ∈ s.additions ∨ a = ⟨o, .asked⟩ := fun a ha => by
    simpa [step] using ha
  refine ⟨h.sound, fun a ha hpassed => ?_, fun id => ?_, fun id => ?_, fun a ha cause hrefused => ?_⟩
  · rcases hnew a ha with ha | rfl
    · exact h.within a ha hpassed
    · cases hpassed
  · have hcount := h.single id
    simpa [step, underwayCount, Addition.isUnderway] using hcount
  · have hcount := h.accounted id
    simpa [step, addedCount, Addition.isAdded] using hcount
  · rcases hnew a ha with ha | rfl
    · exact h.told a ha cause hrefused
    · cases hrefused

/-- A test in turn puts nothing on its way to an id that is in use or that another one is on its way to. -/
theorem Orderly.test (h : Orderly start s) (hturn : s.InTurn (.test i)) :
    Orderly start (s.step (.test i)) := by
  simp only [step]
  split
  case h_2 => exact h
  case h_1 o ha =>
    refine ⟨h.sound, fun a ha' hpassed => ?within, fun id => ?single, fun id => ?accounted,
      fun a ha' cause hrefused => ?told⟩
    case within =>
      rcases List.mem_or_eq_of_mem_set ha' with ha' | rfl
      · exact h.within a ha' hpassed
      · rcases tested_cases s.memory o with ⟨-, -, ho⟩ | ⟨cause, hcause, -⟩
        · exact ho
        · rw [show Addition.tested s.memory o = .passed from hpassed] at hcause
          cases hcause
    case single =>
      have hsingle := h.single id
      have hcount := underwayCount_set ha (Addition.tested s.memory o) id
      simp only [reduceCtorEq, and_false, if_false, Nat.add_zero] at hcount
      rw [underwayCount]
      rcases tested_cases s.memory o with ⟨hpassed, hfree, -⟩ | ⟨cause, hcause, -⟩
      · by_cases hid : o.id = id
        · subst hid
          have hnone : s.underwayCount o.id = 0 := List.countP_eq_zero.mpr fun a ha' => by
            rw [hturn _ ha rfl a ha']
            exact Bool.false_ne_true
          have hstored := stored_eq_zero hfree
          rw [if_pos ⟨rfl, hpassed⟩] at hcount
          dsimp only
          omega
        · rw [if_neg fun hnew => hid hnew.1] at hcount
          dsimp only
          omega
      · rw [if_neg fun hnew => by rw [hcause] at hnew; cases hnew.2] at hcount
        dsimp only
        omega
    case accounted =>
      have haccounted := h.accounted id
      have hcount := addedCount_set ha (Addition.tested s.memory o) id
      simp only [reduceCtorEq, tested_ne_added, and_false, if_false, Nat.add_zero] at hcount
      rw [addedCount]
      dsimp only
      omega
    case told =>
      rcases List.mem_or_eq_of_mem_set ha' with ha' | rfl
      · exact h.told a ha' cause hrefused
      · rcases tested_cases s.memory o with ⟨hpassed, -⟩ | ⟨cause', hcause, hwhy⟩
        · rw [show Addition.tested s.memory o = .refused cause from hrefused] at hpassed
          cases hpassed
        · rw [show Addition.tested s.memory o = .refused cause from hrefused] at hcause
          cases hcause
          exact hwhy

/-- What passed the test is written where nothing is. -/
theorem Orderly.free (h : Orderly start s) (ha : s.additions[i]? = some ⟨o, .passed⟩) :
    s.underwayCount o.id = 1 ∧ stored s.memory o.id = 0 := by
  have hpos : 0 < s.underwayCount o.id :=
    List.countP_pos_iff.mpr ⟨_, List.mem_of_getElem? ha, by simp [Addition.isUnderway]⟩
  have hsingle := h.single o.id
  omega

theorem Orderly.write (h : Orderly start s) (i : Nat) : Orderly start (s.step (.write i)) := by
  simp only [step]
  split
  case h_2 => exact h
  case h_1 o ha =>
    obtain ⟨hone, hfree⟩ := h.free ha
    refine ⟨h.sound.put (h.within _ (List.mem_of_getElem? ha) rfl), fun a ha' hpassed => ?within,
      fun id => ?single, fun id => ?accounted, fun a ha' cause hrefused => ?told⟩
    case within =>
      rcases List.mem_or_eq_of_mem_set ha' with ha' | rfl
      · exact h.within a ha' hpassed
      · cases hpassed
    case single =>
      have hsingle := h.single id
      have hcount := underwayCount_set ha .added id
      simp only [reduceCtorEq, and_false, and_true, if_false, Nat.add_zero] at hcount
      rw [underwayCount, stored_put]
      dsimp only
      by_cases hid : id = o.id
      · subst hid
        rw [if_pos rfl] at hcount ⊢
        omega
      · rw [if_neg (Ne.symm hid)] at hcount
        rw [if_neg hid]
        omega
    case accounted =>
      have haccounted := h.accounted id
      have hcount := addedCount_set ha .added id
      simp only [reduceCtorEq, and_false, and_true, if_false, Nat.add_zero] at hcount
      rw [addedCount, stored_put]
      dsimp only
      by_cases hid : id = o.id
      · subst hid
        rw [if_pos rfl] at hcount ⊢
        omega
      · rw [if_neg (Ne.symm hid)] at hcount
        rw [if_neg hid]
        omega
    case told =>
      rcases List.mem_or_eq_of_mem_set ha' with ha' | rfl
      · refine (h.told a ha' cause hrefused).mono fun hone => ?_
        rw [stored_put]
        split
        · rfl
        · exact hone
      · cases hrefused

theorem Carried.stored_eq {difference : Int} {m m' : Memory} (h : Carried id difference m m') :
    stored m' id = stored m id := by
  rw [stored, stored, h.isSome_eq]

/-- What does not concern the additions keeps order. -/
theorem Orderly.aside (h : Orderly start s) {e : Act} (hwrite : ∀ i, e ≠ .write i)
    (hsame : (s.step e).additions = s.additions) : Orderly start (s.step e) := by
  have hstored := fun id => (carried_step h.sound hwrite id).2.stored_eq
  refine ⟨(carried_step h.sound hwrite ⟨0⟩).1, ?within, fun id => ?single, fun id => ?accounted,
    fun a ha cause hrefused => ?told⟩
  case within =>
    rw [hsame]
    exact h.within
  case single =>
    rw [underwayCount, hsame, hstored]
    exact h.single id
  case accounted =>
    rw [addedCount, hsame, hstored]
    exact h.accounted id
  case told =>
    rw [hsame] at ha
    exact (h.told a ha cause hrefused).mono (hstored a.offering.id).trans

/-- Every act in turn keeps order. -/
theorem Orderly.step (h : Orderly start s) {e : Act} (hturn : s.InTurn e) : Orderly start (s.step e) := by
  cases e with
  | ask o => exact h.ask o
  | test i => exact h.test hturn
  | write i => exact h.write i
  | reserve id => exact h.aside nofun rfl
  | release id => exact h.aside nofun rfl
  | lock held => exact h.aside nofun rfl
  | clock now => exact h.aside nofun rfl

/-- What is stored stays, and its counter shows what was taken of it and freed. -/
theorem Orderly.kept (h : Orderly start s) (e : Act) (ho : s.memory.offerings.get? id = some o) :
    ∃ o', (s.step e).memory.offerings.get? id = some o' ∧ o.Counted o' (s.gain id e) := by
  by_cases hwrite : ∃ i, e = .write i
  · obtain ⟨i, rfl⟩ := hwrite
    refine ⟨o, ?_, rfl, (Int.add_zero _).symm⟩
    simp only [Catalogue.step]
    split
    case h_2 => exact ho
    case h_1 o₁ ha =>
      have hfree := (h.free ha).2
      have hid : id ≠ o₁.id := fun hid => by
        rw [← hid, stored_eq_one ho] at hfree
        cases hfree
      rw [Memory.get?_put, if_neg hid]
      exact ho
  · have hcarried := (carried_step h.sound (not_exists.mp hwrite) id).2
    unfold Carried at hcarried
    rw [ho] at hcarried
    exact hcarried

/-! ## Exclusion -/

theorem Orderly.run {acts : List Act} (h : Orderly start s) (hturn : Along InTurn s acts) :
    Orderly start (s.run acts) := by
  induction acts generalizing s with
  | nil => exact h
  | cons e acts ih => exact ih (h.step hturn.1) hturn.2

theorem Orderly.kept_run {acts : List Act} (h : Orderly start s) (hturn : Along InTurn s acts)
    (ho : s.memory.offerings.get? id = some o) :
    ∃ o', (s.run acts).memory.offerings.get? id = some o' ∧ o.Counted o' (s.gains id acts) := by
  induction acts generalizing s o with
  | nil => exact ⟨o, ho, rfl, (Int.add_zero _).symm⟩
  | cons e acts ih =>
      obtain ⟨o₁, ho₁, hfirst⟩ := h.kept e ho
      obtain ⟨o₂, ho₂, hrest⟩ := ih (h.step hturn.1) hturn.2 ho₁
      exact ⟨o₂, ho₂, hfirst.trans hrest⟩

theorem along_append {A : Catalogue → Act → Prop} {before after : List Act} :
    Along A s (before ++ after) ↔ Along A s before ∧ Along A (s.run before) after := by
  induction before generalizing s with
  | nil => exact ⟨fun h => ⟨trivial, h⟩, fun h => h.2⟩
  | cons e before ih =>
      simp only [List.cons_append, Along, ih, run, List.foldl_cons, and_assoc]

theorem orderly_opening (hm : m.Sound) (now : Timestamp) : Orderly m (opening m now) where
  sound := hm
  within _ ha := nomatch ha
  single id := le_of_eq_of_le (Nat.zero_add _) (by unfold stored; split <;> decide)
  accounted id := Nat.zero_add _
  told _ ha := nomatch ha

end Catalogue

open Catalogue in
/-- **Adding is exclusive.** Offerings are added to a sound ledger, in any number and at the same time, while
    others take and free spots; none is tested while another one of its id waits to be written. Then a client
    is told of an id that it was added if and only if the id was free and is in use now, so it is told once and
    to one client; who is refused has a corrupt offering, or learns that the id is in use, and it is; and what
    is stored at any moment is still there at the end, with every spot that was taken of it. An offering that
    is tested and written at once is added as the ledger adds it. -/
theorem additions_are_exclusive {m : Memory} (hm : m.Sound) {now : Timestamp} {acts : List Act}
    (hturn : Along InTurn (opening m now) acts) :
    let s := (opening m now).run acts
    (∀ id, s.addedCount id + stored m id = stored s.memory id) ∧
    (∀ a ∈ s.additions, ∀ cause, a.stage.answer? = some (.error cause) →
      Warranted s.memory a.offering cause) ∧
    (∀ before after, acts = before ++ after →
      ∀ id o, ((opening m now).run before).memory.offerings.get? id = some o →
        ∃ o', s.memory.offerings.get? id = some o' ∧
          o.Counted o' (((opening m now).run before).gains id after)) ∧
    ∀ i o, s.additions[i]? = some ⟨o, .asked⟩ →
      (s.run [.test i, .write i]).memory = (s.memory.insert o).state ∧
      (s.run [.test i, .write i]).additions[i]?.bind (·.stage.answer?) = some (s.memory.insert o).answer := by
  intro s
  have horderly : Orderly m s := (orderly_opening hm now).run hturn
  refine ⟨horderly.accounted, fun a ha cause hanswer => ?_,
    fun before after hsplit id o ho => ?_, fun i o ha => insert_eq ha⟩
  · exact horderly.told a ha cause (Addition.Stage.answer?_eq_error_iff.mp hanswer)
  · subst hsplit
    obtain ⟨hbefore, hafter⟩ := along_append.mp hturn
    have hmid := (orderly_opening hm now).run hbefore
    obtain ⟨o', ho', hcounted⟩ := hmid.kept_run hafter ho
    exact ⟨o', by rw [show s = _ from run_append _ before after]; exact ho', hcounted⟩

namespace TwoReefs

/-- A trip of the first client. -/
def trip : Offering := Offering.trip ⟨1⟩ ⟨0, 0⟩ "Reef" 2 none

/-- A trip of another client, who came by the same id. -/
def rival : Offering := Offering.trip ⟨1⟩ ⟨0, 0⟩ "Wreck" 4 none

/-- Nothing is stored yet. -/
def start : Catalogue := Catalogue.opening (.empty 0) ⟨0, 0⟩

/-- The first trip is written before the second one is tested. -/
def orderly : List Catalogue.Act :=
  [.ask trip, .ask rival, .test 0, .reserve ⟨1⟩, .write 0, .reserve ⟨1⟩, .test 1, .write 1, .reserve ⟨1⟩]

/-- Both trips are tested before either is written, and a spot is booked in between. -/
def overtaken : List Catalogue.Act :=
  [.ask trip, .ask rival, .test 0, .test 1, .write 0, .reserve ⟨1⟩, .write 1]

end TwoReefs

open Catalogue TwoReefs in
/-- One of two trips is added and the other refused, and two spots are booked. -/
theorem one_of_two_added :
    (Memory.empty 0).Sound ∧ Along InTurn start orderly ∧
    (start.run orderly).addedCount ⟨1⟩ = 1 ∧
    ∃ o, (start.run orderly).memory.offerings.get? ⟨1⟩ = some o ∧ trip.Counted o 2 := by
  have hturn : Along InTurn start orderly := by decide +kernel
  obtain ⟨hcount, -, hkept, -⟩ := additions_are_exclusive (Memory.sound_empty 0 .empty) hturn
  refine ⟨Memory.sound_empty 0 .empty, hturn, ?_, ?_⟩
  · exact (hcount ⟨1⟩).trans (by decide +kernel)
  · exact hkept (orderly.take 5) (orderly.drop 5) rfl ⟨1⟩ trip rfl

open Catalogue TwoReefs in
/-- **A test that is overtaken.** Both clients are told that they added their trip, and the second trip takes
    the place of the first one: the spot that was booked on it in between is gone. -/
theorem overtaken_test_replaces :
    (start.run overtaken).additions.map (·.stage.answer?) = [some (.ok ()), some (.ok ())] ∧
    ((start.run (overtaken.take 6)).memory.offerings.get? ⟨1⟩).map (·.bookings) = some 1 ∧
    (start.run overtaken).memory.offerings.get? ⟨1⟩ = some rival ∧ rival.bookings = 0 ∧
    ¬ Along InTurn start overtaken := by
  decide +kernel

end DiveSchool
