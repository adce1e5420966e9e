import DiveSchool.Proofs.Minutes

/-!
# `DiveSchool.Proofs.Alone` — what a procedure comes to when nobody else is there

A procedure that runs alone gets the answers of its ledger and nothing comes between them, so every world
it passes through is determined by the one before. `Ledger.alone` is the protocol of such a run. It leaves
the log out, for what is logged is never looked at again; so the rules for the operations of the desk hold
for it as they are, and what is found is the world after the run but for its log.

## Contents
- **Answers.** `Ledger.alone`, with `Exchange.misses` for an attempt to store a record that failed.
- **Runs.** `Ledger.run_alone`: the run ends as following it shows.
- **Taking a spot.** `Desk.follows_reserve_alone`.
-/

namespace DiveSchool

/-! ## Answers -/

/-- Whether an attempt to store a record failed. -/
def Exchange.misses : Exchange → Bool
  | ⟨.store _, .error _⟩ => true
  | _ => false

namespace Ledger

variable {σ : Type} {l : Ledger σ} {sure : Prop} {start w : World σ}

/-- A procedure may ask for anything, and is answered by the ledger in the world as it is. The log stays
    out of it. If `sure` says so, it is reckoned with that no attempt to store a record fails. -/
def alone (l : Ledger σ) (sure : Prop) (start : World σ) : Protocol (World σ) where
  start := start
  may _ _ := True
  heard w r x := x = (l.serve r w).1 ∧ (sure → (Exchange.mk r x).misses = false)
  next w r _ := { (l.serve r w).2 with log := w.log }

theorem alone_ignores_log (event : Event) : (l.alone sure start).Ignores (.log event) :=
  fun _ => ⟨trivial, fun _ => rfl⟩

/-- What was logged before makes no difference to a request. -/
theorem serve_logged (l : Ledger σ) (r : Request) (w : World σ) (log : List Event) :
    (l.serve r { w with log }).1 = (l.serve r w).1 ∧
      { (l.serve r { w with log }).2 with log := w.log } = { (l.serve r w).2 with log := w.log } := by
  cases r with
  | claim reference id =>
      simp only [serve]
      cases w.registry.claim? reference id with
      | none => exact ⟨rfl, rfl⟩
      | some registry => exact ⟨rfl, rfl⟩
  | _ => exact ⟨rfl, rfl⟩

/-- Claiming a reference, by whether it is in the registry. -/
theorem serve_claim (l : Ledger σ) (reference : String) (id : OfferingId) (w : World σ) :
    l.serve (.claim reference id) w = if w.registry.get? reference = none
      then (true, { w with registry := w.registry.insert reference id }) else (false, w) := by
  have hclaim : w.registry.claim? reference id =
      if w.registry.get? reference = none then some (w.registry.insert reference id) else none := by
    unfold Registry.claim? Table.contains
    cases w.registry.get? reference <;> rfl
  by_cases h : w.registry.get? reference = none
  · simp only [serve, hclaim, h, if_true]
    rfl
  · simp only [serve, hclaim, h, if_false]
    rfl

theorem follows_claim_alone {reference : String} {id : OfferingId} {Q : World σ → Bool → Prop}
    (hfree : w.registry.get? reference = none →
      Q { w with registry := w.registry.insert reference id } true)
    (hused : w.registry.get? reference ≠ none → Q w false) :
    (Procedure.claim reference id).Follows (l.alone sure start) Q w := by
  refine ⟨trivial, ?_⟩
  rintro x ⟨rfl, -⟩
  show Q { (l.serve (.claim reference id) w).2 with log := w.log } (l.serve (.claim reference id) w).1
  rw [serve_claim]
  split
  · next h => exact hfree h
  · next h => exact hused h

/-! ## Runs -/

variable {α : Type} {p : Procedure α} {Q : World σ → α → Prop}

/-- **A run** ends as following the procedure alone shows, unless an attempt to store a record failed
    although none was reckoned with. -/
theorem run_alone (hp : p.Follows (l.alone sure start) Q w) :
    (sure ∧ ∃ e ∈ p.trail l.serve w, e.misses = true) ∨
      ∃ w', Q w' (l.run p w).1 ∧ (l.run p w).2 = { w' with log := (l.run p w).2.log } := by
  -- the run with its minutes keeps to the protocol, up to the log, until a record is missed for the first time
  have hspoilt : ∀ (r : Request) (s : World σ × List Exchange), (sure ∧ ∃ e ∈ s.2, e.misses = true) →
      sure ∧ ∃ e ∈ (Procedure.recording l.serve r s).2.2, e.misses = true := by
    rintro r s ⟨hsure, e, he, hmisses⟩
    exact ⟨hsure, e, List.mem_append_left _ he, hmisses⟩
  have hserve : ∀ (v : World σ) (s : World σ × List Exchange) (r : Request),
      { s.1 with log := v.log } = v → True →
      (sure ∧ ∃ e ∈ (Procedure.recording l.serve r s).2.2, e.misses = true) ∨
        (((Procedure.recording l.serve r s).1 = (l.serve r v).1 ∧
            (sure → (Exchange.mk r (Procedure.recording l.serve r s).1).misses = false)) ∧
          { (Procedure.recording l.serve r s).2.1 with log := v.log } =
            { (l.serve r v).2 with log := v.log }) := by
    intro v s r hv _
    by_cases hmissed : sure ∧ (Exchange.mk r (l.serve r s.1).1).misses = true
    · left
      exact ⟨hmissed.1, _, List.mem_append_right _ List.mem_cons_self, hmissed.2⟩
    · right
      obtain ⟨hanswer, hafter⟩ := serve_logged l r s.1 v.log
      rw [hv] at hanswer hafter
      refine ⟨⟨hanswer.symm, fun hsure => ?_⟩, ?_⟩
      · exact Bool.eq_false_iff.mpr fun hmisses => hmissed ⟨hsure, hmisses⟩
      · have hlog := congrArg (fun u : World σ => { u with log := v.log }) hafter
        exact hlog.symm
  have hrun := hp.run_unless (R := fun v s => { s.1 with log := v.log } = v) hspoilt hserve
    (w := (w, [])) rfl
  rw [Procedure.run_recording, List.nil_append] at hrun
  rcases hrun with hmissed | ⟨w', hQ, hw'⟩
  · exact .inl hmissed
  · right
    refine ⟨w', hQ, ?_⟩
    rw [← hw']
    rfl

/-- **A run** ends as following the procedure alone shows. -/
theorem run_of_follows (hp : p.Follows (l.alone False start) Q w) :
    ∃ w', Q w' (l.run p w).1 ∧ (l.run p w).2 = { w' with log := (l.run p w).2.log } := by
  rcases run_alone hp with ⟨hfalse, -⟩ | hrun
  · exact hfalse.elim
  · exact hrun

/-- An attempt to store a record that failed is among those of the trail. -/
theorem exists_tries_of_misses {es : List Exchange} (h : ∃ e ∈ es, e.misses = true) :
    ∃ t ∈ tries es, ∃ cause, t.2 = .error cause := by
  obtain ⟨⟨r, x⟩, he, hmisses⟩ := h
  cases r with
  | store b =>
      rcases x with cause | stored
      · exact ⟨(b, .error cause), List.mem_filterMap.mpr ⟨_, he, rfl⟩, cause, rfl⟩
      · cases hmisses
  | _ => cases hmisses

end Ledger

/-! ## Taking a spot -/

namespace Desk

variable {σ : Type} {l : Ledger σ} {sure : Prop} {start w : World σ} {d : Desk} {id : OfferingId}
  {holder : Holder} {Q : World σ → Except BookingError Offering → Prop}

/-- **Reserving** alone: the offering that is found is judged, and if nothing is against it a spot is asked
    for. Nothing but the state of the ledger changes. -/
theorem follows_reserve_alone
    (hrefused : ∀ e, d.judge id holder (l.find id w.state).answer = .error e →
      Q { w with state := (l.find id w.state).state } (.error e))
    (hasked : d.judge id holder (l.find id w.state).answer = .ok () →
      Q { w with state := (l.reserve w.now id (l.find id w.state).state).state }
        (settle id (l.reserve w.now id (l.find id w.state).state).answer)) :
    (d.reserve id holder).Follows (l.alone sure start) Q w := by
  refine follows_reserve Ledger.alone_ignores_log trivial ?_ ?_
  · rintro x e ⟨rfl, -⟩ hjudge
    exact hrefused e hjudge
  · rintro x ⟨rfl, -⟩ hjudge
    refine ⟨trivial, ?_⟩
    rintro y ⟨rfl, -⟩
    exact hasked hjudge

end Desk

end DiveSchool
