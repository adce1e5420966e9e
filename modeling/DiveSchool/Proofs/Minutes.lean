import DiveSchool.Proofs.Books
import DiveSchool.Proofs.Cancellation

/-!
# `DiveSchool.Proofs.Minutes` — what a procedure that runs alone has asked and changed

A procedure that runs without interruption leaves a trail, the requests it made and the answers to them in
order. The `Minutes` of a run are the books, the registry and the part of the trail that concerns the
ledger; they say all that the desk can be judged by, and each request moves them on in one way. So an
operation of the desk can be followed on the minutes, whatever the ledger answers, and what is found holds
of its run and its trail.

## Contents
- **Trails.** `Procedure.trail`, and `Exchange.tried?` and `Exchange.freed?` for the parts asked about.
- **Registry.** `Registry.Answers` and `Registry.after`.
- **Minutes.** `Minutes.after` and `Minutes.protocol`.
- **Runs.** `Bookkeeper.keeps_minutes` for ledgers that keep their books, `Ledger.keeps_minutes` for all.
- **References.** `follows_issue_minutes`.
-/

namespace DiveSchool

/-! ## Trails -/

namespace Procedure

variable {α ω : Type} {handle : (r : Request) → ω → r.Answer × ω}

/-- The exchanges of a procedure that runs without interruption, oldest first. -/
def trail (handle : (r : Request) → ω → r.Answer × ω) : Procedure α → ω → List Exchange
  | done _, _ => []
  | step r next, w => ⟨r, (handle r w).1⟩ :: trail handle (next (handle r w).1) (handle r w).2

/-- Serve a request and write the exchange down. -/
def recording (handle : (r : Request) → ω → r.Answer × ω) (r : Request) (w : ω × List Exchange) :
    r.Answer × (ω × List Exchange) :=
  ((handle r w.1).1, (handle r w.1).2, w.2 ++ [⟨r, (handle r w.1).1⟩])

/-- What is written down is the trail. -/
theorem run_recording (p : Procedure α) (w : ω) (es : List Exchange) :
    p.run (recording handle) (w, es) =
      ((p.run handle w).1, (p.run handle w).2, es ++ p.trail handle w) := by
  induction p generalizing w es with
  | done a => simp only [run, trail, List.append_nil]
  | step r next ih =>
      simp only [run, trail]
      rw [recording, ih, List.append_assoc]
      rfl

end Procedure

namespace Exchange

/-- A record that was to be stored, and the answer. -/
def tried? : Exchange → Option (Booking × Except Failure Bool)
  | ⟨.store b, x⟩ => some (b, x)
  | _ => none

/-- An offering of which a spot was to be freed, and the answer. -/
def freed? : Exchange → Option (OfferingId × Except Failure Freeing)
  | ⟨.release id, x⟩ => some (id, x)
  | _ => none

/-- Whether it is logged that all references drawn were in use. -/
def exhausts : Exchange → Bool
  | ⟨.log event, _⟩ => event.exhausts
  | _ => false

/-- Whether the ledger was asked. -/
def minuted (e : Exchange) : Bool := !e.request.aside

/-- What the ledger was not asked shows in no part of a trail. -/
theorem filterMap_minuted {β : Type} {f : Exchange → Option β} (hf : ∀ e, e.minuted = false → f e = none)
    (es : List Exchange) : (es.filter minuted).filterMap f = es.filterMap f := by
  rw [List.filterMap_filter]
  congr 1
  funext e
  split
  · rfl
  · next h => exact (hf e (by simpa using h)).symm

end Exchange

/-- The records that were to be stored in the course of a trail, with the answers. -/
def tries (es : List Exchange) : List (Booking × Except Failure Bool) := es.filterMap Exchange.tried?

/-- The attempts to free a spot in the course of a trail, with the answers. -/
def releases (es : List Exchange) : List (OfferingId × Except Failure Freeing) :=
  es.filterMap Exchange.freed?

theorem tries_minuted (es : List Exchange) : tries (es.filter Exchange.minuted) = tries es := by
  refine Exchange.filterMap_minuted ?_ es
  rintro ⟨r, x⟩ hr
  cases r <;> first | rfl | cases hr

theorem releases_minuted (es : List Exchange) : releases (es.filter Exchange.minuted) = releases es := by
  refine Exchange.filterMap_minuted ?_ es
  rintro ⟨r, x⟩ hr
  cases r <;> first | rfl | cases hr

/-! ## Registry -/

namespace Registry

/-- What a request is answered by the registry. -/
def Answers (g : Registry) : (r : Request) → r.Answer → Prop
  | .claim reference _, x => x = true ↔ g.get? reference = none
  | .forget reference, x => x = g.get? reference
  | _, _ => True

/-- The registry after a request, by the answer to it. -/
def after (g : Registry) : (r : Request) → r.Answer → Registry
  | .claim reference id, true => g.insert reference id
  | .enter reference id, _ => g.insert reference id
  | .forget reference, _ => g.erase reference
  | _, _ => g

/-- **One request** and the registry, whatever the ledger is. -/
theorem serve {σ : Type} (l : Ledger σ) (r : Request) (w : World σ) :
    w.registry.Answers r (l.serve r w).1 ∧
      (l.serve r w).2.registry = w.registry.after r (l.serve r w).1 := by
  cases r with
  | claim reference id =>
      cases hentered : w.registry.get? reference with
      | none =>
          have hclaim : w.registry.claim? reference id = some (w.registry.insert reference id) := by
            simp only [claim?, Table.contains, hentered, Option.isSome_none, Bool.false_eq_true, if_false]
          simp only [Ledger.serve, hclaim]
          exact ⟨⟨fun _ => hentered, fun _ => rfl⟩, rfl⟩
      | some other =>
          have hclaim : w.registry.claim? reference id = none := by
            simp only [claim?, Table.contains, hentered, Option.isSome_some, if_true]
          simp only [Ledger.serve, hclaim]
          refine ⟨⟨fun h => ?_, fun h => ?_⟩, rfl⟩
          · cases h
          · cases hentered.symm.trans h
  | forget reference => exact ⟨rfl, rfl⟩
  | _ => exact ⟨trivial, rfl⟩

end Registry

/-! ## Minutes -/

/-- What a procedure has come to so far: the books, the registry, and what the ledger was asked. -/
structure Minutes where
  books : Books
  registry : Registry
  trail : List Exchange

namespace Minutes

/-- The minutes after a request and its answer; `kept` is what the ledger keeps of a record. -/
def after (kept : Booking → Booking) (m : Minutes) (r : Request) (x : r.Answer) : Minutes :=
  ⟨m.books.after kept r x, m.registry.after r x, if r.aside then m.trail else m.trail ++ [⟨r, x⟩]⟩

/-- The minutes after a reference was entered into the registry. -/
def entered (m : Minutes) (reference : String) (id : OfferingId) : Minutes :=
  { m with registry := m.registry.insert reference id }

/-- The minutes after a reference was taken out of the registry. -/
def forgotten (m : Minutes) (reference : String) : Minutes :=
  { m with registry := m.registry.erase reference }

/-- A procedure may ask for anything. It reckons with the answers of the registry, with those of the ledger
    that are `fair`, and, if `spare` says so, with references to spare. -/
def protocol (kept : Booking → Booking) (fair : Books → (r : Request) → r.Answer → Prop) (spare : Prop) :
    Protocol Minutes where
  start := ⟨⟨fun _ => none, fun _ => none⟩, .empty, []⟩
  may _ _ := True
  heard m r x := fair m.books r x ∧ m.registry.Answers r x ∧ (spare → (Exchange.mk r x).exhausts = false)
  next := after kept

variable {kept : Booking → Booking} {fair : Books → (r : Request) → r.Answer → Prop} {spare : Prop}

theorem protocol_ignores_draw : (protocol kept fair spare).Ignores .draw := fun _ => ⟨trivial, fun _ => rfl⟩

theorem protocol_ignores_log (event : Event) : (protocol kept fair spare).Ignores (.log event) :=
  fun _ => ⟨trivial, fun _ => rfl⟩

end Minutes

/-! ## Runs -/

section Runs

variable {σ α : Type} {p : Procedure α} {Q : Minutes → α → Prop}

/-- The minutes tell the registry and the trail of a run so far. -/
def Minutes.Tell (m : Minutes) (s : World σ × List Exchange) : Prop :=
  m.registry = s.1.registry ∧ m.trail = s.2.filter Exchange.minuted

theorem Exchange.filter_minuted_append (es : List Exchange) (r : Request) (x : r.Answer) :
    (es ++ [Exchange.mk r x]).filter Exchange.minuted =
      if r.aside then es.filter Exchange.minuted else es.filter Exchange.minuted ++ [⟨r, x⟩] := by
  rw [List.filter_append]
  cases haside : r.aside <;> simp [Exchange.minuted, haside]

/-- **One request** moves the minutes on, whatever ledger serves it. -/
theorem Minutes.Tell.after {l : Ledger σ} {m : Minutes} {s : World σ × List Exchange} (h : m.Tell s)
    (kept : Booking → Booking) (r : Request) :
    m.registry.Answers r (Procedure.recording l.serve r s).1 ∧
      (m.after kept r (Procedure.recording l.serve r s).1).Tell (Procedure.recording l.serve r s).2 := by
  obtain ⟨hregistry, htrail⟩ := h
  obtain ⟨hanswer, hafter⟩ := Registry.serve l r s.1
  refine ⟨hregistry ▸ hanswer, ?_, ?_⟩
  · show m.registry.after r (l.serve r s.1).1 = (l.serve r s.1).2.registry
    rw [hafter, hregistry]
  · show (if r.aside then m.trail else m.trail ++ _) = (s.2 ++ [_]).filter Exchange.minuted
    rw [Exchange.filter_minuted_append, htrail]
    rfl

/-- **Every ledger** leads a procedure along the minutes, as far as the registry and the trail go, unless
    the references drawn are exhausted although some were to spare. -/
theorem Ledger.keeps_minutes (l : Ledger σ) {w : World σ} {spare : Prop} {b : Books}
    (hp : p.Follows (Minutes.protocol (fun r => r) (fun _ _ _ => True) spare) Q ⟨b, w.registry, []⟩) :
    (spare ∧ ∃ e ∈ p.trail l.serve w, e.exhausts = true) ∨
      ∃ b', Q ⟨b', (l.run p w).2.registry, (p.trail l.serve w).filter Exchange.minuted⟩ (l.run p w).1 := by
  have hspoilt : ∀ (r : Request) (s : World σ × List Exchange), (spare ∧ ∃ e ∈ s.2, e.exhausts = true) →
      spare ∧ ∃ e ∈ (Procedure.recording l.serve r s).2.2, e.exhausts = true := by
    rintro r s ⟨hspare, e, he, hexhausts⟩
    exact ⟨hspare, e, List.mem_append_left _ he, hexhausts⟩
  have hserve : ∀ (m : Minutes) (s : World σ × List Exchange) (r : Request), m.Tell s → True →
      (spare ∧ ∃ e ∈ (Procedure.recording l.serve r s).2.2, e.exhausts = true) ∨
        ((True ∧ m.registry.Answers r (Procedure.recording l.serve r s).1 ∧
            (spare → (Exchange.mk r (Procedure.recording l.serve r s).1).exhausts = false)) ∧
          (m.after (fun r => r) r (Procedure.recording l.serve r s).1).Tell
            (Procedure.recording l.serve r s).2) := by
    intro m s r hm _
    obtain ⟨hanswer, htell⟩ := hm.after (l := l) (fun r => r) r
    by_cases hexhausted : spare ∧ (Exchange.mk r (l.serve r s.1).1).exhausts = true
    · exact .inl ⟨hexhausted.1, _, List.mem_append_right _ List.mem_cons_self, hexhausted.2⟩
    · refine .inr ⟨⟨trivial, hanswer, fun hspare => ?_⟩, htell⟩
      exact Bool.eq_false_iff.mpr fun hexhausts => hexhausted ⟨hspare, hexhausts⟩
  have hrun := hp.run_unless hspoilt hserve (w := (w, [])) ⟨rfl, rfl⟩
  rw [Procedure.run_recording, List.nil_append] at hrun
  rcases hrun with hexhausted | ⟨⟨b', registry, trail⟩, hQ, rfl, rfl⟩
  · exact .inl hexhausted
  · exact .inr ⟨b', hQ⟩

/-- A bookkeeper stays in a state that it can be in. -/
theorem Bookkeeper.fit_run (k : Bookkeeper σ) (p : Procedure α) {w : World σ} (hw : k.Fit w.state) :
    k.Fit (k.ledger.run p w).2.state := by
  induction p generalizing w with
  | done a => exact hw
  | step r next ih => exact ih _ (k.serve r hw).fit

/-- **A bookkeeper** leads a procedure along the minutes. -/
theorem Bookkeeper.keeps_minutes (k : Bookkeeper σ) {w : World σ} (hw : k.Fit w.state)
    (hp : p.Follows (Minutes.protocol k.kept Books.Answers False) Q ⟨k.books w.state, w.registry, []⟩) :
    Q ⟨k.books (k.ledger.run p w).2.state, (k.ledger.run p w).2.registry,
      (p.trail k.ledger.serve w).filter Exchange.minuted⟩ (k.ledger.run p w).1 := by
  have hserve : ∀ (m : Minutes) (s : World σ × List Exchange) (r : Request),
      (k.Fit s.1.state ∧ m.books = k.books s.1.state ∧ m.Tell s) → True →
      (m.books.Answers r (Procedure.recording k.ledger.serve r s).1 ∧
          m.registry.Answers r (Procedure.recording k.ledger.serve r s).1 ∧
          (False → (Exchange.mk r (Procedure.recording k.ledger.serve r s).1).exhausts = false)) ∧
        k.Fit (Procedure.recording k.ledger.serve r s).2.1.state ∧
        (m.after k.kept r (Procedure.recording k.ledger.serve r s).1).books =
          k.books (Procedure.recording k.ledger.serve r s).2.1.state ∧
        (m.after k.kept r (Procedure.recording k.ledger.serve r s).1).Tell
          (Procedure.recording k.ledger.serve r s).2 := by
    rintro m s r ⟨hfit, hbooks, hm⟩ -
    obtain ⟨hanswer, htell⟩ := hm.after (l := k.ledger) k.kept r
    have hserved := k.serve r hfit
    refine ⟨⟨hbooks ▸ hserved.answers, hanswer, nofun⟩, hserved.fit, ?_, htell⟩
    show m.books.after k.kept r (k.ledger.serve r s.1).1 = k.books (k.ledger.serve r s.1).2.state
    rw [hserved.books_eq, hbooks]
  have hrun := hp.run (R := fun m s => k.Fit s.1.state ∧ m.books = k.books s.1.state ∧ m.Tell s) hserve
    (w := (w, [])) ⟨hw, rfl, rfl, rfl⟩
  rw [Procedure.run_recording, List.nil_append] at hrun
  obtain ⟨⟨b, registry, trail⟩, hQ, -, rfl, rfl, rfl⟩ := hrun
  exact hQ

end Runs

/-! ## References -/

namespace Desk

open Procedure

variable {kept : Booking → Booking} {fair : Books → (r : Request) → r.Answer → Prop} {spare : Prop}
  {m : Minutes}

/-- **Issuing** a reference enters it into the registry, and nobody had it before if references are unique
    and some are to spare. -/
theorem follows_issue_minutes {d : Desk} {o : Offering} {firstName : String} {Q : Minutes → String → Prop}
    (hQ : ∀ reference, (d.rule.unique = true → spare → m.registry.get? reference = none) →
      Q (m.entered reference o.id) reference) :
    (d.issue o firstName).Follows (Minutes.protocol kept fair spare) Q m := by
  refine issue_rule Minutes.protocol_ignores_draw Minutes.protocol_ignores_log ?_ ?_
  · intro reference
    refine ⟨trivial, ?_, fun _ => rfl⟩
    rintro ⟨-, hclaimed, -⟩
    exact hQ reference fun _ _ => hclaimed.mp rfl
  · intro reference hexhausted
    refine ⟨trivial, fun x _ => hQ reference fun hunique hspare => ?_⟩
    -- with references to spare the draws are not exhausted
    obtain ⟨-, -, hnever⟩ := hexhausted hunique
    cases hnever hspare

end Desk

end DiveSchool
