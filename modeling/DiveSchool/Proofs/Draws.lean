import Mathlib.Data.Nat.Find
import Mathlib.Order.Monotone.Basic
import DiveSchool.Proofs.Alone

/-!
# `DiveSchool.Proofs.Draws` — which of the references drawn is issued

A source of random words fixes every suffix that will be drawn, so for an offering and a holder it fixes a
sequence of references. `issue` walks along it: it takes the first that nobody has, or the last it may draw
when all of them are taken. How far it came is read off the source, since no two numbers of draws leave the
source in the same state.

## Contents
- **First ones.** `exists_first` and `first_unique`, on the first number with a property.
- **Sequences.** `Generator.skip`, `Generator.nth` and `Offering.drawn`; `Generator.skip_injective`.
- **Counting.** `draws`, and `Ledger.generator_run`: the source after a run tells how often it drew.
- **Walks.** `Desk.Issues`, which of the draws is issued, and `Desk.follows_issue_alone`.
- **Issuing.** `first_free_draw_is_issued`.
-/

namespace DiveSchool

/-! ## First ones -/

section First

variable {P : Nat → Prop}

/-- If there is a number with a property below a bound, there is a first one. -/
theorem exists_first {bound : Nat} (h : ∃ n < bound, P n) : ∃ n < bound, P n ∧ ∀ m < n, ¬ P m := by
  classical
  obtain ⟨n, ⟨hn, hP⟩, hbefore⟩ := Nat.findX h
  exact ⟨n, hn, hP, fun m hm hP' => hbefore m hm ⟨Nat.lt_trans hm hn, hP'⟩⟩

theorem first_unique {m n : Nat} (hm : P m) (hbefore : ∀ k < m, ¬ P k) (hn : P n)
    (hbefore' : ∀ k < n, ¬ P k) : m = n := by
  rcases Nat.lt_trichotomy m n with hlt | heq | hgt
  · exact absurd hm (hbefore' m hlt)
  · exact heq
  · exact absurd hn (hbefore n hgt)

end First

/-! ## Sequences -/

namespace Generator

/-- The source after a number of draws. -/
def skip : Generator → Nat → Generator
  | g, 0 => g
  | g, n + 1 => g.draw.2.skip n

/-- The suffix that a draw will give, counted from zero. -/
def nth (g : Generator) (n : Nat) : Suffix := (g.skip n).draw.1

theorem skip_add (g : Generator) (m n : Nat) : g.skip (m + n) = (g.skip m).skip n := by
  induction m generalizing g with
  | zero => rw [Nat.zero_add]; rfl
  | succ m ih =>
      rw [Nat.succ_add]
      exact ih g.draw.2

theorem skip_succ (g : Generator) (n : Nat) : g.skip (n + 1) = (g.skip n).draw.2 := g.skip_add n 1

theorem used_lt_used_draw (g : Generator) : g.used < g.draw.2.used := by
  unfold draw
  dsimp only
  split
  · exact Nat.lt_add_of_pos_right (by decide)
  · exact Nat.lt_add_one _

/-- Two numbers of draws never leave the source in the same state. -/
theorem skip_injective (g : Generator) : Function.Injective g.skip := by
  -- a draw uses one word or two, so the states are told apart by how many are used
  have hmono : StrictMono fun n => (g.skip n).used := by
    refine strictMono_nat_of_lt_succ fun n => ?_
    rw [skip_succ]
    exact (g.skip n).used_lt_used_draw
  intro m n h
  exact hmono.injective (congrArg used h)

end Generator

/-- The reference to an offering that a draw will give, counted from zero. -/
def Offering.drawn (o : Offering) (firstName : String) (g : Generator) (n : Nat) : String :=
  reference (some o.name) (some firstName) (g.nth n)

theorem Offering.drawn_skip (o : Offering) (firstName : String) (g : Generator) (m n : Nat) :
    o.drawn firstName (g.skip m) n = o.drawn firstName g (m + n) := by
  rw [drawn, drawn, Generator.nth, Generator.nth, Generator.skip_add]

/-! ## Counting -/

/-- Whether a suffix was drawn. -/
def Exchange.draws : Exchange → Bool
  | ⟨.draw, _⟩ => true
  | _ => false

/-- The number of draws in the course of a trail. -/
def draws (es : List Exchange) : Nat := es.countP Exchange.draws

namespace Ledger

variable {σ α : Type}

theorem generator_serve (l : Ledger σ) (r : Request) (w : World σ) :
    (l.serve r w).2.generator = w.generator.skip (draws [⟨r, (l.serve r w).1⟩]) := by
  cases r with
  | claim reference id =>
      rw [serve_claim]
      split <;> rfl
  | _ => rfl

/-- **The source after a run** has been drawn from as often as the trail shows. -/
theorem generator_run (l : Ledger σ) (p : Procedure α) (w : World σ) :
    (l.run p w).2.generator = w.generator.skip (draws (p.trail l.serve w)) := by
  induction p generalizing w with
  | done a => rfl
  | step r next ih =>
      have htrail : (Procedure.step r next).trail l.serve w =
          [⟨r, (l.serve r w).1⟩] ++ (next (l.serve r w).1).trail l.serve (l.serve r w).2 := rfl
      rw [htrail, draws, List.countP_append, Generator.skip_add]
      exact (ih _ _).trans (congrArg (Generator.skip · _) (l.generator_serve r w))

/-- How often a run drew is known from the source after it. -/
theorem draws_eq {l : Ledger σ} {p : Procedure α} {w : World σ} {n : Nat}
    (h : (l.run p w).2.generator = w.generator.skip n) : draws (p.trail l.serve w) = n :=
  w.generator.skip_injective ((l.generator_run p w).symm.trans h)

end Ledger

/-! ## Walks -/

section Walks

variable {σ : Type}

/-- The world after a number of draws. -/
def World.skip (w : World σ) (n : Nat) : World σ := { w with generator := w.generator.skip n }

/-- The world after a draw was issued for an offering: everything up to it is drawn, and it is entered. -/
def World.issued (w : World σ) (o : Offering) (firstName : String) (n : Nat) : World σ :=
  { w.skip (n + 1) with registry := w.registry.insert (o.drawn firstName w.generator n) o.id }

/-- A walk that begins after some draws, whatever the ledger and the registry have come to. -/
theorem World.issued_skip (w : World σ) (state : σ) (registry : Registry) (o : Offering) (firstName : String)
    (m n : Nat) : ({ w.skip m with state, registry } : World σ).issued o firstName n =
      { w.skip (m + n + 1) with
        state, registry := registry.insert (o.drawn firstName w.generator (m + n)) o.id } := by
  simp only [issued, skip, Offering.drawn_skip, ← Generator.skip_add, Nat.add_assoc]

namespace Desk

open Procedure

/-- Which draw is issued: the first free one, the last one if all that may be made are taken, and the very
    first if references are shared. -/
inductive Issues (d : Desk) (o : Offering) (firstName : String) (registry : Registry) (g : Generator) :
    Nat → Prop
  | free {n : Nat} (hunique : d.rule.unique = true) (hn : n < d.rule.attempts)
      (hfree : registry.get? (o.drawn firstName g n) = none)
      (htaken : ∀ m < n, registry.get? (o.drawn firstName g m) ≠ none) : Issues d o firstName registry g n
  | exhausted (hunique : d.rule.unique = true)
      (htaken : ∀ m < d.rule.attempts, registry.get? (o.drawn firstName g m) ≠ none) :
      Issues d o firstName registry g (d.rule.attempts - 1)
  | shared (hshared : d.rule.unique = false) : Issues d o firstName registry g 0

variable {l : Ledger σ} {sure : Prop} {start w : World σ} {d : Desk} {o : Offering} {firstName : String}
  {Q : World σ → String → Prop}

/-- Whether a note is made before the end makes no difference. -/
theorem follows_noted {c : Prop} [Decidable c] {event : Event} {reference : String} (hQ : Q w reference) :
    (if c then (do log event; return reference) else return reference : Procedure String).Follows
      (l.alone sure start) Q w := by
  split
  · exact (Ledger.alone_ignores_log event).follows_bind fun _ => hQ
  · exact hQ

/-- **Walking on** from a draw, when all before it are taken and some may still be made. -/
theorem follows_claimOrRedraw_alone {left n : Nat} (hunique : d.rule.unique = true)
    (hn : n + (left + 1) = d.rule.attempts)
    (htaken : ∀ m < n, w.registry.get? (o.drawn firstName w.generator m) ≠ none)
    (hQ : ∀ m, d.Issues o firstName w.registry w.generator m →
      Q (w.issued o firstName m) (o.drawn firstName w.generator m)) :
    (claimOrRedraw o firstName d.rule.attempts (left + 1) (o.drawn firstName w.generator n)).Follows
      (l.alone sure start) Q (w.skip (n + 1)) := by
  -- on the draws left; the walk stops at the first one that is free
  induction left generalizing n with
  | zero =>
      unfold claimOrRedraw
      refine follows_bind.mpr (Ledger.follows_claim_alone ?_ ?_)
      · intro hfree
        rw [if_pos rfl]
        exact follows_noted (hQ n (.free hunique (by omega) hfree htaken))
      · intro hused
        have hall := Nat.forall_lt_succ_right.mpr ⟨htaken, hused⟩
        have hlast : n = d.rule.attempts - 1 := by omega
        have hissued := hQ _ (.exhausted hunique (hn ▸ hall))
        rw [← hlast] at hissued
        rw [if_neg Bool.false_ne_true, if_pos rfl]
        unfold claimOrRedraw
        refine (Ledger.alone_ignores_log _).follows_bind fun _ => ?_
        exact follows_bind.mpr ⟨trivial, fun _ _ => hissued⟩
  | succ left ih =>
      unfold claimOrRedraw
      refine follows_bind.mpr (Ledger.follows_claim_alone ?_ ?_)
      · intro hfree
        rw [if_pos rfl]
        exact follows_noted (hQ n (.free hunique (by omega) hfree htaken))
      · intro hused
        have hnext := ih (by omega) (Nat.forall_lt_succ_right.mpr ⟨htaken, hused⟩)
        have hskip : w.skip (n + 1 + 1) = { w with generator := (w.generator.skip (n + 1)).draw.2 } := by
          rw [World.skip, Generator.skip_succ]
        rw [hskip] at hnext
        rw [if_neg Bool.false_ne_true, if_neg (Nat.succ_ne_zero left)]
        unfold drawReference
        refine follows_bind.mpr (follows_bind.mpr ⟨trivial, ?_⟩)
        rintro x ⟨rfl, -⟩
        exact hnext

/-- **Issuing** alone: one of the draws is issued, and nothing has changed but that it and those before are
    drawn and it is entered. -/
theorem follows_issue_alone
    (hQ : ∀ n, d.Issues o firstName w.registry w.generator n →
      Q (w.issued o firstName n) (o.drawn firstName w.generator n)) :
    (d.issue o firstName).Follows (l.alone sure start) Q w := by
  unfold issue drawReference
  refine follows_bind.mpr (follows_bind.mpr ⟨trivial, ?_⟩)
  rintro x ⟨rfl, -⟩
  by_cases hunique : d.rule.unique = true
  · have hpos : 1 ≤ d.rule.attempts := Nat.le_max_left _ _
    have hattempts : d.rule.attempts - 1 + 1 = d.rule.attempts := by omega
    have hwalk : (claimOrRedraw o firstName d.rule.attempts (d.rule.attempts - 1 + 1)
        (o.drawn firstName w.generator 0)).Follows (l.alone sure start) Q (w.skip (0 + 1)) :=
      follows_claimOrRedraw_alone hunique (by omega) (fun m hm => absurd hm (Nat.not_lt_zero m)) hQ
    rw [hattempts] at hwalk
    simp only [hunique, if_true]
    exact hwalk
  · have hshared := Bool.eq_false_iff.mpr hunique
    simp only [hshared, Bool.false_eq_true, if_false]
    exact follows_bind.mpr ⟨trivial, fun _ _ => hQ 0 (.shared hshared)⟩

end Desk

end Walks

/-! ## Issuing -/

/-- The run of a procedure has issued the `n`-th draw, counted from zero: it has drawn up to there and not
    further, and nothing has changed but that the reference is entered for the offering. -/
structure Ledger.Issued {σ : Type} (l : Ledger σ) (p : Procedure String) (w : World σ) (o : Offering)
    (firstName : String) (n : Nat) : Prop where
  reference_eq : (l.run p w).1 = o.drawn firstName w.generator n
  draws_eq : draws (p.trail l.serve w) = n + 1
  world_eq : (l.run p w).2 = { w with
    registry := w.registry.insert (o.drawn firstName w.generator n) o.id
    generator := w.generator.skip (n + 1)
    log := (l.run p w).2.log }

namespace Desk

variable {σ : Type}

/-- What is issued is the draw that the walk leads to. -/
theorem issued_of_issues (l : Ledger σ) {d : Desk} {o : Offering} {firstName : String} {w : World σ} {n : Nat}
    (hn : ∀ m, d.Issues o firstName w.registry w.generator m → m = n) :
    l.Issued (d.issue o firstName) w o firstName n := by
  have hfollows : (d.issue o firstName).Follows (l.alone False w)
      (fun v reference => v = w.issued o firstName n ∧ reference = o.drawn firstName w.generator n) w :=
    follows_issue_alone fun m hm => by
      rw [hn m hm]
      exact ⟨rfl, rfl⟩
  obtain ⟨_, ⟨rfl, hreference⟩, hworld⟩ := Ledger.run_of_follows hfollows
  refine ⟨hreference, Ledger.draws_eq ?_, hworld⟩
  rw [hworld]
  rfl

/-- **The first free draw is issued**, and no draw is made after it. When all that may be made are taken it
    is the last of them, which then stands for the new offering; and it is the very first one when references
    need not be unique. -/
theorem first_free_draw_is_issued (l : Ledger σ) (d : Desk) (o : Offering) (firstName : String) (w : World σ) :
    (d.rule.unique = true →
      (∀ n < max 1 d.rule.maxAttempts.toNat,
        w.registry.get? (o.drawn firstName w.generator n) = none →
        (∀ m < n, w.registry.get? (o.drawn firstName w.generator m) ≠ none) →
        l.Issued (d.issue o firstName) w o firstName n) ∧
      ((∀ m < max 1 d.rule.maxAttempts.toNat, w.registry.get? (o.drawn firstName w.generator m) ≠ none) →
        l.Issued (d.issue o firstName) w o firstName (max 1 d.rule.maxAttempts.toNat - 1))) ∧
    (d.rule.unique = false → l.Issued (d.issue o firstName) w o firstName 0) := by
  -- in each case the other two ways to stop are excluded
  refine ⟨fun hunique => ⟨?_, ?_⟩, ?_⟩
  · intro n hn hfree htaken
    refine issued_of_issues l ?_
    rintro m (⟨-, -, hfree', htaken'⟩ | ⟨-, htaken'⟩ | hshared)
    · exact first_unique hfree' htaken' hfree htaken
    · exact absurd hfree (htaken' n hn)
    · cases hunique.symm.trans hshared
  · intro htaken
    refine issued_of_issues l ?_
    rintro m (⟨-, hm, hfree, -⟩ | ⟨-, -⟩ | hshared)
    · exact absurd hfree (htaken m hm)
    · rfl
    · cases hunique.symm.trans hshared
  · intro hshared
    refine issued_of_issues l ?_
    rintro m (⟨hunique, -⟩ | ⟨hunique, -⟩ | -)
    · cases hshared.symm.trans hunique
    · cases hshared.symm.trans hunique
    · rfl

end Desk

namespace Collisions

/-- A trip that Ann books. -/
def trip : Offering := Offering.trip ⟨1⟩ default "Reef" 2 none

/-- A desk that draws three times at most. -/
def desk : Desk := ⟨.ordinal, { maxAttempts := 3 }⟩

/-- The first two references that are drawn for Ann are taken by another offering, and the third is not. -/
def world : World Memory where
  state := (Memory.empty 0).put trip
  registry := (Table.empty.insert "REEF_ANN_100" ⟨2⟩).insert "REEF_ANN_101" ⟨2⟩
  generator := .cycling [0, 5000000, 10000000]
  now := default
  log := []

/-- All three are taken. -/
def crowded : World Memory := { world with registry := world.registry.insert "REEF_ANN_102" ⟨2⟩ }

end Collisions

open Collisions in
/-- Ann gets the third reference in either case, the other offering loses it in the second, and she shares
    the first one where that is allowed. -/
theorem third_draw_issued :
    Memory.ledger.Issued (desk.issue trip "Ann") world trip "Ann" 2 ∧
      Memory.ledger.Issued (desk.issue trip "Ann") crowded trip "Ann" 2 ∧
      (Memory.ledger.run (desk.issue trip "Ann") crowded).2.registry.get? "REEF_ANN_102" = some ⟨1⟩ ∧
      Memory.ledger.Issued ({ desk with rule := { unique := false } }.issue trip "Ann") world trip "Ann" 0 := by
  obtain ⟨hthird, -⟩ :=
    (Desk.first_free_draw_is_issued Memory.ledger desk trip "Ann" world).1 rfl
  obtain ⟨-, hlast⟩ :=
    (Desk.first_free_draw_is_issued Memory.ledger desk trip "Ann" crowded).1 rfl
  have hshared := (Desk.first_free_draw_is_issued Memory.ledger
    { desk with rule := { unique := false } } trip "Ann" world).2 rfl
  refine ⟨hthird 2 (by decide) (by decide +kernel) (by decide +kernel), hlast (by decide +kernel), ?_, hshared⟩
  decide +kernel

end DiveSchool
