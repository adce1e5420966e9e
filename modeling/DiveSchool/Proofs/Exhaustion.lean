import Mathlib.Data.Set.Card
import DiveSchool.Proofs.FirstFree
import DiveSchool.Proofs.Format
import DiveSchool.Proofs.Recording

/-!
# `DiveSchool.Proofs.Exhaustion` — a pair of names has nine hundred references

Whatever is stored under a reference was stored by a booking, so the reference ends in a suffix; and under
two given segments there are no more references than suffixes. When all of them are stored, a further booking
cannot get past that: however the words fall, every round tries a reference that is stored, and after the last
one the spot goes back.

## Contents
- **Numbers.** `Numbered`, references that end in a suffix, and `Under`, those with two given segments;
  `Suffix.all`, `reference_injective` and `encard_under_le`.
- **Records.** `Books.Numbered` is kept by every request that stores numbered references only.
- **Calls.** `numbering`, the charter to store no others: all calls keep it.
- **Runs.** Records stay numbered in every interleaving, and call after call on any ledger.
- **Exhaustion.** `Bookkeeper.Exact.ne_booked`: where all references are stored, none is booked.
- **Failures.** `World.Fit.untroubled`: in memory nothing fails while nobody holds a lock.
- **Main result.** `references_run_out`.
-/

namespace DiveSchool

/-! ## Numbers -/

/-- A reference that ends in a suffix. -/
def Numbered (reference : String) : Prop :=
  ∃ (stem : String) (suffix : Suffix), reference = stem ++ suffix.toText

/-- A reference that consists of two given segments and three more characters. -/
def Under (offering holder reference : String) : Prop :=
  ∃ number : List Char, number.length = 3 ∧
    reference = offering ++ "_" ++ holder ++ "_" ++ String.ofList number

theorem numbered_reference (offering holder : Option String) (suffix : Suffix) :
    Numbered (reference offering holder suffix) := ⟨stem offering holder, suffix, rfl⟩

namespace Suffix

theorem toText_injective : Function.Injective toText := by
  intro s s' h
  have hdigits : Nat.toDigits 10 s.value = Nat.toDigits 10 s'.value := by
    rw [← Nat.toList_repr, ← Nat.toList_repr]
    exact congrArg String.toList h
  have hvalue : s.value = s'.value := by
    calc s.value
        = Nat.ofDigitChars 10 (Nat.toDigits 10 s.value) 0 := Nat.ofDigitChars_ten_toDigits.symm
      _ = Nat.ofDigitChars 10 (Nat.toDigits 10 s'.value) 0 := by rw [hdigits]
      _ = s'.value := Nat.ofDigitChars_ten_toDigits
  cases s
  cases s'
  cases hvalue
  rfl

/-- The suffixes, from the first to the last. -/
def all : List Suffix := (List.finRange 900).map fun (i : Fin 900) => ⟨100 + i, by omega, by omega⟩

theorem mem_all (s : Suffix) : s ∈ all := by
  have hlow := s.low
  have hhigh := s.high
  refine List.mem_map.mpr ⟨⟨s.value - 100, by omega⟩, List.mem_finRange _, ?_⟩
  cases s
  simp only [Suffix.mk.injEq]
  omega

@[simp]
theorem length_all : all.length = 900 := by rw [all, List.length_map, List.length_finRange]

theorem nodup_all : all.Nodup := by
  refine (List.nodup_finRange 900).map fun (i j : Fin 900) h => ?_
  have hvalue := congrArg value h
  dsimp only at hvalue
  omega

end Suffix

theorem reference_injective (offering holder : Option String) :
    Function.Injective (reference offering holder) := by
  intro s s' h
  refine Suffix.toText_injective (String.toList_inj.mp ?_)
  have hlists := congrArg String.toList h
  rw [reference, reference, String.toList_append, String.toList_append] at hlists
  exact List.append_cancel_left hlists

/-- The three characters are the suffix. -/
theorem Under.of_numbered {offering holder reference : String} (h : Under offering holder reference)
    (hnumbered : Numbered reference) :
    ∃ suffix : Suffix, reference = offering ++ "_" ++ holder ++ "_" ++ suffix.toText := by
  obtain ⟨number, hlength, hunder⟩ := h
  obtain ⟨stem, suffix, hstem⟩ := hnumbered
  have hthree : suffix.toText.toList.length = 3 := (three_digits suffix.low suffix.high).1
  have hlists : stem.toList ++ suffix.toText.toList =
      (offering ++ "_" ++ holder ++ "_").toList ++ number := by
    have hsame := congrArg String.toList (hstem.symm.trans hunder)
    rwa [String.toList_append, String.toList_append, String.toList_ofList] at hsame
  obtain ⟨-, hnumber⟩ := List.append_inj' hlists (hthree.trans hlength.symm)
  refine ⟨suffix, ?_⟩
  rw [hunder, ← hnumber, String.ofList_toList]

/-- **Two segments have nine hundred references.** -/
theorem encard_under_le {Stored : String → Prop}
    (hstored : ∀ reference, Stored reference → Numbered reference) (offering holder : String) :
    Set.encard {reference | Stored reference ∧ Under offering holder reference} ≤ 900 := by
  let all : Finset String :=
    (Suffix.all.map fun suffix => offering ++ "_" ++ holder ++ "_" ++ suffix.toText).toFinset
  have hall : {reference | Stored reference ∧ Under offering holder reference} ⊆ (all : Set String) := by
    rintro reference ⟨hmem, hunder⟩
    obtain ⟨suffix, rfl⟩ := hunder.of_numbered (hstored reference hmem)
    exact List.mem_toFinset.mpr (List.mem_map_of_mem suffix.mem_all)
  have hcard : all.card ≤ 900 := by
    refine (List.toFinset_card_le _).trans (Nat.le_of_eq ?_)
    rw [List.length_map, Suffix.length_all]
  calc Set.encard {reference | Stored reference ∧ Under offering holder reference}
      ≤ Set.encard (all : Set String) := Set.encard_le_encard hall
    _ = all.card := Set.encard_coe_eq_coe_finsetCard all
    _ ≤ 900 := Nat.cast_le.mpr hcard

/-! ## Records -/

/-- Only records with a numbered reference are to be stored. -/
def Request.StoresNumbered : Request → Prop
  | .store b => Numbered b.reference
  | _ => True

/-- A record that was removed had a numbered reference. -/
def ShowsNumbered : (r : Request) → r.Answer → Prop
  | .remove _, .ok (some b) => Numbered b.reference
  | _, _ => True

/-- Every record is under its own reference, and that is a numbered one. -/
def Books.Numbered (b : Books) : Prop :=
  ∀ reference r, b.record? reference = some r → r.reference = reference ∧ DiveSchool.Numbered reference

namespace Books.Numbered

variable {b : Books} {kept : Booking → Booking}

theorem keyed {m : Memory} (h : m.books.Numbered) : m.Keyed := fun reference r hr => (h reference r hr).1

/-- A booking written down under its numbered reference. -/
theorem record (h : b.Numbered) {r : Booking} (hr : DiveSchool.Numbered r.reference) :
    (b.record r).Numbered := by
  intro reference r' hr'
  simp only [Books.record, Function.update_apply] at hr'
  split at hr'
  · next hsame =>
      cases hr'
      exact ⟨hsame.symm, hsame ▸ hr⟩
  · exact h reference r' hr'

theorem strike (h : b.Numbered) (reference : String) : (b.strike reference).Numbered := by
  intro reference' r hr
  simp only [Books.strike, Function.update_apply] at hr
  split at hr
  · cases hr
  · exact h reference' r hr

/-- **One request** keeps the records numbered and shows no others. -/
theorem step (h : b.Numbered) (hkept : ∀ r, (kept r).reference = r.reference) {r : Request} {x : r.Answer}
    (hstores : r.StoresNumbered) (hx : b.Answers r x) :
    ShowsNumbered r x ∧ (b.after kept r x).Numbered := by
  cases r with
  | reserve id =>
      refine ⟨trivial, ?_⟩
      rcases x with cause | (_ | _ | _ | _) <;> exact h
  | release id =>
      refine ⟨trivial, ?_⟩
      rcases x with cause | (_ | _ | _) <;> exact h
  | store r =>
      refine ⟨trivial, ?_⟩
      rcases x with cause | (_ | _)
      · exact h
      · exact h
      · refine h.record ?_
        rw [hkept]
        exact hstores
  | remove reference =>
      cases hx with
      | unremoved => exact ⟨trivial, h⟩
      | removed =>
          refine ⟨?_, h.strike reference⟩
          cases hr : b.record? reference with
          | none => exact trivial
          | some r =>
              obtain ⟨hsame, hnumbered⟩ := h reference r hr
              exact hsame.symm ▸ hnumbered
  | _ => exact ⟨trivial, h⟩

end Books.Numbered

/-! ## Calls -/

/-- A call stores numbered references only, if it is shown no others. -/
def numbering : Charter Unit where
  protocol _ :=
    { start := ()
      may := fun _ => Request.StoresNumbered
      heard := fun _ => ShowsNumbered
      next := fun _ _ _ => () }
  ends _ _ _ := True

namespace Desk

open Procedure

section Draws

variable {S : Type} {P : Protocol S} {s : S} {o : Offering} {firstName : String} {Q : S → String → Prop}

theorem follows_claimOrRedraw_of_draws (hP : P.LedgerOnly) {attempts left : Nat} {candidate : String}
    (hcandidate : Q s candidate) (hQ : ∀ suffix, Q s (reference (some o.name) (some firstName) suffix)) :
    (claimOrRedraw o firstName attempts left candidate).Follows P Q s := by
  induction left generalizing candidate with
  | zero =>
      unfold claimOrRedraw
      refine (hP.log _).follows_bind fun _ => ?_
      exact (hP.enter _ _).follows_bind fun _ => hcandidate
  | succ left ih =>
      unfold claimOrRedraw
      refine (hP.claim _ _).follows_bind fun claimed => ?_
      split
      · split
        · exact (hP.log _).follows_bind fun _ => hcandidate
        · exact hcandidate
      · split
        · next hlast => exact hlast ▸ ih hcandidate
        · exact hP.draw.follows_bind fun suffix => ih (hQ suffix)

/-- For an observer of the ledger, issuing is a draw. -/
theorem follows_issue_of_draws (hP : P.LedgerOnly) {d : Desk}
    (hQ : ∀ suffix, Q s (reference (some o.name) (some firstName) suffix)) :
    (d.issue o firstName).Follows P Q s := by
  unfold issue
  refine hP.draw.follows_bind fun suffix => ?_
  split
  · exact follows_claimOrRedraw_of_draws hP (hQ suffix) hQ
  · exact (hP.enter _ _).follows_bind fun _ => hQ suffix

end Draws

end Desk

theorem numbering_ledgerOnly (c : Call) : (numbering.protocol c).LedgerOnly := by
  constructor <;> intros <;> exact fun _ => ⟨trivial, fun _ => rfl⟩

theorem numbering_bookRecorded (d : Desk) (now : Timestamp) (id : OfferingId) (holder : Holder) :
    numbering.Grants d (.bookRecorded now id holder) := by
  have hP := numbering_ledgerOnly (.bookRecorded now id holder)
  refine Procedure.follows_bind.mpr (Procedure.follows_bind.mpr ?_)
  refine Desk.follows_reserve hP.log trivial (fun _ _ _ _ => trivial) fun _ _ _ => ⟨trivial, ?_⟩
  rintro (cause | (o | _ | _ | _)) -
  · exact trivial
  · refine Desk.storeUnderFresh_rule hP.log (fun _ => True) (fun _ => Numbered) trivial ?_ ?_ ?_
    · intro s _
      exact Desk.follows_issue_of_draws hP fun suffix => numbered_reference _ _ suffix
    · intro s reference hnumbered
      refine ⟨hnumbered, ?_⟩
      rintro (cause | (_ | _)) -
      · exact (hP.forget _).follows fun _ => trivial
      · exact (hP.forget _).follows fun _ => trivial
      · exact trivial
    · exact fun _ _ _ => ⟨trivial, fun _ _ => trivial⟩
  · exact trivial
  · exact trivial
  · exact trivial

/-- **Every call** keeps to the charter: what it stores it has drawn, or removed before. -/
theorem grants_numbering (d : Desk) (c : Call) : numbering.Grants d c := by
  have hP := numbering_ledgerOnly c
  cases c with
  | book now id holder =>
      refine Procedure.follows_bind.mpr (Desk.follows_book hP ?_)
      refine Desk.follows_reserve hP.log trivial (fun _ _ _ _ => trivial) fun _ _ _ => ⟨trivial, ?_⟩
      rintro (cause | (o | _ | _ | _)) - <;> first | exact trivial | exact fun _ => trivial
  | bookRecorded now id holder => exact numbering_bookRecorded d now id holder
  | release id =>
      exact Procedure.follows_bind.mpr (Desk.follows_release hP.log trivial fun _ _ => trivial)
  | cancel reference =>
      exact Procedure.follows_bind.mpr
        (Desk.follows_cancel hP trivial fun _ => ⟨trivial, fun _ _ => trivial⟩)
  | cancelRecorded reference =>
      refine Procedure.follows_bind.mpr
        (Desk.follows_cancelRecorded hP trivial (fun _ _ => trivial) (fun _ => trivial) ?_)
      refine fun b hb => ⟨trivial, ?_⟩
      rintro (cause | _) -
      · -- the record that is put back is the one that was removed
        exact ⟨hb, fun _ _ => trivial⟩
      · exact trivial
  | availability id =>
      exact Procedure.follows_bind.mpr (Desk.follows_availability trivial fun _ _ => trivial)

/-! ## Runs -/

/-- What holds of a run that began without records, at every moment. -/
structure Traffic.Numbering (t : Traffic) : Prop where
  sound : t.world.state.Sound
  numbered : t.world.state.books.Numbered
  kept : ∀ c ∈ t.callers, numbering.KeptBy c

namespace Traffic.Numbering

variable {d : Desk} {t : Traffic}

/-- **One request** of a caller, served or failing. -/
theorem respond (h : t.Numbering) (fault : Option Failure) {r : Request} (hstores : r.StoresNumbered) :
    ShowsNumbered r (respond fault r t.world).1 ∧ (respond fault r t.world).2.state.books.Numbered := by
  rcases respond_cases fault r t.world with ⟨f, x, hx, hr⟩ | hr
  · rw [hr]
    obtain ⟨hanswer, -⟩ := Books.answers_failed hx t.world.state.books (fun b => b)
    obtain ⟨hshows, -⟩ := h.numbered.step (fun _ => rfl) hstores hanswer
    exact ⟨hshows, h.numbered⟩
  · rw [hr]
    have hproper : t.world.state.Proper := ⟨h.sound, h.numbered.keyed⟩
    obtain ⟨-, hanswer, hbooks⟩ := hproper.serve r
    rw [hbooks]
    exact h.numbered.step (fun _ => rfl) hstores hanswer

/-- **One move** keeps the records numbered. -/
theorem step (h : t.Numbering) (mv : Move) : (t.step d mv).Numbering where
  sound := sound_step h.sound mv
  numbered := by
    refine world_step (I := fun w => w.state.books.Numbered) h.numbered ?_ (fun _ _ _ => h.numbered) ?_
      (fun _ _ => h.numbered) fun _ _ => h.numbered
    · intro order _ reference r hr
      have hrecords := (h.sound.begunEffect order).records
      refine h.numbered reference r ?_
      rw [← hr, Memory.books, Memory.books, hrecords]
    · intro _ fault c r next _ hturn
      exact (h.respond fault ((h.kept c hturn.mem).may hturn)).2
  kept := Charter.keptBy_step h.kept (fun c _ => grants_numbering d c) fun _ fault c _ _ _ hturn =>
    (h.respond fault ((h.kept c hturn.mem).may hturn)).1

theorem opening (lockTimeout : Nat) (registry : Registry) (generator : Generator) (start : Timestamp) :
    (Traffic.opening lockTimeout .empty registry generator start).Numbering where
  sound := Memory.sound_empty lockTimeout .empty
  numbered := nofun
  kept := List.forall_mem_nil _

end Traffic.Numbering

section Sequences

variable {σ : Type} {k : Bookkeeper σ} {d : Desk} {w : World σ}

/-- The world after calls that were carried out one after another. -/
def Ledger.runCalls (l : Ledger σ) (d : Desk) (w : World σ) (calls : List Call) : World σ :=
  calls.foldl (fun w c => (l.run (c.procedure d) w).2) w

/-- **One call** from beginning to end, on any ledger that keeps its books. -/
theorem Bookkeeper.numbered_run (hw : k.Fit w.state) (hnumbered : (k.books w.state).Numbered) (c : Call) :
    (k.books (k.ledger.run (c.procedure d) w).2.state).Numbered := by
  have hserve : ∀ (s : Unit) (w : World σ) (r : Request), (k.Fit w.state ∧ (k.books w.state).Numbered) →
      r.StoresNumbered → ShowsNumbered r (k.ledger.serve r w).1 ∧
        k.Fit (k.ledger.serve r w).2.state ∧ (k.books (k.ledger.serve r w).2.state).Numbered := by
    rintro - w r ⟨hw, hnumbered⟩ hstores
    obtain ⟨hfit, hanswer, hbooks⟩ := k.serve r hw
    obtain ⟨hshows, hafter⟩ := hnumbered.step k.reference_kept hstores hanswer
    exact ⟨hshows, hfit, hbooks ▸ hafter⟩
  obtain ⟨-, -, -, hafter⟩ := (grants_numbering d c).run
    (R := fun _ (w : World σ) => k.Fit w.state ∧ (k.books w.state).Numbered) hserve ⟨hw, hnumbered⟩
  exact hafter

theorem Bookkeeper.numbered_runCalls (hw : k.Fit w.state) (hnumbered : (k.books w.state).Numbered)
    (calls : List Call) : (k.books (k.ledger.runCalls d w calls).state).Numbered := by
  induction calls generalizing w with
  | nil => exact hnumbered
  | cons c calls ih => exact ih (k.fit_run (c.procedure d) hw) (Bookkeeper.numbered_run hw hnumbered c)

end Sequences

/-! ## Exhaustion -/

section Exhaustion

variable {σ : Type} {k : Bookkeeper σ} {d : Desk} {now : Timestamp} {id : OfferingId} {holder : Holder}
  {w : World σ} {o : Offering}

/-- Every reference of a holder to an offering is stored. -/
def Books.Full (b : Books) (o : Offering) (firstName : String) : Prop :=
  ∀ suffix, b.record? (reference (some o.name) (some firstName) suffix) ≠ none

/-- **Where all references are stored** none is booked, in any number of rounds: whatever is drawn and
    issued, the record is refused. -/
theorem Bookkeeper.Exact.ne_booked (hk : k.Exact) (hw : k.Fit w.state)
    (hfull : (k.books w.state).Full o holder.firstName) (left : Nat) (b : Booking) :
    (k.ledger.run (d.storeUnderFresh now id holder o left) w).1 ≠ .ok b := by
  have hfollows : (d.storeUnderFresh now id holder o left).Follows (k.ledger.alone False w)
      (fun _ x => ∀ b, x ≠ .ok b) w := by
    -- a refused record leaves all references stored, which is what the next round begins with
    refine Desk.storeUnderFresh_rule Ledger.alone_ignores_log
      (fun v => k.Fit v.state ∧ (k.books v.state).Full o holder.firstName)
      (fun v reference => k.Fit v.state ∧ (k.books v.state).Full o holder.firstName ∧
        (k.books v.state).record? reference ≠ none) ⟨hw, hfull⟩ ?_ ?_ ?_
    · rintro v ⟨hv, hfull⟩
      exact Desk.follows_issue_alone fun n _ => ⟨hv, hfull, hfull (v.generator.nth n)⟩
    · rintro v reference ⟨hv, hfull, hstored⟩
      refine ⟨trivial, ?_⟩
      rintro x ⟨hx, -⟩
      obtain ⟨hafter, hbooks⟩ := k.stored_alone hv ⟨reference, id, holder.firstName, now⟩
      have hexact := fun x => hk v.state ⟨reference, id, holder.firstName, now⟩ x hv
      replace hx : x = (k.ledger.store ⟨reference, id, holder.firstName, now⟩ v.state).answer := hx
      rw [← hx] at hexact hbooks
      rcases x with cause | (_ | _)
      · exact ⟨trivial, fun _ _ => ⟨hafter, hbooks ▸ hfull⟩⟩
      · exact ⟨trivial, fun _ _ => ⟨hafter, hbooks ▸ hfull⟩⟩
      · exact absurd ((hexact true rfl).mp rfl) hstored
    · exact fun _ _ _ => ⟨trivial, fun _ _ => nofun⟩
  obtain ⟨_, hne, -⟩ := Ledger.run_of_follows hfollows
  exact hne b

/-- A spot that reserving gave shows in the trail. -/
theorem Desk.spotTaken_mem_trail {l : Ledger σ} (ho : (l.run (d.reserve id holder) w).1 = .ok o) :
    spotTaken id o ∈ (d.reserve id holder).trail l.serve w := by
  have hfollows : ∀ m, (d.reserve id holder).Follows
      (Minutes.protocol (fun r => r) (fun _ _ _ => True) False)
      (fun m x => ∀ o, x = .ok o → spotTaken id o ∈ m.trail) m := by
    intro m
    refine follows_reserve Minutes.protocol_ignores_log trivial ?_ ?_
    · intro x e _ _ o ho
      cases ho
    · refine fun x _ _ => ⟨trivial, fun y _ o ho => ?_⟩
      rw [of_settle_eq_ok ho]
      exact List.mem_append_right _ List.mem_cons_self
  rcases l.keeps_minutes (b := ⟨fun _ => none, fun _ => none⟩) (hfollows _) with ⟨hfalse, -⟩ | ⟨_, htaken⟩
  · exact hfalse.elim
  · exact (List.mem_filter.mp (htaken o ho)).1

/-- Where no spot more or less is booked, every counter is as before. -/
theorem Books.Shifted.bookings_eq {b b' : Books} (h : b.Shifted b' id 0) (other : OfferingId) :
    (b'.offering? other).map (·.bookings) = (b.offering? other).map (·.bookings) := by
  obtain ⟨o, o', ho, ⟨-, hcount⟩, rfl⟩ := h
  by_cases hother : other = id
  · subst hother
    have hsame : o'.bookings = o.bookings := Int32.toInt_inj.mp (hcount.trans (Int.add_zero _))
    rw [Books.offering?_post_self, ho, Option.map_some, Option.map_some, hsame]
  · simp only [Books.post, Function.update_of_ne hother]

/-- **A booking in vain.** Where all references are stored, a booking that takes a spot and meets no failure
    tries as often as it may, frees the spot again, and reports a conflict. -/
theorem Bookkeeper.Exact.booked_in_vain (hk : k.Exact) (hw : k.Fit w.state)
    (hfull : (k.books w.state).Full o holder.firstName)
    (ho : (k.ledger.run (d.reserve id holder) w).1 = .ok o)
    (htries : ∀ t ∈ tries ((d.bookRecorded now id holder).trail k.ledger.serve w), ∀ e, t.2 ≠ .error e)
    (hreleases : ∀ r ∈ releases ((d.bookRecorded now id holder).trail k.ledger.serve w),
      ∀ e, r.2 ≠ .error e) :
    (k.ledger.run (d.bookRecorded now id holder) w).1 =
        .error (.infrastructure (Desk.noReferenceLeft d.rule.attempts)) ∧
      (tries ((d.bookRecorded now id holder).trail k.ledger.serve w)).length = d.rule.attempts ∧
      (k.books w.state).Shifted (k.books (k.ledger.run (d.bookRecorded now id holder) w).2.state) id 0 := by
  have hall := recorded_all_or_nothing k hw d now id holder
  obtain ⟨hrun, htrail⟩ := Desk.bookRecorded_of_reserved now ho
  -- the spot was taken, and its offering is the one whose references are stored
  have htaken : Desk.spotTaken id o ∈ (d.bookRecorded now id holder).trail k.ledger.serve w := by
    rw [htrail]
    exact List.mem_append_left _ (Desk.spotTaken_mem_trail ho)
  obtain ⟨-, hposted, -⟩ := k.reserved_alone hw ho
  have hfull' : (k.books (k.ledger.run (d.reserve id holder) w).2.state).Full o holder.firstName := by
    rw [hposted]
    exact hfull
  have hne : ∀ b, (k.ledger.run (d.bookRecorded now id holder) w).1 ≠ .ok b := by
    rw [hrun]
    exact hk.ne_booked (k.fit_run (d.reserve id holder) hw) hfull' d.rule.attempts
  cases hresult : (k.ledger.run (d.bookRecorded now id holder) w).1 with
  | ok b => exact absurd hresult (hne b)
  | error e =>
      obtain ⟨cause, y, rfl, hblames, hfreed, hshifted⟩ := hall.undone e o hresult htaken
      have hback : Books.stillTaken y = 0 := by
        cases y with
        | ok _ => rfl
        | error cause => exact absurd rfl (hreleases (id, .error cause) (hfreed ▸ List.mem_cons_self) cause)
      generalize tries ((d.bookRecorded now id holder).trail k.ledger.serve w) = tried at htries hblames ⊢
      cases hblames with
      | failed _ _ => exact absurd rfl (htries _ (List.mem_append_right _ List.mem_cons_self) cause)
      | refused _ hlength => exact ⟨rfl, hlength, hback ▸ hshifted⟩

end Exhaustion

/-! ## Failures -/

/-- Every exchange of a run was made in some world of it. -/
theorem Procedure.served_of_mem_trail {α ω : Type} {handle : (r : Request) → ω → r.Answer × ω} {I : ω → Prop}
    (hI : ∀ r w, I w → I (handle r w).2) (p : Procedure α) {w : ω} (hw : I w) {e : Exchange}
    (he : e ∈ p.trail handle w) : ∃ v, I v ∧ e.answer = (handle e.request v).1 := by
  induction p generalizing w with
  | done a => cases he
  | step r next ih =>
      rcases List.mem_cons.mp he with rfl | he
      · exact ⟨w, hw, rfl⟩
      · exact ih _ (hI r w hw) he

theorem Memory.store_ne_error (m : Memory) (b : Booking) (e : Failure) : (m.store b).answer ≠ .error e := by
  unfold store
  split
  · intro h
    cases h
  · intro h
    cases h

/-- **In memory nothing fails** as long as nobody holds a lock. -/
theorem World.Fit.untroubled {α : Type} {w : World Memory} (hw : w.Fit) (p : Procedure α) :
    (∀ t ∈ tries (p.trail Memory.ledger.serve w), ∀ e, t.2 ≠ .error e) ∧
      ∀ r ∈ releases (p.trail Memory.ledger.serve w), ∀ e, r.2 ≠ .error e := by
  have hserved := fun e => Procedure.served_of_mem_trail (fun r w (h : w.Fit) => h.serve r) p hw (e := e)
  constructor
  · intro t ht e herror
    obtain ⟨⟨q, x⟩, hmem, htried⟩ := List.mem_filterMap.mp ht
    obtain ⟨v, -, hanswer⟩ := hserved _ hmem
    cases q with
    | store b =>
        cases htried
        exact v.state.store_ne_error b e (hanswer.symm.trans herror)
    | _ => cases htried
  · intro r hr e herror
    obtain ⟨⟨q, x⟩, hmem, hfreed⟩ := List.mem_filterMap.mp hr
    obtain ⟨v, hv, hanswer⟩ := hserved _ hmem
    cases q with
    | release id =>
        cases hfreed
        exact Traffic.release_ne_error hv.sound hv.unlocked e (hanswer.symm.trans herror)
    | _ => cases hfreed

/-! ## Main result -/

/-- **References run out, and nothing comes of it.** Of the references with two given segments at most nine
    hundred are stored, whatever happened since the records were empty: in every interleaving in memory, and
    call after call on any ledger. When all of them are, a booking of an offering and a holder with these
    segments that takes a spot and meets no failure ends in a conflict that is not transient, after so many
    attempts as it may make, and the counters and the records are as before: however references are drawn and
    whatever the registry holds. -/
theorem references_run_out (d : Desk) (first second : String) :
    (∀ (lockTimeout : Nat) (registry : Registry) (generator : Generator) (start : Timestamp)
      (moves : List Move),
      let t := (Traffic.opening lockTimeout .empty registry generator start).run d moves
      Set.encard {reference | t.world.state.records.get? reference ≠ none ∧ Under first second reference} ≤
        900) ∧
    ∀ {σ : Type} (k : Bookkeeper σ) (w : World σ), k.Fit w.state →
      ((∀ reference, (k.books w.state).record? reference = none) → ∀ calls : List Call,
        Set.encard {reference | (k.books (k.ledger.runCalls d w calls).state).record? reference ≠ none ∧
          Under first second reference} ≤ 900) ∧
      ∀ (now : Timestamp) (id : OfferingId) (holder : Holder) (o : Offering), k.Exact →
        (∀ suffix : Suffix,
          (k.books w.state).record? (first ++ "_" ++ second ++ "_" ++ suffix.toText) ≠ none) →
        (k.ledger.run (d.reserve id holder) w).1 = .ok o →
        segment offeringPlaceholder (some o.name) = first →
        segment holderPlaceholder (some holder.firstName) = second →
        let p := d.bookRecorded now id holder
        let es := p.trail k.ledger.serve w
        (∀ t ∈ tries es, ∀ e, t.2 ≠ .error e) → (∀ r ∈ releases es, ∀ e, r.2 ≠ .error e) →
        let before := k.books w.state
        let after := k.books (k.ledger.run p w).2.state
        ∃ cause, (k.ledger.run p w).1 = .error (.infrastructure cause) ∧ cause.kind = .conflict ∧
          (BookingError.infrastructure cause).isTransient = false ∧
          (tries es).length = max 1 d.rule.maxAttempts.toNat ∧
          (∀ other, (after.offering? other).map (·.bookings) = (before.offering? other).map (·.bookings)) ∧
          after.record? = before.record? ∧ before.Shifted after id 0 := by
  have hbound : ∀ b : Books, b.Numbered →
      Set.encard {reference | b.record? reference ≠ none ∧ Under first second reference} ≤ 900 := by
    intro b hb
    refine encard_under_le (fun reference hstored => ?_) first second
    obtain ⟨r, hr⟩ := Option.ne_none_iff_exists'.mp hstored
    exact (hb reference r hr).2
  refine ⟨?_, fun k w hw => ⟨?_, ?_⟩⟩
  · intro lockTimeout registry generator start moves
    have hnumbering := Traffic.run_always (d := d) (I := Traffic.Numbering) (fun _ mv h => h.step mv)
      (Traffic.Numbering.opening lockTimeout registry generator start) moves
    exact hbound _ hnumbering.numbered
  · intro hempty calls
    refine hbound _ (Bookkeeper.numbered_runCalls hw (fun reference r hr => ?_) calls)
    cases (hempty reference).symm.trans hr
  · rintro now id holder o hk hstored ho rfl rfl p es htries hreleases before after
    obtain ⟨hfailed, hlength, hshifted⟩ := hk.booked_in_vain hw hstored ho htries hreleases
    exact ⟨_, hfailed, rfl, rfl, hlength, hshifted.bookings_eq, hshifted.record?_eq, hshifted⟩

namespace AllStored

/-- A trip with two spots. -/
def trip : Offering := Offering.trip ⟨1⟩ default "Reef" 2 none

/-- Ann's booking of another offering with this name, under a suffix. -/
def record (suffix : Suffix) : Booking :=
  ⟨reference (some "Reef") (some "Ann") suffix, ⟨2⟩, "Ann", default⟩

/-- Her bookings under some suffixes. -/
def records (suffixes : List Suffix) (h : suffixes.Nodup) : Table String Booking where
  entries := suffixes.map fun suffix => ((record suffix).reference, record suffix)
  distinct := by
    rw [List.map_map]
    exact h.map (reference_injective (some "Reef") (some "Ann"))

/-- The trip with some records, and a source that repeats one word for ever. -/
def world (records : Table String Booking) : World Memory :=
  ⟨{ (Memory.empty 0).put trip with records }, .empty, default, default, []⟩

/-- A desk that makes three attempts. -/
def desk : Desk := ⟨.ordinal, { maxAttempts := 3 }⟩

section Records

variable {suffixes : List Suffix} (h : suffixes.Nodup)

theorem get?_records_eq_some_iff {reference : String} {b : Booking} :
    (records suffixes h).get? reference = some b ↔
      ∃ suffix ∈ suffixes, (record suffix).reference = reference ∧ record suffix = b := by
  rw [Table.get?_eq_some_iff, records, List.mem_map]
  simp only [Prod.mk.injEq]

theorem fit_world : (world (records suffixes h)).Fit where
  sound := (Memory.sound_empty 0 (records suffixes h)).put (by decide)
  keyed := by
    intro reference b hb
    obtain ⟨suffix, -, rfl, rfl⟩ := (get?_records_eq_some_iff h).mp hb
    rfl
  unlocked := rfl

end Records

theorem stored_all (suffix : Suffix) :
    (records Suffix.all Suffix.nodup_all).get? (reference (some "Reef") (some "Ann") suffix) ≠ none :=
  Option.ne_none_iff_exists'.mpr
    ⟨_, (get?_records_eq_some_iff Suffix.nodup_all).mpr ⟨suffix, suffix.mem_all, rfl, rfl⟩⟩

theorem reserve_world (records : Table String Booking) :
    (Memory.ledger.run (desk.reserve ⟨1⟩ ⟨"Ann", none⟩) (world records)).1 = .ok (trip.taken default) := rfl

end AllStored

open AllStored in
/-- Every reference of Ann is stored, and one more booking is refused after three attempts. A booking in a
    ledger that was empty is within the bound. -/
theorem one_booking_too_many :
    let w := world (records Suffix.all Suffix.nodup_all)
    let p := desk.bookRecorded default ⟨1⟩ ⟨"Ann", none⟩
    (∃ cause, (Memory.ledger.run p w).1 = .error (.infrastructure cause) ∧ cause.kind = .conflict) ∧
      (tries (p.trail Memory.ledger.serve w)).length = 3 ∧
      (Memory.ledger.run p w).2.state.records.get? = w.state.records.get? ∧
      let t := (Traffic.opening 0 .empty .empty default default).run desk
        (Tested.adding ⟨trip, rfl⟩ ++ .call (.bookRecorded default ⟨1⟩ ⟨"Ann", none⟩) ::
          List.replicate 6 (.serve 0 none))
      Set.encard {reference | t.world.state.records.get? reference ≠ none ∧ Under "REEF" "ANN" reference} ≤
        900 := by
  intro w p
  obtain ⟨hbound, hledgers⟩ := references_run_out desk "REEF" "ANN"
  have hfirst : segment offeringPlaceholder (some "Reef") = "REEF" := by decide +kernel
  have hsecond : segment holderPlaceholder (some "Ann") = "ANN" := by decide +kernel
  have hfit : w.Fit := fit_world Suffix.nodup_all
  obtain ⟨htries, hreleases⟩ := hfit.untroubled p
  have hstored : ∀ suffix : Suffix,
      w.state.records.get? ("REEF" ++ "_" ++ "ANN" ++ "_" ++ suffix.toText) ≠ none := by
    intro suffix
    rw [← hfirst, ← hsecond]
    exact stored_all suffix
  have htaken : (Memory.ledger.run (desk.reserve ⟨1⟩ ⟨"Ann", none⟩) w).1 = .ok (trip.taken default) :=
    reserve_world (records Suffix.all Suffix.nodup_all)
  clear_value w
  obtain ⟨-, hvain⟩ := hledgers Memory.bookkeeper w ⟨hfit.sound, hfit.keyed⟩
  obtain ⟨cause, hfailed, hconflict, -, hthree, -, hrecords, -⟩ :=
    hvain default ⟨1⟩ ⟨"Ann", none⟩ (trip.taken default) Memory.exact hstored htaken hfirst hsecond htries
      hreleases
  exact ⟨⟨cause, hfailed, hconflict⟩, hthree, hrecords, hbound 0 .empty default default _⟩

end DiveSchool
