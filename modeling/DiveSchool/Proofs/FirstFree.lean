import DiveSchool.Proofs.Draws

/-!
# `DiveSchool.Proofs.FirstFree` — the reference under which a booking is stored

`storeUnderFresh` makes rounds: each issues a reference, and if that is stored already takes it back and
starts another round where the draws of the last one ended. Two budgets run along, the draws of a round and
the rounds; the walks of all rounds together form one walk along the references drawn, which comes to its
end at the first that is neither in the registry nor stored, since no round passes by it and every round
draws at least once.

## Contents
- **Exact ledgers.** `Bookkeeper.Exact`: a record is refused if, and only if, its reference is stored.
- **Rounds.** `Desk.storeUnderFresh_countdown`, the rule of the loop with a budget in its invariant.
- **Reserving.** `Bookkeeper.reserved_alone`.
- **Booking.** `draws_bookRecorded_le` and `first_unused_draw_is_booked`.
-/

namespace DiveSchool

variable {σ : Type}

/-! ## Exact ledgers -/

/-- A record that is not stored because of a failure is refused exactly if its reference is stored. -/
def Bookkeeper.Exact (k : Bookkeeper σ) : Prop :=
  ∀ s b x, k.Fit s → (k.ledger.store b s).answer = .ok x →
    (x = true ↔ (k.books s).record? b.reference = none)

theorem Memory.exact : Memory.bookkeeper.Exact := by
  intro m b x _ hx
  replace hx : (m.store b).answer = .ok x := hx
  show x = true ↔ m.records.get? b.reference = none
  unfold store Table.contains at hx
  cases hstored : m.records.get? b.reference with
  | none =>
      simp only [hstored] at hx
      cases hx
      exact iff_of_true rfl rfl
  | some other =>
      simp only [hstored] at hx
      cases hx
      exact iff_of_false Bool.false_ne_true (Option.some_ne_none _)

theorem Database.exact : Database.bookkeeper.Exact := by
  intro db b x _ hx
  replace hx : (storeBooking b db).1 = .ok x := hx
  show x = true ↔ db.tables.bookings.get? b.reference = none
  have hanswer : ∀ y, (storeBooking b db).1 = .ok y →
      (y = true ↔ db.tables.bookings.get? b.reference = none) := by
    refine (Session.ends_statement (Q := fun x _ => ∀ y, x = .ok y →
      (y = true ↔ db.tables.bookings.get? b.reference = none)) ?_ ?_).1
    · intro r _ y hy
      cases hy
    · intro _
      unfold Tables.insertBooking Table.contains
      cases hstored : db.tables.bookings.get? b.reference with
      | some other =>
          intro y hy
          cases hy
          exact iff_of_false Bool.false_ne_true (Option.some_ne_none _)
      | none =>
          cases db.tables.offerings.get? b.offeringId with
          | none =>
              intro y hy
              cases hy
          | some o =>
              intro y hy
              cases hy
              exact iff_of_true rfl rfl
  exact hanswer x hx

theorem Drill.exact {k : Bookkeeper σ} (hk : k.Exact) (now : Timestamp) : (Drill.bookkeeper k now).Exact := by
  intro d b x h hx
  obtain ⟨hanswer, -⟩ := store_of_calm now k.ledger b h.2
  obtain ⟨-, ⟨e, hfailed, -⟩ | ⟨hserved, -⟩⟩ := guarded_cases .store (k.ledger.store b) d
  · cases hx.symm.trans (hanswer.trans hfailed)
  · exact hk d.inner b x h.1 (hserved.symm.trans (hanswer.symm.trans hx))

/-! ## Rounds -/

namespace Desk

open Procedure

section Rules

variable {S : Type} {P : Protocol S} {s : S}

/-- **Storing** under a fresh reference, round by round: `J` holds before a round, `K` while its reference
    is issued without a record, both by the number of rounds that are left after it. -/
theorem storeUnderFresh_countdown (hlog : ∀ event, P.Ignores (.log event)) {d : Desk} {now : Timestamp}
    {id : OfferingId} {holder : Holder} {o : Offering} {left : Nat}
    {Q : S → Except BookingError Booking → Prop} (J : Nat → S → Prop) (K : Nat → S → String → Prop)
    (hJ : J left s)
    (hissue : ∀ left s, J (left + 1) s → (d.issue o holder.firstName).Follows P (K left) s)
    (hstore : ∀ left s reference, K left s reference →
      P.may s (.store ⟨reference, id, holder.firstName, now⟩) ∧
      ∀ x, P.heard s (.store ⟨reference, id, holder.firstName, now⟩) x → match x with
        | .ok true => Q (P.next s (.store ⟨reference, id, holder.firstName, now⟩) x)
            (.ok ⟨reference, id, holder.firstName, now⟩)
        | .ok false => (ask (.forget reference)).Follows P (fun s _ => J left s)
            (P.next s (.store ⟨reference, id, holder.firstName, now⟩) x)
        | .error cause => (ask (.forget reference) >>= fun _ => undo id cause).Follows P
            (fun s e => Q s (.error e))
            (P.next s (.store ⟨reference, id, holder.firstName, now⟩) x))
    (hundo : ∀ s, J 0 s → (undo id (noReferenceLeft d.rule.attempts)).Follows P
      (fun s e => Q s (.error e)) s) :
    (d.storeUnderFresh now id holder o left).Follows P Q s := by
  induction left generalizing s with
  | zero => exact follows_bind.mpr (hundo s hJ)
  | succ left ih =>
      refine follows_bind.mpr ((hissue left s hJ).mono fun s reference hK => ?_)
      obtain ⟨hmay, hstored⟩ := hstore left s reference hK
      refine follows_bind.mpr (follows_ask.mpr ⟨hmay, ?_⟩)
      rintro (cause | (_ | _)) hx
      · have hundone := follows_bind.mp (hstored _ hx)
        refine follows_bind.mpr (hundone.mono fun s _ hundone => ?_)
        exact follows_bind.mpr hundone
      · refine follows_bind.mpr ((hstored _ hx).mono fun s _ hJ => ?_)
        exact (hlog _).follows_bind fun _ => ih hJ
      · exact (hlog _).follows_bind fun _ => hstored _ hx

end Rules

variable {l : Ledger σ} {sure : Prop} {start w : World σ} {d : Desk} {now : Timestamp} {id : OfferingId}
  {holder : Holder} {o : Offering}

theorem Issues.lt {firstName : String} {registry : Registry} {g : Generator} {n : Nat}
    (h : d.Issues o firstName registry g n) : n < d.rule.attempts := by
  have hpos : 1 ≤ d.rule.attempts := Nat.le_max_left _ _
  cases h with
  | free _ hn => exact hn
  | exhausted => omega
  | shared => exact hpos

/-- A walk that begins after some draws does not pass by one that is free, and stops only where nothing is
    in the way. -/
theorem Issues.of_free_ahead {firstName : String} {registry : Registry} {g : Generator} {m n j : Nat}
    (h : d.Issues o firstName registry (g.skip m) j) (hmn : m ≤ n) (hn : n < d.rule.attempts)
    (hfree : d.rule.unique = true → registry.get? (o.drawn firstName g n) = none) :
    m + j ≤ n ∧ (d.rule.unique = true → registry.get? (o.drawn firstName g (m + j)) = none) := by
  have hdrawn := o.drawn_skip firstName g m
  have hahead : d.rule.unique = true → registry.get? (o.drawn firstName (g.skip m) (n - m)) = none := by
    rw [hdrawn, Nat.add_sub_cancel' hmn]
    exact hfree
  cases h with
  | free hunique _ hclaimed htaken =>
      refine ⟨?_, fun _ => hdrawn j ▸ hclaimed⟩
      by_contra hpast
      exact htaken (n - m) (by omega) (hahead hunique)
  | exhausted hunique htaken => exact absurd (hahead hunique) (htaken (n - m) (by omega))
  | shared hshared => exact ⟨hmn, fun hunique => absurd (hshared.symm.trans hunique) (by decide)⟩

/-- At most so many draws are made, counted on the source. -/
def DrawnAtMost (g : Generator) (most : Nat) (w : World σ) : Prop :=
  ∃ n ≤ most, w.generator = g.skip n

theorem follows_undo_drawn {g : Generator} {most : Nat} {cause : Failure} (h : DrawnAtMost g most w) :
    (undo id cause).Follows (l.alone sure start) (fun w _ => DrawnAtMost g most w) w :=
  follows_undo Ledger.alone_ignores_log trivial fun _ _ => h

/-- **The rounds** draw, taken together, at most as often as each of them may. -/
theorem follows_storeUnderFresh_drawn (left : Nat) :
    (d.storeUnderFresh now id holder o left).Follows (l.alone sure start)
      (fun w' _ => DrawnAtMost w.generator (left * d.rule.attempts) w') w := by
  -- what the rounds left may draw is kept back
  refine storeUnderFresh_countdown Ledger.alone_ignores_log
    (fun i v => ∃ n, n + i * d.rule.attempts ≤ left * d.rule.attempts ∧ v.generator = w.generator.skip n)
    (fun i v _ => ∃ n, n + i * d.rule.attempts ≤ left * d.rule.attempts ∧ v.generator = w.generator.skip n)
    ⟨0, Nat.le_of_eq (Nat.zero_add _), rfl⟩ ?_ ?_ ?_
  · rintro i v ⟨n, hn, hv⟩
    refine follows_issue_alone fun m hm => ⟨n + (m + 1), ?_, ?_⟩
    · have hlt := hm.lt
      rw [Nat.succ_mul] at hn
      omega
    · rw [Generator.skip_add, ← hv]
      rfl
  · rintro i v reference ⟨n, hn, hv⟩
    refine ⟨trivial, ?_⟩
    rintro (cause | (_ | _)) -
    · refine follows_bind.mpr ⟨trivial, fun _ _ => ?_⟩
      exact follows_undo_drawn ⟨n, Nat.le_trans (Nat.le_add_right _ _) hn, hv⟩
    · exact ⟨trivial, fun _ _ => ⟨n, hn, hv⟩⟩
    · exact ⟨n, Nat.le_trans (Nat.le_add_right _ _) hn, hv⟩
  · rintro v ⟨n, hn, hv⟩
    exact follows_undo_drawn ⟨n, Nat.le_trans (Nat.le_add_right _ _) hn, hv⟩

/-- **The rounds** end with the first draw that is not stored and, if references are to be unique, not in the
    registry, if it is within both budgets. `I` holds of the states that refused records lead through, and `R`
    of the references that are stored in them. -/
theorem follows_storeUnderFresh_first {I : σ → Prop} {R : String → Prop} {n left : Nat} (hI : I w.state)
    (hstore : ∀ s reference, I s → match (l.store ⟨reference, id, holder.firstName, now⟩ s).answer with
      | .ok true => ¬ R reference
      | .ok false => R reference ∧ I (l.store ⟨reference, id, holder.firstName, now⟩ s).state
      | .error _ => sure)
    (hround : n < d.rule.attempts) (hleft : n < left)
    (hfree : d.rule.unique = true → w.registry.get? (o.drawn holder.firstName w.generator n) = none)
    (hnew : ¬ R (o.drawn holder.firstName w.generator n))
    (hused : ∀ m < n,
      (d.rule.unique = true → w.registry.get? (o.drawn holder.firstName w.generator m) = none) →
        R (o.drawn holder.firstName w.generator m))
    {Q : World σ → Except BookingError Booking → Prop}
    (hQ : ∀ s registry booking, (d.rule.unique = true → registry = w.registry) →
      booking = ⟨o.drawn holder.firstName w.generator n, id, holder.firstName, now⟩ → I s →
      (l.store booking s).answer = .ok true →
      Q { w.skip (n + 1) with
        state := (l.store booking s).state
        registry := registry.insert (o.drawn holder.firstName w.generator n) o.id } (.ok booking)) :
    (d.storeUnderFresh now id holder o left).Follows (l.alone sure start) Q w := by
  -- every round begins at some draw that is not past the free one, with rounds enough to come there
  refine storeUnderFresh_countdown Ledger.alone_ignores_log
    (fun i v => ∃ m state registry, v = { w.skip m with state, registry } ∧ I state ∧
      (d.rule.unique = true → registry = w.registry) ∧ m ≤ n ∧ n < m + i)
    (fun i v reference => ∃ m state registry, v = { w.skip (m + 1) with
        state, registry := registry.insert (o.drawn holder.firstName w.generator m) o.id } ∧
      reference = o.drawn holder.firstName w.generator m ∧ I state ∧
      (d.rule.unique = true → registry = w.registry ∧
        registry.get? (o.drawn holder.firstName w.generator m) = none) ∧ m ≤ n ∧ n ≤ m + i)
    ⟨0, w.state, w.registry, rfl, hI, fun _ => rfl, Nat.zero_le n, by omega⟩ ?_ ?_ ?_
  · rintro i v ⟨m, state, registry, rfl, hs, hregistry, hmn, hi⟩
    refine follows_issue_alone fun j hj => ?_
    obtain ⟨hbefore, hclaimed⟩ := hj.of_free_ahead hmn hround fun hunique => hregistry hunique ▸ hfree hunique
    refine ⟨m + j, state, registry, w.issued_skip state registry o holder.firstName m j,
      o.drawn_skip holder.firstName w.generator m j, hs, ?_, hbefore, by omega⟩
    exact fun hunique => ⟨hregistry hunique, hclaimed hunique⟩
  · rintro i v reference ⟨m, state, registry, rfl, rfl, hs, hclaimed, hmn, hi⟩
    refine ⟨trivial, ?_⟩
    rintro x ⟨hx, hnofailure⟩
    replace hx : x =
      (l.store ⟨o.drawn holder.firstName w.generator m, id, holder.firstName, now⟩ state).answer := hx
    have hstored := hstore state (o.drawn holder.firstName w.generator m) hs
    rw [← hx] at hstored
    rcases x with cause | (_ | _)
    · cases hnofailure hstored
    · -- refused: the reference is taken back, and the next round begins after it
      obtain ⟨hrefused, hs'⟩ := hstored
      have hne : m ≠ n := by
        rintro rfl
        exact hnew hrefused
      refine ⟨trivial, fun _ _ => ⟨m + 1, _, _, rfl, hs', fun hunique => ?_, by omega, by omega⟩⟩
      obtain ⟨hregistry, hfree⟩ := hclaimed hunique
      exact (Table.erase_insert hfree o.id).trans hregistry
    · -- stored: so it is the free one
      have hsame : m = n := by
        by_contra hne
        refine hstored (hused m (by omega) fun hunique => ?_)
        obtain ⟨hregistry, hfree⟩ := hclaimed hunique
        exact hregistry ▸ hfree
      subst hsame
      exact hQ state registry _ (fun hunique => (hclaimed hunique).1) rfl hs hx.symm
  · rintro v ⟨m, state, registry, rfl, hs, hregistry, hmn, hi⟩
    omega

end Desk

/-! ## Reserving -/

theorem Procedure.trail_bind {α β ω : Type} (handle : (r : Request) → ω → r.Answer × ω) (p : Procedure α)
    (f : α → Procedure β) (w : ω) :
    (p >>= f).trail handle w = p.trail handle w ++ (f (p.run handle w).1).trail handle (p.run handle w).2 := by
  induction p generalizing w with
  | done a => rfl
  | step r next ih => exact congrArg (_ :: ·) (ih (handle r w).1 (handle r w).2)

/-- **Booking** with a record, once a spot is taken. -/
theorem Desk.bookRecorded_of_reserved {l : Ledger σ} {d : Desk} (now : Timestamp) {id : OfferingId}
    {holder : Holder} {w : World σ} {o : Offering} (ho : (l.run (d.reserve id holder) w).1 = .ok o) :
    l.run (d.bookRecorded now id holder) w =
        l.run (d.storeUnderFresh now id holder o d.rule.attempts) (l.run (d.reserve id holder) w).2 ∧
      (d.bookRecorded now id holder).trail l.serve w = (d.reserve id holder).trail l.serve w ++
        (d.storeUnderFresh now id holder o d.rule.attempts).trail l.serve
          (l.run (d.reserve id holder) w).2 := by
  replace ho : ((d.reserve id holder).run l.serve w).1 = .ok o := ho
  constructor
  · refine (Procedure.run_bind l.serve (d.reserve id holder) _ w).trans ?_
    rw [ho]
    rfl
  · refine (Procedure.trail_bind l.serve (d.reserve id holder) _ w).trans ?_
    rw [ho]
    rfl

theorem Desk.of_settle_eq_ok {id : OfferingId} {x : Except Failure Reservation} {o : Offering}
    (h : settle id x = .ok o) : x = .ok (.reserved o) := by
  rcases x with cause | (_ | _ | _ | _) <;> cases h
  rfl

/-- **Reserving** alone: the spot that was taken is posted, and neither the registry nor the source is
    touched. -/
theorem Bookkeeper.reserved_alone (k : Bookkeeper σ) {d : Desk} {id : OfferingId} {holder : Holder}
    {w : World σ} {o : Offering} (hw : k.Fit w.state)
    (ho : (k.ledger.run (d.reserve id holder) w).1 = .ok o) :
    o.id = id ∧ k.books (k.ledger.run (d.reserve id holder) w).2.state = (k.books w.state).post id o ∧
      (k.ledger.run (d.reserve id holder) w).2.registry = w.registry ∧
      (k.ledger.run (d.reserve id holder) w).2.generator = w.generator := by
  have hfollows : (d.reserve id holder).Follows (k.ledger.alone False w) (fun v x =>
      (∀ o, x = .ok o → o.id = id ∧ k.books v.state = (k.books w.state).post id o) ∧
        v.registry = w.registry ∧ v.generator = w.generator) w := by
    refine Desk.follows_reserve_alone ?_ ?_
    · rintro e -
      refine ⟨?_, rfl, rfl⟩
      intro o he
      cases he
    · rintro -
      refine ⟨?_, rfl, rfl⟩
      intro o hsettled
      have hfound := k.serve (.find id) hw
      have hsame : k.books (k.ledger.find id w.state).state = k.books w.state := hfound.books_eq
      obtain ⟨-, hanswer, hbooks⟩ :=
        k.serve (w := { w with state := (k.ledger.find id w.state).state }) (.reserve id) hfound.fit
      replace hanswer : (k.books w.state).Answers (.reserve id)
          (k.ledger.reserve w.now id (k.ledger.find id w.state).state).answer := hsame ▸ hanswer
      replace hbooks : k.books (k.ledger.reserve w.now id (k.ledger.find id w.state).state).state =
          (k.books w.state).after k.kept (.reserve id)
            (k.ledger.reserve w.now id (k.ledger.find id w.state).state).answer := hsame ▸ hbooks
      generalize k.ledger.reserve w.now id (k.ledger.find id w.state).state = reply at hsettled hanswer hbooks ⊢
      rw [Desk.of_settle_eq_ok hsettled] at hanswer hbooks
      cases hanswer with
      | unreserved hx => cases hx
      | reserved hstored hcounted => exact ⟨hcounted.id_eq.trans (k.ids hw hstored), hbooks⟩
  obtain ⟨v, ⟨hv, hregistry, hgenerator⟩, hworld⟩ := Ledger.run_of_follows hfollows
  obtain ⟨hid, hbooks⟩ := hv o ho
  rw [hworld]
  exact ⟨hid, hbooks, hregistry, hgenerator⟩

/-! ## Booking -/

namespace Desk

theorem follows_bookRecorded_drawn {l : Ledger σ} {sure : Prop} {start w : World σ} {d : Desk}
    {now : Timestamp} {id : OfferingId} {holder : Holder} :
    (d.bookRecorded now id holder).Follows (l.alone sure start)
      (fun w' _ => DrawnAtMost w.generator (d.rule.attempts * d.rule.attempts) w') w := by
  have hreserve : (d.reserve id holder).Follows (l.alone sure start)
      (fun v _ => v.generator = w.generator) w :=
    follows_reserve_alone (fun _ _ => rfl) fun _ => rfl
  refine Procedure.follows_bind.mpr (hreserve.mono ?_)
  rintro v (e | o) hv
  · exact ⟨0, Nat.zero_le _, hv⟩
  · rw [← hv]
    exact follows_storeUnderFresh_drawn d.rule.attempts

/-- **Booking** with a record draws no more often than the attempts to store it and the draws of each allow,
    whatever the ledger answers. -/
theorem draws_bookRecorded_le (l : Ledger σ) (d : Desk) (now : Timestamp) (id : OfferingId) (holder : Holder)
    (w : World σ) :
    draws ((d.bookRecorded now id holder).trail l.serve w) ≤ d.rule.attempts * d.rule.attempts := by
  have hfollows : (d.bookRecorded now id holder).Follows (l.alone False w)
      (fun w' _ => DrawnAtMost w.generator (d.rule.attempts * d.rule.attempts) w') w :=
    follows_bookRecorded_drawn
  obtain ⟨v, ⟨n, hn, hv⟩, hworld⟩ := Ledger.run_of_follows hfollows
  have hdraws : draws ((d.bookRecorded now id holder).trail l.serve w) = n := by
    apply Ledger.draws_eq
    rw [hworld]
    exact hv
  rw [hdraws]
  exact hn

end Desk

namespace Bookkeeper

variable {k : Bookkeeper σ} {d : Desk} {now : Timestamp} {id : OfferingId} {holder : Holder} {w : World σ}

/-- A reference that is neither in the registry nor stored. -/
def Unused (k : Bookkeeper σ) (w : World σ) (reference : String) : Prop :=
  w.registry.get? reference = none ∧ (k.books w.state).record? reference = none

/-- The run of a procedure has booked a spot of an offering, which shows `o` now, with the record `b` under
    the `n`-th draw, counted from zero: it has drawn up to there and not further, and nothing has changed but
    that the spot is posted, the record stored and its reference entered. -/
structure Recorded (k : Bookkeeper σ) (p : Procedure (Except BookingError Booking)) (w : World σ)
    (o : Offering) (b : Booking) (n : Nat) : Prop where
  result_eq : (k.ledger.run p w).1 = .ok b
  draws_eq : draws (p.trail k.ledger.serve w) = n + 1
  generator_eq : (k.ledger.run p w).2.generator = w.generator.skip (n + 1)
  registry_eq : (k.ledger.run p w).2.registry = w.registry.insert b.reference b.offeringId
  books_eq : k.books (k.ledger.run p w).2.state = ((k.books w.state).post b.offeringId o).record (k.kept b)

/-- An attempt to store a record, seen in the books. -/
theorem stored_alone (k : Bookkeeper σ) {s : σ} (hs : k.Fit s) (b : Booking) :
    k.Fit (k.ledger.store b s).state ∧ k.books (k.ledger.store b s).state =
      (k.books s).after k.kept (.store b) (k.ledger.store b s).answer := by
  obtain ⟨hafter, -, hbooks⟩ := k.serve (w := ⟨s, .empty, default, default, []⟩) (.store b) hs
  exact ⟨hafter, hbooks⟩

/-- **The rounds** of a ledger that refuses records exactly if their references are stored: the first unused
    draw is booked, unless an attempt to store a record fails. -/
theorem Exact.follows_storeUnderFresh {start : World σ} {o : Offering} {n : Nat} {b : Booking} (hk : k.Exact)
    (hunique : d.rule.unique = true) (hw : k.Fit w.state) (hn : n < d.rule.attempts)
    (hunused : k.Unused w (o.drawn holder.firstName w.generator n))
    (hbefore : ∀ m < n, ¬ k.Unused w (o.drawn holder.firstName w.generator m))
    (hb : b = ⟨o.drawn holder.firstName w.generator n, id, holder.firstName, now⟩) :
    (d.storeUnderFresh now id holder o d.rule.attempts).Follows (k.ledger.alone True start)
      (fun w' x => x = .ok b ∧ w'.generator = w.generator.skip (n + 1) ∧
        w'.registry = w.registry.insert b.reference o.id ∧
        k.books w'.state = (k.books w.state).record (k.kept b)) w := by
  refine Desk.follows_storeUnderFresh_first (n := n) (I := fun s => k.Fit s ∧ k.books s = k.books w.state)
    (R := fun reference => (k.books w.state).record? reference ≠ none)
    ⟨hw, rfl⟩ ?_ hn hn (fun _ => hunused.1) (not_not_intro hunused.2) ?_ ?_
  · rintro s reference ⟨hs, hbooks⟩
    have hexact := fun x => hk s ⟨reference, id, holder.firstName, now⟩ x hs
    obtain ⟨hafter, hsame⟩ := k.stored_alone hs ⟨reference, id, holder.firstName, now⟩
    rw [hbooks] at hexact hsame
    generalize k.ledger.store ⟨reference, id, holder.firstName, now⟩ s = reply at hexact hafter hsame ⊢
    obtain ⟨answer, s', events⟩ := reply
    rcases answer with cause | (_ | _)
    · trivial
    · refine ⟨fun hnone => ?_, hafter, hsame⟩
      cases (hexact false rfl).mpr hnone
    · exact not_not_intro ((hexact true rfl).mp rfl)
  · intro m hm hfree hnew
    exact hbefore m hm ⟨hfree hunique, hnew⟩
  · rintro s registry booking hregistry hbooking ⟨hs, hbooks⟩ hstored
    obtain ⟨-, hrecorded⟩ := k.stored_alone hs booking
    rw [hstored, hbooks] at hrecorded
    obtain rfl : booking = b := hbooking.trans hb.symm
    refine ⟨rfl, rfl, ?_, hrecorded⟩
    rw [hb, hregistry hunique]

end Bookkeeper

/-- **The first unused draw** is the reference of a booking that is stored. Whatever happens, a booking makes
    no more draws than the square of what a reference may take. If a spot is taken, no attempt to store a
    record fails, and one of the draws that a single reference may take is neither in the registry nor
    stored, then the first of them is booked. -/
theorem first_unused_draw_is_booked (k : Bookkeeper σ) (d : Desk) (now : Timestamp) (id : OfferingId)
    (holder : Holder) (w : World σ) (hunique : d.rule.unique = true) :
    let attempts := max 1 d.rule.maxAttempts.toNat
    let p := d.bookRecorded now id holder
    (∀ l : Ledger σ, draws (p.trail l.serve w) ≤ attempts * attempts) ∧
    (k.Exact → k.Fit w.state →
      ∀ o, (k.ledger.run (d.reserve id holder) w).1 = .ok o →
      (∀ t ∈ tries (p.trail k.ledger.serve w), ∀ e, t.2 ≠ .error e) →
      (∃ n < attempts, k.Unused w (o.drawn holder.firstName w.generator n)) →
      ∃ n < attempts, k.Unused w (o.drawn holder.firstName w.generator n) ∧
        (∀ m < n, ¬ k.Unused w (o.drawn holder.firstName w.generator m)) ∧
        k.Recorded p w o ⟨o.drawn holder.firstName w.generator n, id, holder.firstName, now⟩ n) := by
  intro attempts p
  refine ⟨fun l => Desk.draws_bookRecorded_le l d now id holder w, ?_⟩
  intro hexact hw o ho hnofailure hsome
  obtain ⟨n, hn, hunused, hbefore⟩ := exists_first hsome
  refine ⟨n, hn, hunused, hbefore, ?_⟩
  -- the spot is taken, and the rounds begin
  obtain ⟨hid, hposted, hregistry, hgenerator⟩ := k.reserved_alone hw ho
  have hfit := k.fit_run (d.reserve id holder) hw
  obtain ⟨hrun, htrail⟩ := Desk.bookRecorded_of_reserved now ho
  generalize (k.ledger.run (d.reserve id holder) w).2 = v at hfit hposted hregistry hgenerator hrun htrail
  have hsame : ∀ reference, k.Unused v reference ↔ k.Unused w reference := by
    intro reference
    rw [Bookkeeper.Unused, Bookkeeper.Unused, hregistry, hposted]
    rfl
  rw [← hgenerator] at hunused hbefore ⊢
  have hfollows : (d.storeUnderFresh now id holder o d.rule.attempts).Follows (k.ledger.alone True v) _ v :=
    hexact.follows_storeUnderFresh hunique hfit hn ((hsame _).mpr hunused)
      (fun m hm => mt (hsame _).mp (hbefore m hm)) rfl
  rcases Ledger.run_alone hfollows with ⟨-, hmissed⟩ | ⟨v', ⟨hresult, hskipped, hentered, hrecorded⟩, hworld⟩
  · obtain ⟨t, ht, cause, herror⟩ := Ledger.exists_tries_of_misses hmissed
    refine absurd herror (hnofailure t ?_ cause)
    rw [htrail, tries, List.filterMap_append]
    exact List.mem_append_right _ ht
  · have hgenerator' : (k.ledger.run p w).2.generator = w.generator.skip (n + 1) := by
      rw [hrun, hworld, ← hgenerator]
      exact hskipped
    refine ⟨?_, Ledger.draws_eq hgenerator', hgenerator', ?_, ?_⟩
    · rw [hrun]
      exact hresult
    · rw [hrun, hworld, ← hregistry, ← hid]
      exact hentered
    · rw [hrun, hworld, ← hposted]
      exact hrecorded

namespace Collisions

/-- The first reference drawn for Ann is in the registry, the second is stored, and the third is neither. -/
def scattered : World Memory :=
  { world with
    state := { world.state with records := Table.empty.insert "REEF_ANN_101" ⟨"REEF_ANN_101", ⟨2⟩, "Ann", default⟩ }
    registry := Table.empty.insert "REEF_ANN_100" ⟨2⟩ }

end Collisions

open Collisions in
/-- Ann books under the third reference, after one attempt to store the second. -/
theorem third_draw_booked :
    let p := desk.bookRecorded default ⟨1⟩ ⟨"Ann", none⟩
    draws (p.trail Memory.ledger.serve scattered) ≤ 3 * 3 ∧
      Memory.bookkeeper.Recorded p scattered (trip.taken default) ⟨"REEF_ANN_102", ⟨1⟩, "Ann", default⟩ 2 := by
  intro p
  obtain ⟨hbound, hfirst⟩ :=
    first_unused_draw_is_booked Memory.bookkeeper desk default ⟨1⟩ ⟨"Ann", none⟩ scattered rfl
  have hfit : Memory.bookkeeper.Fit scattered.state := by
    refine ⟨(Memory.sound_empty 0 .empty).put (by decide), ?_⟩
    intro reference b hb
    obtain ⟨hkey, hvalue⟩ := Prod.mk.inj (List.mem_singleton.mp (Table.get?_eq_some_iff.mp hb))
    rw [hkey, hvalue]
  have htaken : (Memory.ledger.run (desk.reserve ⟨1⟩ ⟨"Ann", none⟩) scattered).1 = .ok (trip.taken default) := rfl
  have htried : (tries (p.trail Memory.ledger.serve scattered)).map (·.2.toOption) =
      [some false, some true] := by decide +kernel
  have hnofailure : ∀ t ∈ tries (p.trail Memory.ledger.serve scattered), ∀ e, t.2 ≠ .error e := by
    intro t ht e herror
    have hmem := List.mem_map_of_mem (f := fun t : Booking × Except Failure Bool => t.2.toOption) ht
    rw [htried, herror] at hmem
    simp [Except.toOption] at hmem
  have hused : ∀ n < 2, ¬ Memory.bookkeeper.Unused scattered ((trip.taken default).drawn "Ann" world.generator n) := by
    unfold Bookkeeper.Unused
    decide +kernel
  have hfree : Memory.bookkeeper.Unused scattered ((trip.taken default).drawn "Ann" world.generator 2) := by
    unfold Bookkeeper.Unused
    decide +kernel
  obtain ⟨n, hn, hunused, hbefore, hrecorded⟩ :=
    hfirst Memory.exact hfit _ htaken hnofailure ⟨2, by decide, hfree⟩
  obtain rfl : n = 2 := first_unique hunused hbefore hfree hused
  have hthird : (trip.taken default).drawn "Ann" world.generator 2 = "REEF_ANN_102" := by decide +kernel
  exact ⟨hbound Memory.ledger, hthird ▸ hrecorded⟩

end DiveSchool
