import DiveSchool.Proofs.Minutes

/-!
# `DiveSchool.Proofs.Recording` — a recorded booking is made as a whole or not at all

A recorded booking takes a spot and then tries one reference after another until a record is stored. Each
round enters the reference it tries into the registry, and takes it out again if the record is refused. All
ways through the loop are laid down in `Desk.Storing`, one constructor for each way to leave a round, and
what they leave behind is shown by induction over it.

## Contents
- **Rounds.** `Desk.Storing` and `Desk.Recording`, what a recorded booking can come to on the minutes.
- **Registry.** `booking_spares_other_entries`: the references tried are all that a booking touches;
  `refused_booking_drops_entry`, a reference that was not its own.
- **Ledger.** `Desk.Settled`, what becomes of a spot that was taken; `Desk.AllOrNothing` and
  `recorded_all_or_nothing`.
-/

namespace DiveSchool

/-! ## Rounds -/

namespace Desk

open Procedure

section Rounds

variable (d : Desk) (kept : Booking → Booking) (fair : Books → (r : Request) → r.Answer → Prop)
  (spare : Prop) (id : OfferingId)

/-- From some minutes on, with some attempts left, a spot of an offering taken and references entered with
    `entry`: what storing a record under a fresh reference comes to, and the minutes afterwards. -/
inductive Storing (entry : OfferingId) : Nat → Minutes → Except BookingError Booking → Minutes → Prop
  /-- No attempt is left, and the spot goes back. -/
  | exhausted {m : Minutes} {y : Except Failure Freeing} (hy : fair m.books (.release id) y) :
      Storing entry 0 m (.error (.infrastructure (noReferenceLeft d.rule.attempts)))
        (m.after kept (.release id) y)
  /-- The record is stored. -/
  | stored {left : Nat} {m : Minutes} {b : Booking} (hb : b.offeringId = id)
      (hnew : d.rule.unique = true → spare → m.registry.get? b.reference = none) :
      Storing entry (left + 1) m (.ok b) ((m.entered b.reference entry).after kept (.store b) (.ok true))
  /-- The record could not be stored, and the spot goes back. -/
  | failed {left : Nat} {m : Minutes} {b : Booking} {cause : Failure} {y : Except Failure Freeing}
      (hb : b.offeringId = id)
      (hnew : d.rule.unique = true → spare → m.registry.get? b.reference = none)
      (hy : fair m.books (.release id) y) :
      Storing entry (left + 1) m (.error (.infrastructure cause))
        ((((m.entered b.reference entry).after kept (.store b) (.error cause)).forgotten
          b.reference).after kept (.release id) y)
  /-- The reference is stored already, and the next one is tried. -/
  | refused {left : Nat} {m m' : Minutes} {b : Booking} {x : Except BookingError Booking}
      (hb : b.offeringId = id)
      (hnew : d.rule.unique = true → spare → m.registry.get? b.reference = none)
      (hrest : Storing entry left
        (((m.entered b.reference entry).after kept (.store b) (.ok false)).forgotten b.reference) x m') :
      Storing entry (left + 1) m x m'

/-- What a recorded booking comes to, and the minutes afterwards. -/
inductive Recording (m : Minutes) : Except BookingError Booking → Minutes → Prop
  /-- The offering as it was found does not allow the booking. -/
  | judged {x : Except Failure (Option Offering)} {e : BookingError} :
      Recording m (.error e) (m.after kept (.find id) x)
  /-- No spot could be taken. -/
  | unreserved {x : Except Failure (Option Offering)} {y : Except Failure Reservation} {e : BookingError}
      (hy : Books.spotTaken? y = none) :
      Recording m (.error e) ((m.after kept (.find id) x).after kept (.reserve id) y)
  /-- A spot was taken, and the record is to be stored. -/
  | reserved {x : Except Failure (Option Offering)} {o : Offering} {z : Except BookingError Booking}
      {m' : Minutes} (ho : fair m.books (.reserve id) (.ok (.reserved o)))
      (hstoring : d.Storing kept fair spare id o.id d.rule.attempts
        ((m.after kept (.find id) x).after kept (.reserve id) (.ok (.reserved o))) z m') :
      Recording m z m'

end Rounds

variable {d : Desk} {kept : Booking → Booking} {fair : Books → (r : Request) → r.Answer → Prop}
  {spare : Prop} {id : OfferingId} {holder : Holder} {now : Timestamp} {m : Minutes}

/-- **Storing under a fresh reference** comes to nothing else. -/
theorem follows_storing {o : Offering} (left : Nat) (m : Minutes) :
    (d.storeUnderFresh now id holder o left).Follows (Minutes.protocol kept fair spare)
      (fun m' x => d.Storing kept fair spare id o.id left m x m') m := by
  induction left generalizing m with
  | zero =>
      refine follows_bind.mpr (follows_undo Minutes.protocol_ignores_log trivial ?_)
      rintro y ⟨hy, -⟩
      exact .exhausted hy
  | succ left ih =>
      refine follows_bind.mpr (follows_issue_minutes fun reference hnew => ?_)
      refine follows_bind.mpr (follows_ask.mpr ⟨trivial, ?_⟩)
      rintro (cause | (_ | _)) -
      · refine follows_bind.mpr (follows_ask.mpr ⟨trivial, fun _ _ => ?_⟩)
        refine follows_bind.mpr (follows_undo Minutes.protocol_ignores_log trivial ?_)
        rintro y ⟨hy, -⟩
        exact .failed rfl hnew hy
      · refine follows_bind.mpr (follows_ask.mpr ⟨trivial, fun _ _ => ?_⟩)
        refine (Minutes.protocol_ignores_log _).follows_bind fun _ => ?_
        exact (ih _).mono fun m' x hrest => .refused rfl hnew hrest
      · exact (Minutes.protocol_ignores_log _).follows_bind fun _ => .stored rfl hnew

/-- **A recorded booking** comes to nothing else. -/
theorem follows_recording (m : Minutes) :
    (d.bookRecorded now id holder).Follows (Minutes.protocol kept fair spare)
      (fun m' x => d.Recording kept fair spare id m x m') m := by
  refine follows_bind.mpr (follows_reserve Minutes.protocol_ignores_log trivial ?_ ?_)
  · intro x e _ _
    exact .judged
  · rintro x - -
    refine ⟨trivial, ?_⟩
    rintro (cause | (o | o | o | _)) ⟨hfair, -⟩
    · exact .unreserved rfl
    · exact (follows_storing d.rule.attempts _).mono fun m' z hstoring => .reserved hfair hstoring
    · exact .unreserved rfl
    · exact .unreserved rfl
    · exact .unreserved rfl

end Desk

/-! ## Registry -/

/-- What the references that were tried leave of a registry, once they were entered with `entry`. -/
structure Registry.Tried (g : Registry) (tried : List (Booking × Except Failure Bool)) (entry : OfferingId)
    (x : Except BookingError Booking) (g' : Registry) : Prop where
  /-- Other references are as before. -/
  others : ∀ reference, (∀ t ∈ tried, t.1.reference ≠ reference) → g'.get? reference = g.get? reference
  /-- The reference of the booking is there. -/
  booked : ∀ b, x = .ok b → g'.get? b.reference = some entry
  /-- Without a booking none of the references tried is there. -/
  dropped : ∀ e, x = .error e → ∀ t ∈ tried, g'.get? t.1.reference = none

/-- The references that were tried were nobody's, so the registry is as before unless the booking is made. -/
structure Registry.Fresh (g : Registry) (tried : List (Booking × Except Failure Bool))
    (x : Except BookingError Booking) (g' : Registry) : Prop where
  absent : ∀ t ∈ tried, g.get? t.1.reference = none
  unchanged : ∀ e, x = .error e → g' = g

theorem Registry.tried_nil (g : Registry) (entry : OfferingId) (e : BookingError) :
    g.Tried [] entry (.error e) g where
  others _ _ := rfl
  booked := nofun
  dropped _ _ _ ht := absurd ht List.not_mem_nil

theorem Registry.fresh_nil (g : Registry) (e : BookingError) : g.Fresh [] (.error e) g where
  absent _ ht := absurd ht List.not_mem_nil
  unchanged _ _ := rfl

namespace Desk

variable {d : Desk} {kept : Booking → Booking} {fair : Books → (r : Request) → r.Answer → Prop}
  {spare : Prop} {id entry : OfferingId} {left : Nat} {m m' : Minutes} {x : Except BookingError Booking}

/-- **The rounds of a booking** touch the references they try, and no others. -/
theorem Storing.registry (h : d.Storing kept fair spare id entry left m x m') :
    ∃ new, m'.trail = m.trail ++ new ∧ m.registry.Tried (tries new) entry x m'.registry ∧
      (d.rule.unique = true → spare → m.registry.Fresh (tries new) x m'.registry) := by
  induction h with
  | @exhausted m y hy =>
      exact ⟨[⟨.release id, y⟩], rfl, Registry.tried_nil .., fun _ _ => Registry.fresh_nil ..⟩
  | @stored left m b hb hnew =>
      refine ⟨[⟨.store b, .ok true⟩], rfl, ⟨?_, ?_, nofun⟩, fun hunique hspare => ⟨?_, nofun⟩⟩
      · intro reference hothers
        exact Table.get?_insert_of_ne _ _ (Ne.symm (hothers _ List.mem_cons_self))
      · intro b' hb'
        cases hb'
        exact Table.get?_insert_self _ _ _
      · intro t ht
        cases List.mem_singleton.mp ht
        exact hnew hunique hspare
  | @failed left m b cause y hb hnew hy =>
      refine ⟨[⟨.store b, .error cause⟩, ⟨.release id, y⟩], List.append_assoc .., ⟨?_, nofun, ?_⟩,
        fun hunique hspare => ⟨?_, ?_⟩⟩
      · intro reference hothers
        have hne : reference ≠ b.reference := Ne.symm (hothers _ List.mem_cons_self)
        show ((m.registry.insert b.reference entry).erase b.reference).get? reference = _
        rw [Table.get?_erase, if_neg hne, Table.get?_insert_of_ne _ _ hne]
      · intro e _ t ht
        cases List.mem_singleton.mp ht
        exact Table.get?_erase_self _ _
      · intro t ht
        cases List.mem_singleton.mp ht
        exact hnew hunique hspare
      · intro e _
        exact Table.erase_insert (hnew hunique hspare) entry
  | @refused left m m' b x hb hnew _ ih =>
      obtain ⟨new, htrail, htried, hfresh⟩ := ih
      refine ⟨⟨.store b, .ok false⟩ :: new, ?_, ⟨?_, htried.booked, ?_⟩, fun hunique hspare => ?_⟩
      · rw [htrail]
        exact List.append_assoc ..
      · intro reference hothers
        have hne : reference ≠ b.reference := Ne.symm (hothers _ List.mem_cons_self)
        rw [htried.others reference fun t ht => hothers t (List.mem_cons_of_mem _ ht)]
        show ((m.registry.insert b.reference entry).erase b.reference).get? reference = _
        rw [Table.get?_erase, if_neg hne, Table.get?_insert_of_ne _ _ hne]
      · intro e he t ht
        -- a reference may be tried again later on, and is then dropped again
        by_cases hagain : ∃ t' ∈ tries new, t'.1.reference = t.1.reference
        · obtain ⟨t', ht', hsame⟩ := hagain
          rw [← hsame]
          exact htried.dropped e he t' ht'
        · have hlast : ∀ t' ∈ tries new, t'.1.reference ≠ t.1.reference :=
            fun t' ht' hsame => hagain ⟨t', ht', hsame⟩
          rcases List.mem_cons.mp ht with rfl | ht
          · rw [htried.others _ hlast]
            exact Table.get?_erase_self _ _
          · exact absurd rfl (hlast t ht)
      · have hfirst := hnew hunique hspare
        have hback : (m.registry.insert b.reference entry).erase b.reference = m.registry :=
          Table.erase_insert hfirst entry
        obtain ⟨habsent, hunchanged⟩ := hfresh hunique hspare
        change ∀ t ∈ tries new,
          ((m.registry.insert b.reference entry).erase b.reference).get? t.1.reference = none at habsent
        change ∀ e, x = .error e →
          m'.registry = (m.registry.insert b.reference entry).erase b.reference at hunchanged
        rw [hback] at habsent hunchanged
        refine ⟨?_, hunchanged⟩
        intro t ht
        rcases List.mem_cons.mp ht with rfl | ht
        · exact hfirst
        · exact habsent t ht

theorem Recording.registry (h : d.Recording kept fair spare id m x m') :
    ∃ new entry, m'.trail = m.trail ++ new ∧ m.registry.Tried (tries new) entry x m'.registry ∧
      (d.rule.unique = true → spare → m.registry.Fresh (tries new) x m'.registry) := by
  cases h with
  | @judged y e =>
      exact ⟨[⟨.find id, y⟩], id, rfl, Registry.tried_nil .., fun _ _ => Registry.fresh_nil ..⟩
  | @unreserved y z e hz =>
      exact ⟨[⟨.find id, y⟩, ⟨.reserve id, z⟩], id, List.append_assoc .., Registry.tried_nil ..,
        fun _ _ => Registry.fresh_nil ..⟩
  | @reserved y o z m' ho hstoring =>
      obtain ⟨new, htrail, htried, hfresh⟩ := hstoring.registry
      refine ⟨⟨.find id, y⟩ :: ⟨.reserve id, .ok (.reserved o)⟩ :: new, o.id, ?_, htried, hfresh⟩
      rw [htrail]
      show m.trail ++ [_] ++ [_] ++ new = _
      simp only [List.append_assoc, List.cons_append, List.nil_append]

end Desk

section Entries

variable {σ : Type} (l : Ledger σ) (d : Desk) (now : Timestamp) (id : OfferingId) (holder : Holder)
  (w : World σ)

/-- What becomes of the registry, with references to spare or not. -/
theorem registry_of_bookRecorded (spare : Prop) :
    (spare ∧ ∃ e ∈ (d.bookRecorded now id holder).trail l.serve w, e.exhausts = true) ∨
      ∃ entry, w.registry.Tried (tries ((d.bookRecorded now id holder).trail l.serve w)) entry
          (l.run (d.bookRecorded now id holder) w).1 (l.run (d.bookRecorded now id holder) w).2.registry ∧
        (d.rule.unique = true → spare →
          w.registry.Fresh (tries ((d.bookRecorded now id holder).trail l.serve w))
            (l.run (d.bookRecorded now id holder) w).1
            (l.run (d.bookRecorded now id holder) w).2.registry) := by
  have hfollows : ∀ m, (d.bookRecorded now id holder).Follows
      (Minutes.protocol (fun r => r) (fun _ _ _ => True) spare)
      (fun m' x => d.Recording (fun r => r) (fun _ _ _ => True) spare id m x m') m := Desk.follows_recording
  rcases l.keeps_minutes (b := ⟨fun _ => none, fun _ => none⟩) (hfollows _) with hexhausted | ⟨b', h⟩
  · exact .inl hexhausted
  · obtain ⟨new, entry, htrail, htried, hfresh⟩ := h.registry
    have hnew : tries ((d.bookRecorded now id holder).trail l.serve w) = tries new := by
      rw [← tries_minuted]
      exact congrArg tries htrail
    rw [hnew]
    exact .inr ⟨entry, htried, hfresh⟩

/-- **A recorded booking and the registry.** Whatever the ledger answers and however references are drawn,
    a booking touches no entry but those of the references it tries, and if it fails none of them is left.
    As long as references are unique and not all draws are in use, none of them was anybody's: every entry
    stays, and a booking that fails leaves the registry exactly as it was. -/
theorem booking_spares_other_entries :
    let outcome := l.run (d.bookRecorded now id holder) w
    let es := (d.bookRecorded now id holder).trail l.serve w
    (∀ reference, (∀ t ∈ tries es, t.1.reference ≠ reference) →
      outcome.2.registry.get? reference = w.registry.get? reference) ∧
    (∀ e, outcome.1 = .error e → ∀ t ∈ tries es, outcome.2.registry.get? t.1.reference = none) ∧
    (d.rule.unique = true → (∀ e ∈ es, e.exhausts = false) →
      (∀ t ∈ tries es, w.registry.get? t.1.reference = none) ∧
      (∀ reference o, w.registry.get? reference = some o →
        outcome.2.registry.get? reference = some o) ∧
      ∀ e, outcome.1 = .error e → outcome.2.registry = w.registry) := by
  intro outcome es
  rcases registry_of_bookRecorded l d now id holder w False with ⟨hfalse, -⟩ | ⟨entry, htried, -⟩
  · exact hfalse.elim
  · refine ⟨htried.others, htried.dropped, fun hunique hspare => ?_⟩
    rcases registry_of_bookRecorded l d now id holder w True with ⟨-, e, he, hexhausts⟩ | ⟨-, -, hfresh⟩
    · cases (hspare e he).symm.trans hexhausts
    · obtain ⟨habsent, hunchanged⟩ := hfresh hunique trivial
      refine ⟨habsent, fun reference o ho => ?_, hunchanged⟩
      rw [htried.others reference ?_, ho]
      -- a reference that was there was not tried
      rintro t ht rfl
      cases (habsent t ht).symm.trans ho

end Entries

/-- The error of what failed. -/
def errorOf? {ε α : Type} : Except ε α → Option ε
  | .error e => some e
  | .ok _ => none

theorem errorOf?_eq_some {ε α : Type} {x : Except ε α} {e : ε} : errorOf? x = some e ↔ x = .error e := by
  cases x <;> simp [errorOf?]

namespace OneReference

/-- A trip with two spots. -/
def trip : Offering := Offering.trip ⟨1⟩ default "Reef" 2 none

/-- A desk that issues every reference once. -/
def desk : Desk := ⟨.ordinal, {}⟩

/-- Ann books the trip. -/
def books : Procedure (Except BookingError Booking) := desk.bookRecorded default ⟨1⟩ ⟨"Ann", none⟩

/-- The record of it, with the only reference that is ever drawn for her. -/
def record : Booking := ⟨"REEF_ANN_100", ⟨1⟩, "Ann", default⟩

/-- The trip is in the ledger, and every draw is the same. -/
def world : World Memory := ⟨(Memory.empty 0).put trip, .empty, default, default, []⟩

/-- Ann's reference is stored, though not in the registry, and Bob's is in the registry. -/
def elsewhere : World Memory :=
  { world with
    state := { world.state with records := Table.empty.insert record.reference record }
    registry := Table.empty.insert "REEF_BOB_100" ⟨1⟩ }

/-- Ann has booked already. -/
def booked : World Memory := (Memory.ledger.run books world).2

end OneReference

open OneReference in
/-- Ann cannot book with a reference that is stored elsewhere, and Bob keeps his. -/
theorem failed_booking_spares_bob :
    let outcome := Memory.ledger.run books elsewhere
    (∃ e, outcome.1 = .error e) ∧ outcome.2.registry = elsewhere.registry := by
  intro outcome
  have hfailed : outcome.1 = .error (.infrastructure (Desk.noReferenceLeft 16)) :=
    errorOf?_eq_some.mp (by decide +kernel)
  have hnever : ∀ e ∈ books.trail Memory.ledger.serve elsewhere, e.exhausts = false := by decide +kernel
  obtain ⟨-, -, hunique⟩ :=
    booking_spares_other_entries Memory.ledger desk default ⟨1⟩ ⟨"Ann", none⟩ elsewhere
  obtain ⟨-, -, hunchanged⟩ := hunique rfl hnever
  exact ⟨⟨_, hfailed⟩, hunchanged _ hfailed⟩

open OneReference in
/-- Ann books once more, and every draw is the reference she has: the second booking fails and takes the
    entry of the first one along, whose record stays. -/
theorem refused_booking_drops_entry :
    let outcome := Memory.ledger.run books booked
    booked.state.records.get? record.reference = some record ∧
      booked.registry.get? record.reference = some ⟨1⟩ ∧
      outcome.1 = .error (.infrastructure (Desk.noReferenceLeft 16)) ∧
      outcome.2.state.records.get? record.reference = some record ∧
      outcome.2.registry.get? record.reference = none := by
  intro outcome
  rw [← errorOf?_eq_some]
  decide +kernel

/-! ## Ledger -/

/-- Why no record was stored in all the attempts there were: one failed, or all were refused. -/
inductive Desk.Blames (d : Desk) (attempts : Nat) : List (Booking × Except Failure Bool) → Failure → Prop
  | failed {tried : List (Booking × Except Failure Bool)} {r : Booking} {cause : Failure}
      (hrefused : ∀ t ∈ tried, t.2 = .ok false) (hleft : tried.length < attempts) :
      Blames d attempts (tried ++ [(r, .error cause)]) cause
  | refused {tried : List (Booking × Except Failure Bool)} (hrefused : ∀ t ∈ tried, t.2 = .ok false)
      (hall : tried.length = attempts) : Blames d attempts tried (noReferenceLeft d.rule.attempts)

/-- What becomes of a spot that was taken from some books on, by the attempts to store a record and to free
    the spot again. -/
structure Desk.Settled (d : Desk) (kept : Booking → Booking) (id : OfferingId) (b : Books) (attempts : Nat)
    (tried : List (Booking × Except Failure Bool)) (freed : List (OfferingId × Except Failure Freeing))
    (x : Except BookingError Booking) (b' : Books) : Prop where
  bounded : tried.length ≤ attempts
  /-- The spot has its record. -/
  stored : ∀ r, x = .ok r → (∃ refused, tried = refused ++ [(r, .ok true)]) ∧ freed = [] ∧
    b' = b.record (kept r)
  /-- The spot went back, if it could. -/
  undone : ∀ e, x = .error e → ∃ cause y, e = .infrastructure cause ∧ d.Blames attempts tried cause ∧
    freed = [(id, y)] ∧ b.Answers (.release id) y ∧ b' = b.after kept (.release id) y

namespace Desk

variable {d : Desk} {kept : Booking → Booking} {spare : Prop} {id entry : OfferingId} {left : Nat}
  {m m' : Minutes} {x : Except BookingError Booking} {tried : List (Booking × Except Failure Bool)}

theorem Blames.cons {cause : Failure} (h : d.Blames left tried cause) (r : Booking) :
    d.Blames (left + 1) ((r, .ok false) :: tried) cause := by
  have hcons : ∀ {l : List (Booking × Except Failure Bool)}, (∀ t ∈ l, t.2 = .ok false) →
      ∀ t ∈ ((r, .ok false) :: l : List (Booking × Except Failure Bool)), t.2 = .ok false :=
    fun hl => List.forall_mem_cons.mpr ⟨rfl, hl⟩
  cases h with
  | failed hrefused hleft => exact .failed (hcons hrefused) (Nat.succ_lt_succ hleft)
  | refused hrefused hall => exact .refused (hcons hrefused) (congrArg (· + 1) hall)

theorem Blames.unmade {cause : Failure} (h : d.Blames left tried cause) : ∀ t ∈ tried, t.2 ≠ .ok true := by
  intro t ht htrue
  cases h with
  | failed hrefused _ =>
      rcases List.mem_append.mp ht with ht | ht
      · cases htrue.symm.trans (hrefused t ht)
      · cases List.mem_singleton.mp ht
        cases htrue
  | refused hrefused _ => cases htrue.symm.trans (hrefused t ht)

/-- **The rounds of a booking** and the ledger. -/
theorem Storing.settled (h : d.Storing kept Books.Answers spare id entry left m x m') :
    ∃ new, m'.trail = m.trail ++ new ∧
      d.Settled kept id m.books left (tries new) (releases new) x m'.books := by
  have hnone : ∀ t ∈ ([] : List (Booking × Except Failure Bool)), t.2 = .ok false :=
    fun _ ht => absurd ht List.not_mem_nil
  induction h with
  | @exhausted m y hy =>
      refine ⟨[⟨.release id, y⟩], rfl, Nat.le_refl 0, nofun, ?_⟩
      rintro e ⟨⟩
      exact ⟨_, y, rfl, .refused hnone rfl, rfl, hy, rfl⟩
  | @stored left m r _ _ =>
      refine ⟨[⟨.store r, .ok true⟩], rfl, Nat.le_add_left 1 left, ?_, nofun⟩
      rintro r' ⟨⟩
      exact ⟨⟨[], rfl⟩, rfl, rfl⟩
  | @failed left m r cause y _ _ hy =>
      refine ⟨[⟨.store r, .error cause⟩, ⟨.release id, y⟩], List.append_assoc .., Nat.le_add_left 1 left,
        nofun, ?_⟩
      rintro e ⟨⟩
      exact ⟨cause, y, rfl, .failed hnone (Nat.succ_pos left), rfl, hy, rfl⟩
  | @refused left m m' r x _ _ _ ih =>
      -- a refused record leaves the books as they are
      obtain ⟨new, htrail, hsettled⟩ := ih
      refine ⟨⟨.store r, .ok false⟩ :: new, ?_, Nat.succ_le_succ hsettled.bounded, ?_, ?_⟩
      · rw [htrail]
        exact List.append_assoc ..
      · intro r' hr'
        obtain ⟨⟨refused, htries⟩, hfreed, hbooks⟩ := hsettled.stored r' hr'
        have hmore : tries (⟨.store r, .ok false⟩ :: new) = (r, .ok false) :: tries new := rfl
        rw [hmore, htries]
        exact ⟨⟨(r, .ok false) :: refused, rfl⟩, hfreed, hbooks⟩
      · intro e he
        obtain ⟨cause, y, hcause, hblames, hrest⟩ := hsettled.undone e he
        exact ⟨cause, y, hcause, hblames.cons r, hrest⟩

/-- A spot of an offering was taken. -/
def spotTaken (id : OfferingId) (o : Offering) : Exchange := ⟨.reserve id, .ok (.reserved o)⟩

/-- **All or nothing.** What a recorded booking with an outcome has made of some books and of the registry,
    by the exchanges it had. -/
structure AllOrNothing (d : Desk) (kept : Booking → Booking) (id : OfferingId) (b : Books)
    (es : List Exchange) (x : Except BookingError Booking) (b' : Books) (g' : Registry) : Prop where
  /-- No record is to be stored before a spot is taken. -/
  reserved : ∀ before e after, es = before ++ e :: after → e.tried?.isSome = true →
    ∃ o, spotTaken id o ∈ before
  bounded : (tries es).length ≤ max 1 d.rule.maxAttempts.toNat
  /-- The booking is made exactly if a record was stored. -/
  made : (∃ r, x = .ok r) ↔ ∃ t ∈ tries es, t.2 = .ok true
  /-- A booking that is made has its spot, its record and its entry, and nothing else has changed. -/
  whole : ∀ r, x = .ok r → (∃ refused, tries es = refused ++ [(r, .ok true)]) ∧ releases es = [] ∧
    g'.get? r.reference = some id ∧ b'.record? r.reference = some (kept r) ∧
    ∃ taken, b.Shifted taken id 1 ∧ b' = taken.record (kept r)
  /-- Without a spot nothing was tried, and nothing has changed. -/
  declined : ∀ e, x = .error e → (∀ o, spotTaken id o ∉ es) → tries es = [] ∧ releases es = [] ∧ b' = b
  /-- A spot that was taken in vain goes back once, if it can, and there is no new record. -/
  undone : ∀ e o, x = .error e → spotTaken id o ∈ es → ∃ cause y, e = .infrastructure cause ∧
    d.Blames d.rule.attempts (tries es) cause ∧ releases es = [(id, y)] ∧
    b.Shifted b' id (Books.stillTaken y)

/-- Nothing was to be stored in a trail without attempts. -/
theorem not_tried_of_tries_nil {es before after : List Exchange} {e : Exchange} (h : tries es = [])
    (hes : es = before ++ e :: after) : ¬ e.tried?.isSome = true := by
  intro htried
  obtain ⟨t, ht⟩ := Option.isSome_iff_exists.mp htried
  have hmem : t ∈ tries es :=
    List.mem_filterMap.mpr ⟨e, hes ▸ List.mem_append_right _ List.mem_cons_self, ht⟩
  rw [h] at hmem
  cases hmem

variable {b b' : Books} {g' : Registry} {es : List Exchange}

theorem allOrNothing_of_declined {e : BookingError} (htries : tries es = []) (hreleases : releases es = [])
    (hspot : ∀ o, spotTaken id o ∉ es) : d.AllOrNothing kept id b es (.error e) b g' where
  reserved _ _ _ hes htried := absurd htried (not_tried_of_tries_nil htries hes)
  bounded := htries ▸ Nat.zero_le _
  made := by
    rw [htries]
    constructor
    · rintro ⟨r, ⟨⟩⟩
    · rintro ⟨t, ht, -⟩
      cases ht
  whole := nofun
  declined _ _ _ := ⟨htries, hreleases, rfl⟩
  undone _ o _ ho := absurd ho (hspot o)

/-- Requests that the ledger has no part in make no difference. -/
theorem AllOrNothing.of_filter (h : d.AllOrNothing kept id b (es.filter Exchange.minuted) x b' g') :
    d.AllOrNothing kept id b es x b' g' := by
  have hmem : ∀ o, spotTaken id o ∈ es.filter Exchange.minuted ↔ spotTaken id o ∈ es :=
    fun o => List.mem_filter.trans (and_iff_left rfl)
  obtain ⟨hreserved, hbounded, hmade, hwhole, hdeclined, hundone⟩ := h
  rw [tries_minuted] at hbounded hmade
  simp only [tries_minuted, releases_minuted, hmem] at hwhole hdeclined hundone
  refine ⟨?_, hbounded, hmade, hwhole, hdeclined, hundone⟩
  intro before e after hes htried
  have hminuted : e.minuted = true := by
    obtain ⟨r, y⟩ := e
    cases r <;> first | rfl | cases htried
  obtain ⟨o, ho⟩ := hreserved (before.filter Exchange.minuted) e (after.filter Exchange.minuted)
    (by rw [hes, List.filter_append, List.filter_cons_of_pos hminuted]) htried
  exact ⟨o, (List.mem_filter.mp ho).1⟩

end Desk

section Whole

variable {σ : Type} (k : Bookkeeper σ) {s : σ} {d : Desk} {id : OfferingId} {g : Registry} {m' : Minutes}
  {x : Except BookingError Booking}

/-- What a recorded booking comes to on the minutes of a bookkeeper is all or nothing. -/
theorem Bookkeeper.allOrNothing (hs : k.Fit s)
    (h : d.Recording k.kept Books.Answers False id ⟨k.books s, g, []⟩ x m') :
    d.AllOrNothing k.kept id (k.books s) m'.trail x m'.books m'.registry := by
  cases h with
  | @judged y e =>
      refine Desk.allOrNothing_of_declined rfl rfl ?_
      intro o ho
      cases List.mem_singleton.mp ho
  | @unreserved y z e hz =>
      -- the books are as before, whatever the answer was
      have hbooks : (k.books s).after k.kept (.reserve id) z = k.books s := by
        rcases z with f | (o | o | o | _)
        · rfl
        · cases hz
        · rfl
        · rfl
        · rfl
      show d.AllOrNothing k.kept id (k.books s) [⟨.find id, y⟩, ⟨.reserve id, z⟩] (.error e)
        ((k.books s).after k.kept (.reserve id) z) g
      rw [hbooks]
      refine Desk.allOrNothing_of_declined rfl rfl ?_
      intro o ho
      rcases List.mem_cons.mp ho with ho | ho
      · cases ho
      · cases List.mem_singleton.mp ho
        cases hz
  | @reserved y o _ _ ho hstoring =>
      obtain ⟨new, htrail, hsettled⟩ := hstoring.settled
      obtain ⟨_, -, hentered, -⟩ := hstoring.registry
      replace htrail : m'.trail = ⟨.find id, y⟩ :: Desk.spotTaken id o :: new := htrail
      have htries : tries m'.trail = tries new := by
        rw [htrail]
        rfl
      have hreleases : releases m'.trail = releases new := by
        rw [htrail]
        rfl
      have htaken : Desk.spotTaken id o ∈ m'.trail :=
        htrail ▸ List.mem_cons_of_mem _ List.mem_cons_self
      cases ho with
      | unreserved hnone => cases hnone
      | @reserved _ o₀ _ hshown hcounted =>
          have hshifted : (k.books s).Shifted ((k.books s).post id o) id 1 :=
            ⟨o₀, o, hshown, hcounted, rfl⟩
          have hid : o.id = id := hcounted.id_eq.trans (k.ids hs hshown)
          refine ⟨?_, htries ▸ hsettled.bounded, ?_, ?_, ?_, ?_⟩
          · intro before e after hes htried
            rw [htrail] at hes
            -- the record comes after the first two exchanges, and the second one took the spot
            rcases before with _ | ⟨e₁, _ | ⟨e₂, before⟩⟩
            · cases hes
              cases htried
            · cases hes
              cases htried
            · cases hes
              exact ⟨o, List.mem_cons_of_mem _ List.mem_cons_self⟩
          · rw [htries]
            constructor
            · rintro ⟨r, hr⟩
              obtain ⟨⟨refused, hstored⟩, -⟩ := hsettled.stored r hr
              exact ⟨(r, .ok true), hstored ▸ List.mem_append_right _ List.mem_cons_self, rfl⟩
            · rintro ⟨t, ht, htrue⟩
              cases x with
              | ok r => exact ⟨r, rfl⟩
              | error e =>
                  obtain ⟨_, _, -, hblames, -⟩ := hsettled.undone e rfl
                  exact absurd htrue (hblames.unmade t ht)
          · intro r hr
            obtain ⟨hstored, hfreed, hbooks⟩ := hsettled.stored r hr
            refine ⟨htries ▸ hstored, hreleases.trans hfreed, ?_, ?_, _, hshifted, hbooks⟩
            · rw [hentered.booked r hr, hid]
            · rw [hbooks, ← k.reference_kept r]
              exact Books.record?_record_self _ _
          · intro e _ hnever
            exact absurd htaken (hnever o)
          · intro e _ he _
            obtain ⟨cause, z, hcause, hblames, hfreed, hanswer, hbooks⟩ := hsettled.undone e he
            refine ⟨cause, z, hcause, htries ▸ hblames, hreleases.trans hfreed, ?_⟩
            rw [hbooks]
            exact hshifted.undone (fun _ h => k.within hs h) hanswer k.kept

/-- **A recorded booking is made as a whole or not at all**, however its ledger answers as long as it keeps
    its books: whichever records it refuses, and whichever requests fail. -/
theorem recorded_all_or_nothing {w : World σ} (hw : k.Fit w.state) (d : Desk) (now : Timestamp)
    (id : OfferingId) (holder : Holder) :
    let outcome := k.ledger.run (d.bookRecorded now id holder) w
    d.AllOrNothing k.kept id (k.books w.state) ((d.bookRecorded now id holder).trail k.ledger.serve w)
      outcome.1 (k.books outcome.2.state) outcome.2.registry := by
  intro outcome
  have hfollows : (d.bookRecorded now id holder).Follows (Minutes.protocol k.kept Books.Answers False)
      (fun m' x => d.Recording k.kept Books.Answers False id ⟨k.books w.state, w.registry, []⟩ x m')
      ⟨k.books w.state, w.registry, []⟩ := Desk.follows_recording _
  exact (k.allOrNothing hw (k.keeps_minutes hw hfollows)).of_filter

end Whole

namespace OneReference

/-- The connection is lost. -/
def lost : Failure := ⟨.database, "connection lost", none⟩

/-- Of the two attempts to store a record one is refused and the other fails, and the spot cannot be freed
    either. -/
def luckless : World (Scripted Memory) :=
  ⟨⟨[.serve, .serve, .refuse, .fail lost, .fail lost], world.state⟩, .empty, default, default, []⟩

theorem fit_luckless : (Scripted.bookkeeper Memory.bookkeeper).Fit luckless.state := by
  refine ⟨(Memory.sound_empty 0 .empty).put (by decide), ?_⟩
  intro reference b hb
  cases hb

end OneReference

open OneReference in
/-- Ann gets neither a reference nor a record, though one spot more is booked. -/
theorem spot_lost_with_the_connection :
    let k := Scripted.bookkeeper Memory.bookkeeper
    let outcome := k.ledger.run books luckless
    outcome.1 = .error (.infrastructure lost) ∧
      (tries (books.trail k.ledger.serve luckless)).length = 2 ∧
      (releases (books.trail k.ledger.serve luckless)).length = 1 ∧
      (k.books luckless.state).Shifted (k.books outcome.2.state) ⟨1⟩ 1 := by
  intro k outcome
  have hfailed : outcome.1 = .error (.infrastructure lost) := errorOf?_eq_some.mp (by decide +kernel)
  have htwice : (tries (books.trail k.ledger.serve luckless)).length = 2 := by decide +kernel
  have hall : desk.AllOrNothing k.kept ⟨1⟩ (k.books luckless.state) (books.trail k.ledger.serve luckless)
      outcome.1 (k.books outcome.2.state) outcome.2.registry :=
    recorded_all_or_nothing k fit_luckless desk default ⟨1⟩ ⟨"Ann", none⟩
  -- something was tried, so there was a spot
  have hspot : ∃ o, Desk.spotTaken ⟨1⟩ o ∈ books.trail k.ledger.serve luckless := by
    by_contra hnone
    obtain ⟨htries, -⟩ := hall.declined _ hfailed fun o ho => hnone ⟨o, ho⟩
    exact absurd (htwice.symm.trans (congrArg List.length htries)) (by decide)
  obtain ⟨o, ho⟩ := hspot
  obtain ⟨cause, y, -, -, hreleases, hshifted⟩ := hall.undone _ o hfailed ho
  have hkept : (releases (books.trail k.ledger.serve luckless)).map (Books.stillTaken ·.2) = [1] := by
    decide +kernel
  rw [hreleases] at hkept
  obtain ⟨hone, -⟩ := List.cons.inj hkept
  exact ⟨hfailed, htwice, congrArg List.length hreleases, hone ▸ hshifted⟩

end DiveSchool
