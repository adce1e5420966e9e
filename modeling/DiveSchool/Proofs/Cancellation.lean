import DiveSchool.Proofs.Holding

/-!
# `DiveSchool.Proofs.Cancellation` — how many spots the cancellations of one booking free

A booking can be cancelled by the registry or by its record. The registry knows nothing of records, so
cancelling by it leaves the record where it is, and the record can be cancelled after that: one booking may
free two spots, one each way, but never two in the same way. As long as nobody cancels by the registry what
has a record, it is one spot in all.

Calls are made one after another here, without faults.

## Contents
- **Attendance.** `World.attend`: a call carried out from beginning to end, and lists of them.
- **Counters.** `FreesSpot`: what a cancellation does to the counters.
- **Courses.** `Course`: the holding of one reference through a list of calls.
- **Main result.** `cancelled_once_each_way`, and the booking that frees two spots.
-/

namespace DiveSchool

/-! ## Attendance -/

/-- All draws were in vain. -/
def Event.exhausts : Event → Bool
  | redrawsExhausted .. => true
  | _ => false

/-- A call that was carried out from beginning to end. -/
structure Attended where
  before : World Memory
  call : Call
  ending : Ending
  after : World Memory

namespace World

/-- Carry a call out. -/
def attend (d : Desk) (w : World Memory) (c : Call) : Attended :=
  let (ending, after) := Memory.ledger.run (c.procedure d) w
  ⟨w, c, ending, after⟩

/-- Carry calls out one after another. -/
def attendAll (d : Desk) : World Memory → List Call → List Attended
  | _, [] => []
  | w, c :: calls => w.attend d c :: attendAll d (w.attend d c).after calls

/-- The world after some calls. -/
def afterAll (d : Desk) (w : World Memory) (calls : List Call) : World Memory :=
  calls.foldl (fun w c => (w.attend d c).after) w

/-- Nothing stands in the way of a call: counters and records are in order, and nobody holds a lock. -/
structure Fit (w : World Memory) : Prop where
  sound : w.state.Sound
  keyed : w.state.Keyed
  unlocked : w.state.held = []

/-- Some booking was given a reference that was in use. -/
def Exhausted (w : World Memory) : Prop := ∃ event ∈ w.log, event.exhausts = true

instance (w : World Memory) : Decidable w.Exhausted :=
  inferInstanceAs (Decidable (∃ event ∈ w.log, event.exhausts = true))

variable {w : World Memory}

theorem Fit.serve (hw : w.Fit) (q : Request) : (Memory.ledger.serve q w).2.Fit := by
  have heffect : Memory.RequestEffect w.state w.now q (Memory.ledger.serve q w).1
      (Memory.ledger.serve q w).2.state := hw.sound.requestEffect none q
  exact ⟨heffect.sound hw.sound, heffect.keyed hw.keyed, heffect.held.trans hw.unlocked⟩

/-- Without locks every request is served smoothly, unless it reports that all draws were in vain. -/
theorem Fit.smooth (hw : w.Fit) (q : Request) :
    (∃ candidate attempts id, q = .log (.redrawsExhausted candidate attempts id)) ∨
      Holding.Smooth q (Memory.ledger.serve q w).1 := by
  have hfree : ∀ id, id ∉ w.state.held := by
    intro id
    rw [hw.unlocked]
    exact List.not_mem_nil
  cases q with
  | find id =>
      right
      show Holding.Smooth (.find id) (w.state.find id).answer
      have hstep := Memory.findStep w.state id
      generalize w.state.find id = reply at hstep
      cases hstep with
      | locked _ hheld => exact absurd hheld (hfree id)
      | _ => exact trivial
  | reserve id =>
      right
      show Holding.Smooth (.reserve id) (w.state.reserve w.now id).answer
      have hstep := hw.sound.reserveStep w.now id
      generalize w.state.reserve w.now id = reply at hstep
      cases hstep with
      | locked _ hheld => exact absurd hheld (hfree id)
      | _ => exact trivial
  | release id =>
      right
      show Holding.Smooth (.release id) (w.state.release w.now id).answer
      have hstep := hw.sound.releaseStep w.now id
      generalize w.state.release w.now id = reply at hstep
      cases hstep with
      | locked _ hheld => exact absurd hheld (hfree id)
      | _ => exact trivial
  | log event =>
      cases event with
      | redrawsExhausted candidate attempts id => exact .inl ⟨candidate, attempts, id, rfl⟩
      | _ => exact .inr trivial
  | _ => exact .inr trivial

/-- What is in the log stays there. -/
theorem mem_log_serve {event : Event} (h : event ∈ w.log) (q : Request) :
    event ∈ (Memory.ledger.serve q w).2.log := by
  cases q with
  | claim reference id =>
      cases hclaim : w.registry.claim? reference id <;> simp only [Ledger.serve, hclaim] <;> exact h
  | draw => exact h
  | enter reference id => exact h
  | forget reference => exact h
  | _ => exact List.mem_append_left _ h

theorem exhausted_serve (q : Request) (w : World Memory) (h : w.Exhausted) :
    (Memory.ledger.serve q w).2.Exhausted := by
  obtain ⟨event, hmem, hexhausts⟩ := h
  exact ⟨event, mem_log_serve hmem q, hexhausts⟩

/-- **A call in a fit world** does to a holding what it can do without faults, or exhausts the draws. -/
theorem Fit.attend (hw : w.Fit) {d : Desk} (hunique : d.rule.unique = true) (c : Call) (r : String) :
    (w.attend d c).after.Exhausted ∨ (w.attend d c).after.Fit ∧
      Handles r (Holding.of w r) c (w.attend d c).ending (Holding.of (w.attend d c).after r) := by
  have hserve : ∀ (s : Holding) (w : World Memory) (q : Request), (w.Fit ∧ Holding.of w r = s) → True →
      (Memory.ledger.serve q w).2.Exhausted ∨
        ((s.Agrees r q (Memory.ledger.serve q w).1 ∧ Holding.Smooth q (Memory.ledger.serve q w).1) ∧
          (Memory.ledger.serve q w).2.Fit ∧
          Holding.of (Memory.ledger.serve q w).2 r = s.after r q (Memory.ledger.serve q w).1) := by
    rintro s w q ⟨hw, rfl⟩ -
    obtain ⟨hagrees, hafter⟩ := Holding.agrees_serve hw.sound hw.keyed r q
    rcases hw.smooth q with ⟨candidate, attempts, id, rfl⟩ | hsmooth
    · left
      exact ⟨_, List.mem_append_right _ (List.mem_singleton_self _), rfl⟩
    · right
      exact ⟨⟨hagrees, hsmooth⟩, hw.serve q, hafter⟩
  have hfollows : (c.procedure d).Follows (Holding.protocol r (Holding.of w r))
      (fun s e => Handles r (Holding.of w r) c e s) (Holding.of w r) := Holding.handles hunique c
  rcases hfollows.run_unless (R := fun s w => w.Fit ∧ Holding.of w r = s) exhausted_serve hserve ⟨hw, rfl⟩
    with h | ⟨s, hhandles, hfit, hs⟩
  · exact .inl h
  · exact .inr ⟨hfit, hs ▸ hhandles⟩

/-- Draws that were exhausted stay so. -/
theorem Exhausted.attend (h : w.Exhausted) (d : Desk) (c : Call) : (w.attend d c).after.Exhausted :=
  Procedure.spoilt_run exhausted_serve (c.procedure d) h

theorem Exhausted.afterAll (h : w.Exhausted) (d : Desk) (calls : List Call) :
    (w.afterAll d calls).Exhausted := by
  induction calls generalizing w with
  | nil => exact h
  | cons c calls ih => exact ih (h.attend d c)

end World

/-! ## Counters -/

/-- What a cancellation does to the offerings: a success frees one spot, anything else nothing. -/
inductive FreesSpot (offerings : Table OfferingId Offering) :
    Except ReleaseError Snapshot → Table OfferingId Offering → Prop
  | spot {id : OfferingId} {o : Offering} {now : Timestamp} (ho : offerings.get? id = some o)
      (hbooked : 0 < o.bookings.toInt) :
      FreesSpot offerings (.ok (o.vacated now).snapshot) (offerings.insert o.id (o.vacated now))
  | none {e : ReleaseError} : FreesSpot offerings (.error e) offerings

namespace FreesSpot

variable {offerings : Table OfferingId Offering}

/-- An observer who follows the offerings while spots are freed. -/
def protocol (offerings : Table OfferingId Offering) : Protocol (Table OfferingId Offering) where
  start := offerings
  may
    | _, .reserve _ => False
    | _, _ => True
  heard
    | t, .release _, .ok (.released o') =>
      ∃ id o now, t.get? id = some o ∧ 0 < o.bookings.toInt ∧ o' = Offering.vacated o now
    | _, _, _ => True
  next
    | t, .release _, .ok (.released o') => t.insert o'.id o'
    | t, _, _ => t

theorem protocol_ledgerOnly : (protocol offerings).LedgerOnly := by
  constructor <;> intros <;> exact fun _ => ⟨trivial, fun _ => rfl⟩

/-- The answer to a release tells what has become of the offerings. -/
theorem of_release {t : Table OfferingId Offering} {id : OfferingId} {x : Except Failure Freeing}
    (hx : (protocol offerings).heard t (.release id) x) :
    FreesSpot t (Desk.freed id x) ((protocol offerings).next t (.release id) x) := by
  rcases x with cause | (o' | o' | _)
  · exact .none
  · obtain ⟨id, o, now, ho, hbooked, rfl⟩ := hx
    exact .spot ho hbooked
  · exact .none
  · exact .none

theorem follows_cancel (reference : String) : (Desk.cancel reference).Follows (protocol offerings)
    (fun t x => FreesSpot offerings x t) offerings :=
  Desk.follows_cancel protocol_ledgerOnly .none fun _ => ⟨trivial, fun _ hx => of_release hx⟩

theorem follows_cancelRecorded (reference : String) : (Desk.cancelRecorded reference).Follows
    (protocol offerings) (fun t x => FreesSpot offerings x t) offerings := by
  refine Desk.follows_cancelRecorded protocol_ledgerOnly trivial (fun _ _ => .none) (fun _ => .none) ?_
  intro b _
  refine ⟨trivial, ?_⟩
  rintro (cause | x) hx
  · exact Procedure.follows_ask.mpr ⟨trivial, fun _ _ => .none⟩
  · exact of_release hx

theorem follows_cancellation (d : Desk) {c : Call} {r : String} (hc : c.Cancels r) :
    (c.procedure d).Follows (protocol offerings)
      (fun t e => ∃ x, e = .freed x ∧ FreesSpot offerings x t) offerings := by
  rcases hc with rfl | rfl
  · exact Procedure.follows_bind.mpr ((follows_cancel r).mono fun t x h => ⟨x, rfl, h⟩)
  · exact Procedure.follows_bind.mpr ((follows_cancelRecorded r).mono fun t x h => ⟨x, rfl, h⟩)

/-- A sound ledger lets the observer see all that happens to the offerings. -/
theorem heard_of_effect {m m' : Memory} {now : Timestamp} {q : Request} {x : q.Answer}
    (heffect : Memory.RequestEffect m now q x m') (hmay : (protocol offerings).may m.offerings q) :
    (protocol offerings).heard m.offerings q x ∧
      m'.offerings = (protocol offerings).next m.offerings q x := by
  cases heffect with
  | nothing hx =>
      cases q with
      | release id => rcases x with cause | (o' | o' | _) <;> first | exact ⟨trivial, rfl⟩ | exact hx.elim
      | _ => exact ⟨trivial, rfl⟩
  | took ho hstatus hfree => exact hmay.elim
  | @freed id o ho hbooked => exact ⟨⟨id, o, now, ho, hbooked, rfl⟩, rfl⟩
  | looked ho => exact ⟨trivial, rfl⟩
  | stored hnew => exact ⟨trivial, rfl⟩
  | removed h => exact ⟨trivial, rfl⟩

end FreesSpot

/-- **A cancellation in a fit world** frees one spot of one offering if it succeeds, and none otherwise. -/
theorem World.Fit.freesSpot {w : World Memory} (hw : w.Fit) (d : Desk) {c : Call} {r : String}
    (hc : c.Cancels r) : ∃ x, (w.attend d c).ending = .freed x ∧
      FreesSpot w.state.offerings x (w.attend d c).after.state.offerings := by
  have hserve : ∀ (t : Table OfferingId Offering) (w' : World Memory) (q : Request),
      (w'.Fit ∧ w'.state.offerings = t) → (FreesSpot.protocol w.state.offerings).may t q →
      (FreesSpot.protocol w.state.offerings).heard t q (Memory.ledger.serve q w').1 ∧
        (Memory.ledger.serve q w').2.Fit ∧ (Memory.ledger.serve q w').2.state.offerings =
          (FreesSpot.protocol w.state.offerings).next t q (Memory.ledger.serve q w').1 := by
    rintro t w' q ⟨hw', rfl⟩ hmay
    have heffect : Memory.RequestEffect w'.state w'.now q (Memory.ledger.serve q w').1
      (Memory.ledger.serve q w').2.state := hw'.sound.requestEffect none q
    obtain ⟨hheard, hnext⟩ := FreesSpot.heard_of_effect heffect hmay
    exact ⟨hheard, hw'.serve q, hnext⟩
  obtain ⟨t, hfrees, -, ht⟩ := (FreesSpot.follows_cancellation d hc).run
    (R := fun (t : Table OfferingId Offering) (w' : World Memory) => w'.Fit ∧ w'.state.offerings = t) hserve
    ⟨hw, rfl⟩
  subst ht
  exact hfrees

/-! ## Courses -/

/-- A spot was freed. -/
def Ending.frees : Ending → Bool
  | freed (.ok _) => true
  | _ => false

/-- What is held is there for a cancellation that looks for it. -/
def Holding.found (s : Holding) (r : String) : Call → Bool
  | .cancel reference => decide (reference = r) && s.entered.isSome
  | .cancelRecorded reference => decide (reference = r) && s.recorded.isSome
  | _ => false

namespace Attended

/-- This very cancellation was asked for, and it freed a spot. -/
def freesBy (c : Call) (a : Attended) : Bool := decide (a.call = c) && a.ending.frees

/-- The booking with this reference was to be cancelled, and was there. -/
def finds (r : String) (a : Attended) : Bool := (Holding.of a.before r).found r a.call

theorem freesBy_eq_true {c : Call} {a : Attended} :
    a.freesBy c = true ↔ a.call = c ∧ a.ending.frees = true := by
  rw [freesBy, Bool.and_eq_true, decide_eq_true_eq]

end Attended

/-- One holding after the other, through calls none of which issues the reference. -/
inductive Course (r : String) : Holding → List Attended → Holding → Prop
  | nil {s : Holding} : Course r s [] s
  | cons {s s' s'' : Holding} {a : Attended} {attended : List Attended} (hbefore : Holding.of a.before r = s)
      (hhandles : Handles r s a.call a.ending s') (hfresh : ¬ a.ending.Issues r)
      (hrest : Course r s' attended s'') : Course r s (a :: attended) s''

/-! ### Steps of a course -/

namespace Handles

variable {r : String} {s s' : Holding} {c : Call} {e : Ending}

/-- A call that issues the reference enters it into the registry. -/
theorem entered (h : Handles r s c e s') (hissues : e.Issues r) : s'.entered.isSome = true := by
  obtain ⟨b, rfl, hb⟩ := hissues
  cases h with
  | other _ he => exact absurd ⟨b, rfl, hb⟩ he
  | issued _ _ => rfl
  | recorded _ _ _ => rfl

/-- A cancellation frees a spot only if it finds the booking. -/
theorem found (h : Handles r s c e s') (hc : c.Cancels r) (hfrees : e.frees = true) :
    s.found r c = true := by
  cases h with
  | other hother _ => exact absurd hc hother
  | issued _ _ => cases hfrees
  | recorded _ _ _ => cases hfrees
  | unknown _ => cases hfrees
  | forgotten hsome => simp only [Holding.found, hsome, decide_true, Option.isSome_some, Bool.and_self]
  | unrecorded _ => cases hfrees
  | removed hsome => simp only [Holding.found, hsome, decide_true, Option.isSome_some, Bool.and_self]

/-- A call that does not issue the reference: cancelling by the registry clears the registry, cancelling by
    a record clears both, and nothing else changes the holding. -/
theorem passes (h : Handles r s c e s') (hfresh : ¬ e.Issues r) :
    (¬ c.Cancels r ∧ s' = s) ∨ (c = .cancel r ∧ s' = ⟨none, s.recorded⟩) ∨
      (c = .cancelRecorded r ∧ s' = if s.recorded.isSome then ⟨none, none⟩ else s) := by
  cases h with
  | other hc _ => exact .inl ⟨hc, rfl⟩
  | issued hb _ => exact absurd ⟨_, rfl, hb⟩ hfresh
  | recorded hb _ _ => exact absurd ⟨_, rfl, hb⟩ hfresh
  | unknown hnone =>
      right; left
      refine ⟨rfl, ?_⟩
      rw [← hnone]
  | forgotten _ => exact .inr (.inl ⟨rfl, rfl⟩)
  | unrecorded hnone =>
      right; right
      refine ⟨rfl, ?_⟩
      rw [hnone]
      rfl
  | removed hsome =>
      right; right
      refine ⟨rfl, ?_⟩
      rw [hsome]
      rfl

end Handles

/-! ### Budgets -/

namespace Holding

/-- How often what is held can be cancelled by the registry. -/
def entries (s : Holding) : Nat := s.entered.isSome.toNat

/-- How often what is held can be cancelled by its record. -/
def records (s : Holding) : Nat := s.recorded.isSome.toNat

/-- How often what is held can be cancelled if both ways clear everything. -/
def stakes (s : Holding) : Nat := (s.entered.isSome || s.recorded.isSome).toNat

end Holding

namespace Handles

variable {r : String} {s s' : Holding} {a : Attended}

theorem found_of_freesBy (h : Handles r s a.call a.ending s') {c : Call} (hc : c.Cancels r)
    (hfrees : a.freesBy c = true) : a.call = c ∧ s.found r c = true := by
  obtain ⟨rfl, hfreed⟩ := Attended.freesBy_eq_true.mp hfrees
  exact ⟨rfl, h.found hc hfreed⟩

/-- Cancelling by the registry uses up the entry. -/
theorem pays_entry (h : Handles r s a.call a.ending s') (hfresh : ¬ a.ending.Issues r) :
    (if a.freesBy (.cancel r) then 1 else 0) + s'.entries ≤ s.entries := by
  have hfound : a.freesBy (.cancel r) = true → a.call = .cancel r ∧ s.entered.isSome = true := by
    intro hfrees
    obtain ⟨hc, hfound⟩ := h.found_of_freesBy (.inl rfl) hfrees
    exact ⟨hc, (Bool.and_eq_true_iff.mp hfound).2⟩
  rcases h.passes hfresh with ⟨hc, rfl⟩ | ⟨hc, rfl⟩ | ⟨hc, rfl⟩
  · rw [if_neg fun hfrees => hc (.inl (hfound hfrees).1)]
    exact Nat.le_of_eq (Nat.zero_add _)
  · split
    · next hfrees =>
        rw [Holding.entries, Holding.entries, (hfound hfrees).2]
        exact Nat.le_refl 1
    · exact Nat.zero_le _
  · rw [if_neg fun hfrees => nomatch hc.symm.trans (hfound hfrees).1]
    split
    · exact Nat.zero_le _
    · exact Nat.le_of_eq (Nat.zero_add _)

/-- Cancelling by the record uses up the record. -/
theorem pays_record (h : Handles r s a.call a.ending s') (hfresh : ¬ a.ending.Issues r) :
    (if a.freesBy (.cancelRecorded r) then 1 else 0) + s'.records ≤ s.records := by
  have hfound : a.freesBy (.cancelRecorded r) = true →
      a.call = .cancelRecorded r ∧ s.recorded.isSome = true := by
    intro hfrees
    obtain ⟨hc, hfound⟩ := h.found_of_freesBy (.inr rfl) hfrees
    exact ⟨hc, (Bool.and_eq_true_iff.mp hfound).2⟩
  rcases h.passes hfresh with ⟨hc, rfl⟩ | ⟨hc, rfl⟩ | ⟨hc, rfl⟩
  · rw [if_neg fun hfrees => hc (.inr (hfound hfrees).1)]
    exact Nat.le_of_eq (Nat.zero_add _)
  · rw [if_neg fun hfrees => nomatch hc.symm.trans (hfound hfrees).1]
    exact Nat.le_of_eq (Nat.zero_add _)
  · split
    · next hfrees =>
        rw [if_pos (hfound hfrees).2, Holding.records, Holding.records, (hfound hfrees).2]
        exact Nat.le_refl 1
    · split
      · exact Nat.zero_le _
      · exact Nat.le_of_eq (Nat.zero_add _)

/-- Where nobody cancels by the registry what is recorded, either way uses up all there is. -/
theorem pays_stake (h : Handles r s a.call a.ending s') (hbefore : Holding.of a.before r = s)
    (hfresh : ¬ a.ending.Issues r) (hplain : a.call = .cancel r → s.recorded = none) :
    (if a.finds r then 1 else 0) + s'.stakes ≤ s.stakes := by
  rw [Attended.finds, hbefore]
  rcases h.passes hfresh with ⟨hc, rfl⟩ | ⟨hc, rfl⟩ | ⟨hc, rfl⟩
  · have hnot : s'.found r a.call = false := by
      cases hcall : a.call with
      | cancel reference =>
          have hne : reference ≠ r := fun hr => hc (.inl (hr ▸ hcall))
          simp only [Holding.found, hne, decide_false, Bool.false_and]
      | cancelRecorded reference =>
          have hne : reference ≠ r := fun hr => hc (.inr (hr ▸ hcall))
          simp only [Holding.found, hne, decide_false, Bool.false_and]
      | _ => rfl
    rw [hnot]
    simp only [Bool.false_eq_true, if_false, Nat.zero_add, Nat.le_refl]
  · rw [hc, Holding.stakes, Holding.stakes, hplain hc]
    cases hentered : s.entered <;> simp [Holding.found, hentered]
  · rw [hc]
    cases hrecorded : s.recorded <;> simp [Holding.found, Holding.stakes, hrecorded]

end Handles

namespace Course

variable {r : String} {s s' : Holding} {attended : List Attended}

/-- **A budget for cancellations**: what every call pays for is paid for by all of them together. -/
theorem countP_le {p : Attended → Bool} {budget : Holding → Nat} (h : Course r s attended s')
    (hpays : ∀ s a s', a ∈ attended → Holding.of a.before r = s → Handles r s a.call a.ending s' →
      ¬ a.ending.Issues r → (if p a then 1 else 0) + budget s' ≤ budget s) :
    attended.countP p + budget s' ≤ budget s := by
  induction h with
  | nil => exact Nat.le_of_eq (Nat.zero_add _)
  | cons hbefore hhandles hfresh hrest ih =>
      have hpaid := hpays _ _ _ List.mem_cons_self hbefore hhandles hfresh
      have hrest := ih fun s a s' ha => hpays s a s' (List.mem_cons_of_mem _ ha)
      rw [List.countP_cons]
      omega

/-- Every call of a course does to the holding what calls do. -/
theorem handles_of_mem (h : Course r s attended s') {a : Attended} (ha : a ∈ attended) :
    ∃ t, Handles r (Holding.of a.before r) a.call a.ending t := by
  induction h with
  | nil => cases ha
  | cons hbefore hhandles _ _ ih =>
      rcases List.mem_cons.mp ha with rfl | ha
      · exact ⟨_, hbefore ▸ hhandles⟩
      · exact ih ha

/-- By the registry a booking is cancelled once. -/
theorem countP_cancel_le (h : Course r s attended s') :
    attended.countP (Attended.freesBy (.cancel r)) ≤ 1 := by
  have hpaid : attended.countP (Attended.freesBy (.cancel r)) + s'.entries ≤ s.entries :=
    h.countP_le fun _ _ _ _ _ hhandles hfresh => hhandles.pays_entry hfresh
  have hbudget : s.entries ≤ 1 := Bool.toNat_le _
  omega

/-- By the record a booking is cancelled once. -/
theorem countP_cancelRecorded_le (h : Course r s attended s') :
    attended.countP (Attended.freesBy (.cancelRecorded r)) ≤ 1 := by
  have hpaid : attended.countP (Attended.freesBy (.cancelRecorded r)) + s'.records ≤ s.records :=
    h.countP_le fun _ _ _ _ _ hhandles hfresh => hhandles.pays_record hfresh
  have hbudget : s.records ≤ 1 := Bool.toNat_le _
  omega

section Plain

-- nobody cancels by the registry what is recorded
variable (hplain : ∀ a ∈ attended, a.call = .cancel r → a.before.state.records.get? r = none)
include hplain

theorem countP_finds_le (h : Course r s attended s') :
    attended.countP (Attended.finds r) + s'.stakes ≤ 1 := by
  have hpaid : attended.countP (Attended.finds r) + s'.stakes ≤ s.stakes := by
    refine h.countP_le ?_
    rintro s a s' ha rfl hhandles hfresh
    exact hhandles.pays_stake rfl hfresh (hplain a ha)
  exact Nat.le_trans hpaid (Bool.toNat_le _)

/-- In either way a booking is cancelled once. -/
theorem countP_either_le (h : Course r s attended s') :
    attended.countP (fun a => a.freesBy (.cancel r) || a.freesBy (.cancelRecorded r)) ≤ 1 := by
  have hfinds : attended.countP (fun a => a.freesBy (.cancel r) || a.freesBy (.cancelRecorded r)) ≤
      attended.countP (Attended.finds r) := by
    refine List.countP_mono_left fun a ha hfrees => ?_
    obtain ⟨_, hhandles⟩ := h.handles_of_mem ha
    rcases Bool.or_eq_true_iff.mp hfrees with hfrees | hfrees
    · obtain ⟨hc, hfound⟩ := hhandles.found_of_freesBy (.inl rfl) hfrees
      rwa [Attended.finds, hc]
    · obtain ⟨hc, hfound⟩ := hhandles.found_of_freesBy (.inr rfl) hfrees
      rwa [Attended.finds, hc]
  have hpaid := countP_finds_le hplain h
  omega

/-- After a cancellation that found the booking, nothing is held. -/
theorem nothing_held (h : Course r s attended s') (hfound : ∃ a ∈ attended, a.finds r = true) :
    s' = ⟨none, none⟩ := by
  have hsome : 0 < attended.countP (Attended.finds r) := List.countP_pos_iff.mpr hfound
  have hpaid := countP_finds_le hplain h
  have hnone : s'.stakes = 0 := by omega
  obtain ⟨entered, recorded⟩ := s'
  cases entered <;> cases recorded <;> first | rfl | cases hnone

end Plain

end Course

namespace World

variable {w : World Memory} {d : Desk}

/-- Calls keep a world fit, or exhaust the draws. -/
theorem Fit.afterAll (hw : w.Fit) (hunique : d.rule.unique = true) (calls : List Call) :
    (w.afterAll d calls).Exhausted ∨ (w.afterAll d calls).Fit := by
  induction calls generalizing w with
  | nil => exact .inr hw
  | cons c calls ih =>
      rcases hw.attend hunique c "" with hexhausted | ⟨hfit, _⟩
      · exact .inl (hexhausted.afterAll d calls)
      · exact ih hfit

/-- **Calls in a fit world are a course**, unless one of them issues the reference or exhausts the draws. -/
theorem Fit.course (hw : w.Fit) (hunique : d.rule.unique = true) {r : String} {calls : List Call}
    (hdrawn : ¬ (w.afterAll d calls).Exhausted)
    (hagain : ∀ a ∈ w.attendAll d calls, ¬ a.ending.Issues r) :
    Course r (Holding.of w r) (w.attendAll d calls) (Holding.of (w.afterAll d calls) r) := by
  induction calls generalizing w with
  | nil => exact .nil
  | cons c calls ih =>
      rcases hw.attend hunique c r with hexhausted | ⟨hfit, hhandles⟩
      · exact absurd (hexhausted.afterAll d calls) hdrawn
      · exact .cons rfl hhandles (hagain _ List.mem_cons_self)
          (ih hfit hdrawn fun a ha => hagain a (List.mem_cons_of_mem _ ha))

/-- Whatever is cancelled in a fit world frees one spot if it succeeds, and none otherwise. -/
theorem Fit.freesSpot_of_mem (hw : w.Fit) (hunique : d.rule.unique = true) {calls : List Call}
    (hdrawn : ¬ (w.afterAll d calls).Exhausted) {a : Attended} (ha : a ∈ w.attendAll d calls) {r : String}
    (hc : a.call.Cancels r) :
    ∃ x, a.ending = .freed x ∧ FreesSpot a.before.state.offerings x a.after.state.offerings := by
  induction calls generalizing w with
  | nil => cases ha
  | cons c calls ih =>
      rcases List.mem_cons.mp ha with rfl | ha
      · exact hw.freesSpot d hc
      · rcases hw.attend hunique c r with hexhausted | ⟨hfit, _⟩
        · exact absurd (hexhausted.afterAll d calls) hdrawn
        · exact ih hfit hdrawn ha

theorem afterAll_append (w : World Memory) (d : Desk) (earlier later : List Call) :
    w.afterAll d (earlier ++ later) = (w.afterAll d earlier).afterAll d later := List.foldl_append

end World

/-! ## One booking -/

/-- **One booking is cancelled once each way.** Calls are made one after another in a world without faults,
    and one of them books: the registry has its reference then. Until it is issued again, each cancellation
    by it frees one spot or fails, at most one succeeds by the registry, and at most one by the record. If no
    cancellation by the registry meets a record, at most one succeeds in all, and once one has found the
    booking, nothing holds the reference any more. -/
theorem cancelled_once_each_way {d : Desk} (hunique : d.rule.unique = true) {w : World Memory} (hw : w.Fit)
    {earlier later : List Call} {c : Call} {b : Booking}
    (hbooked : ((w.afterAll d earlier).attend d c).ending = .booked (.ok b))
    (hdrawn : ¬ (w.afterAll d (earlier ++ c :: later)).Exhausted)
    (hagain : ∀ a ∈ ((w.afterAll d earlier).attend d c).after.attendAll d later,
      ¬ a.ending.Issues b.reference) :
    let booked := ((w.afterAll d earlier).attend d c).after
    let attended := booked.attendAll d later
    let last := w.afterAll d (earlier ++ c :: later)
    (booked.registry.get? b.reference).isSome = true ∧
    (∀ a ∈ attended, a.call.Cancels b.reference →
      ∃ x, a.ending = .freed x ∧ FreesSpot a.before.state.offerings x a.after.state.offerings) ∧
    attended.countP (Attended.freesBy (.cancel b.reference)) ≤ 1 ∧
    attended.countP (Attended.freesBy (.cancelRecorded b.reference)) ≤ 1 ∧
    ((∀ a ∈ attended, a.call = .cancel b.reference → a.before.state.records.get? b.reference = none) →
      attended.countP (fun a =>
        a.freesBy (.cancel b.reference) || a.freesBy (.cancelRecorded b.reference)) ≤ 1 ∧
      ((∃ a ∈ attended, a.finds b.reference = true) →
        last.registry.get? b.reference = none ∧ last.state.records.get? b.reference = none)) := by
  intro booked attended last
  have hlast : last = booked.afterAll d later := World.afterAll_append w d earlier (c :: later)
  have hdrawn : ¬ (booked.afterAll d later).Exhausted := by rwa [← hlast]
  have hbefore : (w.afterAll d earlier).Fit := by
    rcases hw.afterAll hunique earlier with hexhausted | hfit
    · exact absurd ((hexhausted.attend d c).afterAll d later) hdrawn
    · exact hfit
  obtain ⟨hfit, hhandles⟩ : booked.Fit ∧ _ := by
    rcases hbefore.attend hunique c b.reference with hexhausted | hattend
    · exact absurd (hexhausted.afterAll d later) hdrawn
    · exact hattend
  have hcourse : Course b.reference (Holding.of booked b.reference) attended
      (Holding.of (booked.afterAll d later) b.reference) := hfit.course hunique hdrawn hagain
  refine ⟨hhandles.entered ⟨b, hbooked, rfl⟩, fun a ha hc => hfit.freesSpot_of_mem hunique hdrawn ha hc,
    hcourse.countP_cancel_le, hcourse.countP_cancelRecorded_le,
    fun hplain => ⟨Course.countP_either_le hplain hcourse, fun hfound => ?_⟩⟩
  have hnothing : Holding.of last b.reference = ⟨none, none⟩ :=
    hlast ▸ Course.nothing_held hplain hcourse hfound
  exact ⟨congrArg Holding.entered hnothing, congrArg Holding.recorded hnothing⟩

namespace TwoSpots

/-- A trip with three spots. -/
def trip : Offering := Offering.trip ⟨1⟩ default "Reef" 3 none

/-- A desk that issues every reference once. -/
def desk : Desk := ⟨.ordinal, ⟨true, 16⟩⟩

/-- The trip is in the ledger. -/
def world : World Memory :=
  ((Traffic.opening 0 .empty .empty default default).run desk (Tested.adding ⟨trip, rfl⟩)).world

theorem fit_world : world.Fit where
  sound := World.Reachable.sound ⟨desk, 0, .empty, .empty, default, default, Tested.adding ⟨trip, rfl⟩, rfl⟩
  keyed := nofun
  unlocked := rfl

/-- A booking of the trip with a record. -/
def books (name : String) : Call := .bookRecorded default ⟨1⟩ ⟨name, none⟩

/-- What Ann gets. -/
def record : Booking := ⟨"REEF_ANN_100", ⟨1⟩, "Ann", default⟩

/-- The world once Ann has it. -/
def booked : World Memory := (world.attend desk (books "Ann")).after

theorem books_eq : (world.attend desk (books "Ann")).ending = .booked (.ok record) :=
  Ending.booking?_eq_some.mp (by decide +kernel)

end TwoSpots

open TwoSpots in
/-- Bob books too. Ann's booking is cancelled by its record, and by the registry in vain. -/
theorem one_spot_freed :
    let later := [books "Bob", .cancelRecorded record.reference, .cancel record.reference]
    (booked.attendAll desk later).countP (fun a =>
        a.freesBy (.cancel record.reference) || a.freesBy (.cancelRecorded record.reference)) ≤ 1 ∧
      (booked.afterAll desk later).registry.get? record.reference = none ∧
      (booked.afterAll desk later).state.records.get? record.reference = none := by
  intro later
  have hdrawn : ¬ (booked.afterAll desk later).Exhausted := by decide +kernel
  have hagain : ∀ a ∈ booked.attendAll desk later, ¬ a.ending.Issues record.reference := by decide +kernel
  have hplain : ∀ a ∈ booked.attendAll desk later, a.call = .cancel record.reference →
      a.before.state.records.get? record.reference = none := by decide +kernel
  have hfound : ∃ a ∈ booked.attendAll desk later, a.finds record.reference = true := by decide +kernel
  obtain ⟨-, -, -, -, honce⟩ :=
    @cancelled_once_each_way desk rfl world fit_world [] later _ _ books_eq hdrawn hagain
  obtain ⟨hcount, hnothing⟩ := honce hplain
  exact ⟨hcount, hnothing hfound⟩

open TwoSpots in
/-- Bob books too. Ann's booking is cancelled by the registry, and once more by the record that is still
    there, and the two free her spot and his. -/
theorem two_spots_freed :
    let later := [books "Bob", .cancel record.reference, .cancelRecorded record.reference]
    desk.rule.unique = true ∧ world.Fit ∧
      (world.attend desk (books "Ann")).ending = .booked (.ok record) ∧
      ¬ (booked.afterAll desk later).Exhausted ∧
      (∀ a ∈ booked.attendAll desk later, ¬ a.ending.Issues record.reference) ∧
      (booked.attendAll desk later).countP (fun a =>
        a.freesBy (.cancel record.reference) || a.freesBy (.cancelRecorded record.reference)) = 2 ∧
      (booked.afterAll desk (later.take 2)).state.records.get? record.reference = some record ∧
      ((booked.afterAll desk later).state.offerings.get? ⟨1⟩).map Offering.bookings = some 0 ∧
      (booked.afterAll desk later).state.records.values.map Booking.holderName = ["Bob"] := by
  refine ⟨rfl, fit_world, books_eq, ?_⟩
  decide +kernel

end DiveSchool
