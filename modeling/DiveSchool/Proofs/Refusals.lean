import DiveSchool.Proofs.Commands

/-!
# `DiveSchool.Proofs.Refusals` — a failed command changes nothing

A command can fail before it has asked the database for anything, in the middle of a transaction, after it
has taken a spot, or after it has taken a record out. In the last case sound tables let it go on to the
end, and in the others whatever it has done is taken back. What may remain of a booking that found no free
reference is the moment of the change at the row of the offering.

## Contents
- **Refusals.** `Command.Declined`, the two warnings a booking may end in, and `Command.books?`.
- **Rows.** `Offering.touched`: what taking a spot and giving it back leaves of a row.
- **Main result.** `refused_changes_nothing`.
-/

namespace DiveSchool

/-! ## Rows -/

/-- The offering with another moment of its last change. -/
def Offering.touched (o : Offering) (now : Timestamp) : Offering :=
  { o with updatedAt := now.toMicroseconds }

/-- A spot taken and given back leaves the moment of the change only. -/
theorem Offering.vacated_taken {o : Offering} {now : Timestamp} (ho : o.stored = o) :
    ((o.taken now).stored.vacated now).stored = o.touched now := by
  have hcreated : o.createdAt.toMicroseconds = o.createdAt := congrArg Offering.createdAt ho
  have hback : o.bookings + 1 - 1 = o.bookings := by
    rw [Int32.sub_eq_add_neg, Int32.add_assoc]
    simp
  simp [Offering.stored, Offering.vacated, Offering.taken, Offering.touched, hcreated, hback]

/-- A row written twice is as it was written last. -/
theorem Tables.put_put (t : Tables) {o o' : Offering} (hid : o'.id = o.id) :
    (t.put o).put o' = t.put o' := by
  simp only [put, hid, Table.insert_insert]

/-! ## Refusals -/

namespace Console

namespace Command

/-- A booking that ended in one of its two warnings. -/
inductive Declined : Command → Outcome → Prop
  | full {text firstName lastName email : String} {level : Option Level} {guest : Bool} :
      Declined (.book text firstName lastName email level guest)
        (.done [warning "Offering is fully booked"])
  | ineligible {text firstName lastName email reason : String} {level : Option Level} {guest : Bool} :
      Declined (.book text firstName lastName email level guest)
        (.done [warning s!"Not eligible: {reason}"])

/-- The offering that a booking is for. -/
def books? : Command → Option OfferingId
  | book text _ _ _ _ _ => Uuid.ofText? text
  | _ => none

variable {t t' : Tables} {now : Timestamp} {c : Command} {outcome : Outcome}

theorem Declined.warned (h : c.Declined outcome) : ∃ line, outcome.output = [warning line] := by
  cases h with
  | full => exact ⟨_, rfl⟩
  | ineligible => exact ⟨_, rfl⟩

/-- A booking that ends in a warning has changed nothing at all. -/
theorem Effect.of_declined (h : c.Effect now t outcome t') (hdeclined : c.Declined outcome) : t' = t := by
  cases h with
  | failed => rfl
  | shown => rfl
  | booked =>
      -- a booking that was made says so
      obtain ⟨line, hwarned⟩ := hdeclined.warned
      exact absurd (List.cons.inj hwarned).1 (success_ne_warning _ _)
  | moved hc ho => rcases hc with rfl | rfl <;> cases hdeclined
  | _ => cases hdeclined

/-- A command that ends in a failure has changed nothing, or has taken a spot and given it back. -/
theorem Effect.of_failure (h : c.Effect now t outcome t') (ht : t.Rounded) (hfailure : outcome.code ≠ 0) :
    t' = t ∨ ∃ id o, c.books? = some id ∧ t.offerings.get? id = some o ∧ t' = t.put (o.touched now) := by
  cases h with
  | failed => exact .inl rfl
  | @undone _ _ _ _ _ _ _ id o hid ho hfree =>
      refine .inr ⟨id, o, hid, ho, ?_⟩
      have hid : (o.touched now).id = (o.taken now).stored.id := rfl
      rw [Offering.vacated_taken (ht id o ho), Tables.put_put t hid]
  | _ => exact absurd rfl hfailure

end Command

end Console

/-! ## Main result -/

open Console

/-- **A failed command changes nothing.** On tables that meet their constraints, whatever the arguments,
    the settings and the draws are: a start of the program that ends with a code other than zero, or with
    a booking that was declined, leaves the database as it was, but for the moment of the last change at
    the offering that a failed booking was for. A booking that was declined leaves that too. -/
theorem refused_changes_nothing {e : Environment} {db : Database} (he : e.database = .ok db)
    (hdb : db.Ready) (ht : db.tables.Sound) (hrows : db.tables.Rounded) (args : List String)
    (hrefused : (run args e).1.code ≠ 0 ∨
      ∃ i, Invocation.parse args = .ok i ∧ i.command.Declined (run args e).1) :
    (run args e).2 = .ok db ∨
      ((run args e).1.code ≠ 0 ∧ ∃ i id o, Invocation.parse args = .ok i ∧ i.command.books? = some id ∧
        db.tables.offerings.get? id = some o ∧
        (run args e).2 = .ok { db with tables := db.tables.put (o.touched e.occasion.now) }) := by
  obtain ⟨t', hafter, heffect⟩ := run_effect he hdb ht args
  cases hparse : Invocation.parse args with
  | error stop =>
      rw [hparse] at heffect
      left
      rw [hafter, heffect.2]
  | ok i =>
      rw [hparse] at heffect
      rcases hrefused with hcode | ⟨i', hi', hdeclined⟩
      · rcases heffect.of_failure hrows hcode with hsame | ⟨id, o, hbooks, ho, htouched⟩
        · left
          rw [hafter, hsame]
        · right
          exact ⟨hcode, i, id, o, rfl, hbooks, ho, htouched ▸ hafter⟩
      · left
        cases hparse.symm.trans hi'
        rw [hafter, heffect.of_declined hdeclined]

namespace TakenReference

/-- A trip with one spot of two booked. -/
def trip : Offering := { Offering.trip ⟨7⟩ ⟨0, 0⟩ "Reef" 2 none with bookings := 1 }

/-- Its booking, under the only reference that is ever drawn for Ann. -/
def record : Booking := ⟨"REEF_ANN_100", ⟨7⟩, "Ann", ⟨0, 0⟩⟩

/-- The database with both. -/
def database : Database := { tables := (Tables.empty.put trip).add record }

theorem sound_tables : database.tables.Sound :=
  (Tables.sound_empty.put (o := trip) (by decide)).add (o := trip) rfl

theorem rounded_tables : database.tables.Rounded := by
  intro id o ho
  change (Tables.empty.put trip).offerings.get? id = some o at ho
  rw [Tables.get?_put] at ho
  split at ho
  · cases ho
    rfl
  · cases ho

/-- What the program finds. -/
def environment : Environment := ⟨[], [], .ok database, ⟨⟨1, 0⟩, ⟨8⟩, default⟩⟩

/-- Ann books again. -/
def args : List String :=
  ["booking", "book", "00000000-0000-0000-0000-000000000007", "--name", "Ann"]

end TakenReference

open TakenReference in
/-- Ann gets no second reference: her spot is given back, and the command fails. -/
theorem no_reference_left :
    (run args environment).1.code ≠ 0 ∧ ((run args environment).2 = .ok database ∨
      ((run args environment).1.code ≠ 0 ∧ ∃ i id o, Invocation.parse args = .ok i ∧
        i.command.books? = some id ∧ database.tables.offerings.get? id = some o ∧
        (run args environment).2 =
          .ok { database with tables := database.tables.put (o.touched ⟨1, 0⟩) })) := by
  have hcode : (run args environment).1.code ≠ 0 := by decide +kernel
  exact ⟨hcode,
    refused_changes_nothing rfl ⟨rfl, rfl, rfl, rfl⟩ sound_tables rounded_tables args (.inl hcode)⟩

end DiveSchool
