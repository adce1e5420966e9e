import DiveSchool.Certification
import DiveSchool.Uuid
import DiveSchool.Timestamp

/-!
# `DiveSchool.Customer` — who books

The booking desk needs a first name and a level; a `Holder` is no more than that. A `Customer` is one
of the two records the school keeps.

## Contents
- **Holders.** `Holder` and its effective level.
- **Customers.** `Premium`, `Guest`, `Customer`, its kind and `Customer.holder`.
-/

namespace DiveSchool

/-! ## Holders -/

/-- Someone who holds a certification, or none. -/
structure Holder where
  firstName : String
  level : Option Level
  deriving DecidableEq, Repr, Inhabited

/-- The declared level, or that of a non-diver. -/
def Holder.effective (h : Holder) : Level := Level.ofHolder h.level

/-! ## Customers -/

/-- A customer with an account. -/
structure Premium where
  id : CustomerId
  username : String
  firstName : String
  lastName : String
  email : String
  level : Option Level
  createdAt : Timestamp
  deriving DecidableEq, Repr, Inhabited

/-- A customer without an account. -/
structure Guest where
  id : CustomerId
  firstName : String
  lastName : String
  email : String
  phone : Option String
  level : Option Level
  deriving DecidableEq, Repr, Inhabited

/-- Which record a customer is. -/
inductive CustomerKind where
  | premium
  | guest
  deriving DecidableEq, Repr, Inhabited

namespace CustomerKind

/-- Both kinds. -/
def all : List CustomerKind := [premium, guest]

/-- The name of the kind. -/
def name : CustomerKind → String
  | premium => "premium"
  | guest => "guest"

instance : ToString CustomerKind := ⟨name⟩

/-- The kind with a given name. -/
def ofName? (text : String) : Option CustomerKind := all.find? (·.name == text)

end CustomerKind

/-- A customer of either kind. -/
inductive Customer where
  | premium (record : Premium)
  | guest (record : Guest)
  deriving DecidableEq, Repr, Inhabited

namespace Customer

/-- The customer's id. -/
def id : Customer → CustomerId
  | premium r => r.id
  | guest r => r.id

/-- Which record it is. -/
def kind : Customer → CustomerKind
  | premium _ => .premium
  | guest _ => .guest

/-- The customer as the booking desk sees one. -/
def holder : Customer → Holder
  | premium r => ⟨r.firstName, r.level⟩
  | guest r => ⟨r.firstName, r.level⟩

end Customer

end DiveSchool
