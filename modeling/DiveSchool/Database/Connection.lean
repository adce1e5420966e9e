import DiveSchool.Text.Reader
import DiveSchool.Event

/-!
# `DiveSchool.Database.Connection` — the address of a database

## Contents
- **Addresses.** `maskPassword`, the address as it may be logged.
- **Failures.** `notConnected`.
-/

namespace DiveSchool.Database

/-! ## Addresses -/

/-- What separates the scheme of an address from the rest. -/
def schemeEnd : List Char := "://".toList

/-- What stands in the log for a password. -/
def mask : List Char := "****".toList

/-- An address with its password masked: the password reaches from the first colon after the scheme to
    the last at sign. An address without these parts is left alone. -/
def maskPasswordList (url : List Char) : List Char :=
  match Text.splitOnce schemeEnd url with
  | none => url
  | some (scheme, rest) =>
    match Text.splitLast '@' rest with
    | none => url
    | some (credentials, host) =>
      match Text.splitOnce [':'] credentials with
      | none => url
      | some (user, _) => scheme ++ schemeEnd ++ user ++ ':' :: mask ++ '@' :: host

/-- `maskPasswordList` on strings. -/
def maskPassword (url : String) : String := String.ofList (maskPasswordList url.toList)

/-- The event of opening a database. -/
def connecting (url : String) (most least : Nat) : Event := .connecting (maskPassword url) most least

/-! ## Failures -/

/-- The database cannot be reached. -/
def notConnected (reason : String) : Failure :=
  ⟨.serviceUnavailable, s!"Failed to connect to database: {reason}", some reason⟩

end DiveSchool.Database
