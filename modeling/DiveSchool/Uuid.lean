import DiveSchool.Text.Blank

/-!
# `DiveSchool.Uuid` — identifiers of 128 bits

## Contents
- **Hexadecimal.** `hexDigit` and `hexValue?`, inverse on the sixteen digits.
- **Identifiers.** `Uuid`, its text (lower case, hyphens after 8, 12, 16 and 20 digits).
- **Random identifiers.** `Uuid.ofRandom`, of version 4.
- **Reading.** `Uuid.parse?` takes the hyphenated form, the same in braces or after `urn:uuid:`, or
  the 32 digits alone; `Uuid.ofText?` ignores blanks around it.
-/

namespace DiveSchool

/-! ## Hexadecimal -/

/-- The lower-case digit of a value below sixteen. -/
def hexDigit (n : Nat) : Char :=
  if n < 10 then Char.ofNat (48 + n) else Char.ofNat (87 + n)

/-- The value of a hexadecimal digit of either case. -/
def hexValue? (c : Char) : Option Nat :=
  if '0' ≤ c && c ≤ '9' then some (c.toNat - 48)
  else if 'a' ≤ c && c ≤ 'f' then some (c.toNat - 87)
  else if 'A' ≤ c && c ≤ 'F' then some (c.toNat - 55)
  else none

theorem hexValue?_hexDigit {n : Nat} (h : n < 16) : hexValue? (hexDigit n) = some n := by
  have : ∀ i : Fin 16, hexValue? (hexDigit i) = some i.val := by decide
  exact this ⟨n, h⟩

/-! ## Identifiers -/

/-- An identifier of 128 bits. -/
structure Uuid where
  bits : BitVec 128
  deriving DecidableEq, Repr, Hashable

instance : Inhabited Uuid := ⟨⟨0⟩⟩

namespace Uuid

/-- The identifier with all bits zero. -/
def zero : Uuid := ⟨0⟩

/-- The 32 hexadecimal digits, most significant first. -/
def nibbles (u : Uuid) : List Nat :=
  (List.range 32).map fun i => (u.bits.toNat >>> (4 * (31 - i))) % 16

/-- The identifier with the given hexadecimal digits. -/
def ofNibbles (ds : List Nat) : Uuid :=
  ⟨BitVec.ofNat 128 (ds.foldl (fun n d => n * 16 + d) 0)⟩

/-- Digits in groups of 8, 4, 4, 4 and 12 with hyphens between. -/
def hyphenate (cs : List Char) : List Char :=
  cs.take 8 ++ '-' :: (cs.drop 8).take 4 ++ '-' :: (cs.drop 12).take 4 ++
    '-' :: (cs.drop 16).take 4 ++ '-' :: cs.drop 20

/-- The hyphenated lower-case text. -/
def toText (u : Uuid) : String := String.ofList (hyphenate (u.nibbles.map hexDigit))

instance : ToString Uuid := ⟨toText⟩

/-- Identifiers are ordered as their texts are. -/
instance : Ord Uuid := ⟨fun a b => compare a.bits.toNat b.bits.toNat⟩

/-! ## Random identifiers -/

/-- Random bits as an identifier: four bits tell the version, 4 for random, and two the variant. -/
def ofRandom (bits : BitVec 128) : Uuid :=
  ⟨(bits &&& ~~~ ((0xF : BitVec 128) <<< 76) &&& ~~~ ((0x3 : BitVec 128) <<< 62)) |||
    ((0x4 : BitVec 128) <<< 76) ||| ((0x2 : BitVec 128) <<< 62)⟩

/-- The version of an identifier. -/
def version (u : Uuid) : Nat := (u.bits >>> 76).toNat % 16

/-! ## Reading -/

/-- Thirty-two digits and nothing else. -/
def ofDigits? (cs : List Char) : Option Uuid :=
  if cs.length = 32 then (cs.mapM hexValue?).map ofNibbles else none

/-- Five groups of digits of the lengths 8, 4, 4, 4 and 12 between hyphens. -/
def ofHyphenated? (cs : List Char) : Option Uuid :=
  let groups := Text.pieces (· == '-') cs
  if groups.map List.length = [8, 4, 4, 4, 12] then ofDigits? groups.flatten else none

/-- The letters in front of an identifier written as a name. -/
def urnLead : List Char := "urn:uuid:".toList

/-- Read one of the four accepted forms, without blanks around it. -/
def parseList? (cs : List Char) : Option Uuid :=
  match cs with
  | '{' :: rest =>
    match rest.reverse with
    | '}' :: inner => ofHyphenated? inner.reverse
    | _ => none
  | _ =>
    if (cs.take urnLead.length).map Char.toLower = urnLead then
      ofHyphenated? (cs.drop urnLead.length)
    else if cs.contains '-' then ofHyphenated? cs
    else ofDigits? cs

/-- `parseList?` on strings. -/
def parse? (s : String) : Option Uuid := parseList? s.toList

/-- Read an identifier as a person types it, ignoring blanks around it. -/
def ofText? (s : String) : Option Uuid := parseList? (Text.trimList s.toList)

end Uuid

/-- Names an offering. -/
abbrev OfferingId := Uuid

/-- Names a customer. -/
abbrev CustomerId := Uuid

end DiveSchool
