import DiveSchool.Text.Width.Emoji

/-!
# `DiveSchool.Text.Width.Sequence` — characters that are drawn together

Joined pictures, letters below others and some pairs of letters take fewer columns than their characters
do one by one. What a character adds hangs on what follows it, so that a text is measured from its end.

## Contents
- **What follows.** `Selector`, `Second`, `Sequel` and `After`.
- **Alone.** `charWidth`, and `alone`: what a character adds by itself.
- **Signs.** `signStep?`, for pairs of letters.
- **Pictures.** `pictureStep?`, for pictures that are joined or coloured.
- **Steps.** `step`, what a character adds in front of what follows; a text never owes columns.
-/

namespace DiveSchool.Text

/-! ## What follows -/

/-- How the character before a selector is to be shown. -/
inductive Selector where
  | picture
  | text
  | wide
  deriving DecidableEq, Repr

/-- The later part of a sign that several letters form. -/
inductive Second where
  /-- An Arabic alef, after a lam. -/
  | alef
  /-- A Hebrew lamed, joined to an alef. -/
  | lamed
  /-- A Khmer letter that may be written below another one. -/
  | subscript
  /-- A Buginese ya, joined to a vowel. -/
  | ya
  /-- A Buginese vowel and a ya, after an a. -/
  | vowelYa
  /-- A Tifinagh consonant, joined to another one. -/
  | consonant
  /-- The Tifinagh joiner and a consonant. -/
  | joinedConsonant
  /-- The second of two Lisu tones. -/
  | tone
  /-- An Orkhon i, joined to an ec. -/
  | orkhonI
  /-- A Kirat Rai vowel that others combine with. -/
  | vowelE
  /-- Two of these vowels. -/
  | vowelAi
  deriving DecidableEq, Repr

/-- What follows a character, as far as its columns hang on it. -/
inductive Sequel where
  | plain
  | lineFeed
  /-- A colour of skin. -/
  | modifier
  /-- The letter of a region. -/
  | region
  /-- Several letters of regions. -/
  | regions
  | picture
  /-- A joiner and a picture. -/
  | joined
  /-- A frame for a key, a joiner and a picture. -/
  | joinedKey
  /-- The letter of a region, a joiner and a picture. -/
  | joinedRegion
  /-- Several letters of regions, an even or odd number of them, a joiner and a picture. -/
  | joinedRegions (even : Bool)
  /-- The name of a flag with its last letters or digits, a joiner and a picture. -/
  | joinedTags (letters digits : Nat)
  /-- The later part of a sign, perhaps with a joiner. -/
  | sign (second : Second) (joiner : Bool)
  deriving DecidableEq, Repr

/-- What follows a character, and how it is to be shown. -/
structure After where
  sequel : Sequel := .plain
  selector : Option Selector := none
  deriving DecidableEq, Repr

/-- The mark that joins what stands around it. -/
def joiner : Char := '\u200D'

namespace Sequel

/-- What remains when a selector does not apply. -/
def released : Sequel → Sequel
  | sign second joiner => sign second joiner
  | _ => plain

/-- What remains behind a selector. -/
def under (sequel : Sequel) (selector : Selector) : Sequel :=
  match sequel, selector with
  | joined, .picture => joined
  | joinedKey, .picture => joinedKey
  | sequel, _ => sequel.released

/-- Whether a picture in front of it is joined to it. -/
def isJoined : Sequel → Bool
  | joined | joinedKey => true
  | _ => false

end Sequel

/-! ## Alone -/

/-- The number of columns of a character by itself. -/
def charWidth (c : Char) : Nat :=
  if c.toNat < 0xA1 then 1
  else if c == '\u17D8' then 3
  else if inRanges zeroRanges c.toNat then 0
  else if inRanges wideRanges c.toNat then 2
  else 1

/-- Whether a character is one of the forms of alef. -/
def isAlef (c : Char) : Bool :=
  inRanges [(0x0622, 0x0623), (0x0625, 0x0625), (0x0627, 0x0627), (0x0671, 0x0673), (0x0675, 0x0675),
    (0x0773, 0x0774), (0x0870, 0x0882)] c.toNat

/-- Whether a character is one of the forms of lam. -/
def isLam (c : Char) : Bool :=
  inRanges [(0x0644, 0x0644), (0x06B5, 0x06B8), (0x076A, 0x076A), (0x08A6, 0x08A6),
    (0x08C7, 0x08C7)] c.toNat

/-- Whether a character is a Khmer letter that may be written below another one. -/
def isSubscript (c : Char) : Bool :=
  inRanges [(0x1780, 0x1782), (0x1784, 0x1787), (0x1789, 0x178C), (0x178E, 0x1793), (0x1795, 0x1798),
    (0x179B, 0x179D), (0x17A0, 0x17A0), (0x17A2, 0x17A2), (0x17A7, 0x17A7), (0x17AB, 0x17AC),
    (0x17AF, 0x17AF)] c.toNat

/-- Whether a character is a Tifinagh consonant. -/
def isConsonant (c : Char) : Bool := inRanges [(0x2D31, 0x2D65), (0x2D6F, 0x2D6F)] c.toNat

/-- What a character may be the later part of. -/
def second? (c : Char) : Option Second :=
  if isAlef c then some .alef
  else if c == '\u05DC' then some .lamed
  else if isSubscript c then some .subscript
  else if c == '\u1A10' then some .ya
  else if isConsonant c then some .consonant
  else if c == '\uA4FC' || c == '\uA4FD' then some .tone
  else if c.toNat == 0x10C03 then some .orkhonI
  else if c.toNat == 0x16D67 then some .vowelE
  else if c.toNat == 0x16D68 then some .vowelAi
  else none

/-- What a character adds by itself, and what it is for the one before it. -/
def alone (c : Char) : Int × Sequel :=
  match second? c with
  | some second => (1, .sign second false)
  | none =>
    (charWidth c,
      if isRegional c then .region
      else if isModifier c then .modifier
      else if isEmoji c then .picture
      else .plain)

/-! ## Signs -/

/-- Whether a character may stand between the letters of any sign but that of lam and alef. -/
def isTransparent (c : Char) : Bool :=
  inRanges [(0x034F, 0x034F), (0x17B4, 0x17B5), (0x180B, 0x180D), (0x180F, 0x180F), (0xFE00, 0xFE0F),
    (0xE0100, 0xE01EF)] c.toNat

/-- Whether a character may stand between a lam and an alef. -/
def joinsAcross (c : Char) : Bool :=
  charWidth c == 0 && !inRanges breakingRanges c.toNat

/-- What a character adds that makes a sign with its later part, and what it is for the one before it. -/
def pairStep? (second : Second) (joined : Bool) (c : Char) : Option (Int × Sequel) :=
  match second with
  | .alef => none
  | .lamed => if joined && c == '\u05D0' then some (0, .plain) else none
  | .subscript => if c == '\u17D2' then some (-1, .plain) else none
  | .ya => if joined && c == '\u1A17' then some (0, .sign .vowelYa true) else none
  | .vowelYa => if c == '\u1A15' then some (0, .plain) else none
  | .consonant =>
    if c == '\u2D7F' then some (1, .sign .joinedConsonant true)
    else if joined && isConsonant c then some (0, .plain)
    else none
  | .joinedConsonant => if isConsonant c then some (-1, .plain) else none
  | .tone => if '\uA4F8' ≤ c && c ≤ '\uA4FB' then some (0, .plain) else none
  | .orkhonI => if joined && c.toNat == 0x10C32 then some (0, .plain) else none
  | .vowelE =>
    if c.toNat == 0x16D63 || c.toNat == 0x16D69 then some (0, .plain)
    else if c.toNat == 0x16D67 then some (0, .sign .vowelAi false)
    else if c.toNat == 0x16D68 then some (1, .sign .vowelE false)
    else none
  | .vowelAi => if c.toNat == 0x16D63 then some (0, .plain) else none

/-- What a character adds in front of the later part of a sign, if it belongs to the sign. -/
def signStep? (second : Second) (joined : Bool) (c : Char) : Option (Int × Sequel) :=
  if second = .alef then
    if isLam c then some (0, .plain)
    else if joinsAcross c then some (0, .sign second joined)
    else none
  else if c == joiner then some (0, .sign second true)
  else if isTransparent c then some (0, .sign second joined)
  else pairStep? second joined c

/-! ## Pictures -/

/-- What a character adds in front of a joiner and a picture, if it is joined to it. -/
def joinedStep? (c : Char) : Option (Int × Sequel) :=
  if c == '\u20E3' then some (0, .joinedKey)
  else if isRegional c then some (1, .joinedRegion)
  else if isModifier c then some (0, .modifier)
  else if c.toNat == 0xE007F then some (0, .joinedTags 0 0)
  else if isEmoji c then some (0, .picture)
  else none

/-- What a character adds that belongs to the name of a flag in front of a joiner and a picture. A name
    ends in at most six letters, or in three digits. -/
def tagStep? (letters digits : Nat) (c : Char) : Option (Int × Sequel) :=
  if 0xE0061 ≤ c.toNat && c.toNat ≤ 0xE007A && digits == 0 && letters < 6 then
    some (0, .joinedTags (letters + 1) 0)
  else if 0xE0030 ≤ c.toNat && c.toNat ≤ 0xE0039 && letters ≤ 4 && digits < 3 then
    some (0, .joinedTags 0 (digits + 1))
  else if c.toNat == 0x1F3F4 && (3 ≤ letters || digits == 3) then some (0, .picture)
  else none

/-- What a character adds in front of pictures, if it is drawn together with them. -/
def pictureStep? (sequel : Sequel) (c : Char) : Option (Int × Sequel) :=
  let join : Option (Int × Sequel) := if c == joiner then some (0, .joined) else none
  match sequel with
  | .picture => join
  | .modifier => if takesModifier c then some (0, .picture) else join
  | .region => if isRegional c then some (1, .regions) else none
  | .regions => if isRegional c then some (1, .regions) else join
  | .joined => joinedStep? c
  | .joinedRegion => if isRegional c then some (-1, .joinedRegions true) else none
  | .joinedRegions true => if isRegional c then some (3, .joinedRegions false) else join
  | .joinedRegions false => if isRegional c then some (-1, .joinedRegions true) else join
  | .joinedTags letters digits => tagStep? letters digits c
  | _ => none

/-! ## Steps -/

/-- What a selector asks for. -/
def selector? : Char → Option Selector
  | '\uFE0F' => some .picture
  | '\uFE0E' => some .text
  | '\uFE01' => some .wide
  | _ => none

/-- Whether a character is a quotation mark that a selector makes wide. -/
def isQuotation (c : Char) : Bool := c == '\u2018' || c == '\u2019' || c == '\u201C' || c == '\u201D'

/-- What a character adds in front of what follows, if no selector applies to it. -/
def sequelStep (sequel : Sequel) (c : Char) : Int × Sequel :=
  let joint := match sequel with
    | .sign second joined => signStep? second joined c
    | _ => pictureStep? sequel c
  joint.getD (alone c)

/-- What a character adds in front of what follows, and what follows the one before it. A line feed and
    the return in front of it count once. -/
def step (c : Char) (after : After) : Int × After :=
  if after.selector = some .picture && takesSelector c then
    (if after.sequel.isJoined then 0 else 2, { sequel := .picture })
  else if c == '\n' then (1, { sequel := .lineFeed })
  else if c == '\r' && after.sequel = .lineFeed then (0, {})
  else if c.toNat < 0xA1 then (1, {})
  else
    let sequel := if after.selector.isSome then after.sequel.released else after.sequel
    match selector? c with
    | some selector => (0, { sequel := sequel.under selector, selector })
    | none =>
      if after.selector = some .text && takesTextSelector c then (1, {})
      else if after.selector = some .wide && isQuotation c then (2, {})
      else
        let (n, sequel) := sequelStep sequel c
        (n, { sequel })

/-! ## Columns owed -/

/-- The columns that a sequel has counted and that a character before it may take back. -/
def Sequel.owed : Sequel → Int
  | .sign .subscript _ | .sign .joinedConsonant _ | .joinedRegion | .joinedRegions false => 1
  | _ => 0

namespace Sequel

theorem owed_nonneg (s : Sequel) : 0 ≤ s.owed := by
  unfold owed
  split <;> decide

theorem owed_le_one (s : Sequel) : s.owed ≤ 1 := by
  unfold owed
  split <;> decide

/-- A joiner changes nothing. -/
theorem owed_sign (second : Second) (a b : Bool) : (sign second a).owed = (sign second b).owed := by
  cases second <;> rfl

theorem owed_released (s : Sequel) : s.released.owed ≤ s.owed := by
  cases s with
  | sign => exact Int.le_refl _
  | _ => exact owed_nonneg _

theorem owed_under (s : Sequel) (selector : Selector) : (s.under selector).owed ≤ s.owed := by
  unfold under
  split
  · exact Int.le_refl _
  · exact Int.le_refl _
  · exact owed_released _

end Sequel

theorem owed_pairStep? {second : Second} {joined : Bool} {c : Char} {r : Int × Sequel}
    (h : pairStep? second joined c = some r) :
    r.2.owed ≤ (Sequel.sign second joined).owed + r.1 := by
  cases second <;> simp only [pairStep?] at h <;> grind [Sequel.owed]

theorem owed_signStep? {second : Second} {joined : Bool} {c : Char} {r : Int × Sequel}
    (h : signStep? second joined c = some r) :
    r.2.owed ≤ (Sequel.sign second joined).owed + r.1 := by
  unfold signStep? at h
  split at h
  · rename_i alef
    subst alef
    grind [Sequel.owed]
  · split at h
    · cases h
      simp [Sequel.owed_sign second true joined]
    · split at h
      · cases h
        simp
      · exact owed_pairStep? h

theorem owed_pictureStep? {s : Sequel} {c : Char} {r : Int × Sequel}
    (h : pictureStep? s c = some r) : r.2.owed ≤ s.owed + r.1 := by
  unfold pictureStep? joinedStep? tagStep? at h
  grind [Sequel.owed]

theorem owed_alone (c : Char) : (alone c).2.owed ≤ (alone c).1 := by
  unfold alone
  split
  · exact Sequel.owed_le_one _
  · have width : (0 : Int) ≤ charWidth c := Int.natCast_nonneg _
    dsimp only
    repeat' split
    all_goals exact width

theorem owed_sequelStep (s : Sequel) (c : Char) :
    (sequelStep s c).2.owed ≤ s.owed + (sequelStep s c).1 := by
  have otherwise : (alone c).2.owed ≤ s.owed + (alone c).1 :=
    Int.le_trans (owed_alone c) (by have := s.owed_nonneg; omega)
  unfold sequelStep
  dsimp only
  split
  · rename_i second joined
    cases h : signStep? second joined c with
    | none => exact otherwise
    | some r => exact owed_signStep? h
  · cases h : pictureStep? s c with
    | none => exact otherwise
    | some r => exact owed_pictureStep? h

/-- A character takes back no more than what follows it has counted. -/
theorem owed_step (c : Char) (after : After) :
    (step c after).2.sequel.owed ≤ after.sequel.owed + (step c after).1 := by
  have counted (n : Int) (h : 0 ≤ n) : 0 ≤ after.sequel.owed + n :=
    Int.add_nonneg after.sequel.owed_nonneg h
  have freed : (if after.selector.isSome then after.sequel.released else after.sequel).owed
      ≤ after.sequel.owed := by
    split
    · exact Sequel.owed_released _
    · exact Int.le_refl _
  unfold step
  split
  · exact counted _ (by split <;> decide)
  · split
    · exact counted 1 (by decide)
    · split
      · exact counted 0 (by decide)
      · split
        · exact counted 1 (by decide)
        · dsimp only
          split
          · have := Sequel.owed_under
              (if after.selector.isSome then after.sequel.released else after.sequel)
            grind
          · split
            · exact counted 1 (by decide)
            · split
              · exact counted 2 (by decide)
              · exact Int.le_trans (owed_sequelStep _ c) (Int.add_le_add_right freed _)

end DiveSchool.Text
