import Mathlib.Data.List.Infix
import DiveSchool.Database.Connection

/-!
# `DiveSchool.Proofs.Masking` — no password is logged

An address with a password is cut three times: behind its scheme, at the last at sign, and at the first colon
of what is left between. A password may hold all of these marks itself. It is masked as a whole nevertheless,
because every cut is made at an end of the text that the password does not reach: an address with a password
can be read in one way only, whatever the password is.

## Contents
- **Cuts.** `Text.Unbordered`, with `Text.splitOnce_eq_some_iff`; `Text.splitLast_eq_some_iff`.
- **Addresses.** `Address`, the parts of an address with a password, and `Address.text_eq_iff`.
- **Masking.** `maskPassword_text` and `maskPassword_of_forall_ne`: an address with a password, and any other
  text.
- **Main result.** `password_is_masked`.
-/

namespace DiveSchool

/-! ## Cuts -/

namespace Text

/-- No end of a separator is a start of it, but for the whole and nothing: so it cannot overlap itself. -/
def Unbordered (sep : List Char) : Prop := ∀ v ∈ sep.tails, v <+: sep → v = [] ∨ v = sep

instance (sep : List Char) : Decidable (Unbordered sep) := List.decidableBAll _ _

section Cuts

variable {sep cs before after : List Char} {c : Char}

/-- A separator that stands behind a text does not begin within it. -/
theorem Unbordered.not_prefix (h : Unbordered sep) (hfree : ¬ sep <:+: before) (hne : before ≠ []) :
    ¬ sep <+: before ++ (sep ++ after) := by
  intro hstart
  rcases List.prefix_or_prefix_of_prefix hstart (List.prefix_append before (sep ++ after)) with hin | ⟨v, hv⟩
  · exact hfree hin.isInfix
  · -- what sticks out of the text is an end of the separator and a start of the next one
    have hshort : v.length < sep.length := by
      have hlength := congrArg List.length hv
      have hpos := List.length_pos_of_ne_nil hne
      rw [List.length_append] at hlength
      omega
    have hnext : v <+: sep ++ after := by
      rw [← hv, List.prefix_append_right_inj, hv] at hstart
      exact hstart
    have hprefix : v <+: sep :=
      List.prefix_of_prefix_length_le hnext (List.prefix_append sep after) (Nat.le_of_lt hshort)
    have hsuffix : v ∈ sep.tails := (List.mem_tails v sep).mpr ⟨before, hv⟩
    rcases h v hsuffix hprefix with rfl | rfl
    · rw [List.append_nil] at hv
      exact hfree (hv ▸ List.infix_refl before)
    · exact absurd hshort (Nat.lt_irrefl _)

theorem dropLead?_eq_none_iff : dropLead? sep cs = none ↔ ¬ sep <+: cs := by
  rw [Option.eq_none_iff_forall_ne_some]
  constructor
  · rintro h ⟨rest, hrest⟩
    exact h rest (dropLead?_eq_some_iff.mpr hrest.symm)
  · intro h rest hrest
    exact h ⟨rest, (dropLead?_eq_some_iff.mp hrest).symm⟩

theorem splitOnce_append (h : Unbordered sep) (hfree : ¬ sep <:+: before) :
    splitOnce sep (before ++ (sep ++ after)) = some (before, after) := by
  induction before with
  | nil =>
      obtain ⟨l, ls, rfl⟩ : ∃ l ls, sep = l :: ls :=
        List.exists_cons_of_ne_nil fun hnil => hfree (hnil ▸ List.infix_refl [])
      have hlead : dropLead? (l :: ls) (l :: (ls ++ after)) = some after := dropLead?_eq_some_iff.mpr rfl
      simp only [List.nil_append, List.cons_append, splitOnce, hlead]
  | cons c before ih =>
      have hlead : dropLead? sep (c :: (before ++ (sep ++ after))) = none :=
        dropLead?_eq_none_iff.mpr (h.not_prefix hfree (List.cons_ne_nil c before))
      have hrest := ih fun hin => hfree (hin.trans (List.suffix_cons c before).isInfix)
      simp only [List.cons_append, splitOnce, hlead, hrest, Option.map_some]

theorem of_splitOnce_eq_some (hne : sep ≠ []) (h : splitOnce sep cs = some (before, after)) :
    cs = before ++ (sep ++ after) ∧ ¬ sep <:+: before := by
  induction cs generalizing before with
  | nil =>
      rw [splitOnce, if_neg hne] at h
      cases h
  | cons c cs ih =>
      rw [splitOnce] at h
      cases hlead : dropLead? sep (c :: cs) with
      | some rest =>
          rw [hlead] at h
          obtain ⟨rfl, rfl⟩ := Prod.mk.inj (Option.some.inj h)
          have hcut : c :: cs = sep ++ rest := dropLead?_eq_some_iff.mp hlead
          exact ⟨hcut, fun hin => hne (List.infix_nil.mp hin)⟩
      | none =>
          rw [hlead] at h
          obtain ⟨⟨before', after'⟩, hrest, hpair⟩ := Option.map_eq_some_iff.mp h
          cases hpair
          obtain ⟨rfl, hfree⟩ := ih hrest
          refine ⟨rfl, fun hin => ?_⟩
          rcases List.infix_cons_iff.mp hin with hstart | hin
          · exact dropLead?_eq_none_iff.mp hlead (hstart.trans (List.prefix_append (c :: before') _))
          · exact hfree hin

/-- **The first occurrence** of a separator is the one that has none in front of it. -/
theorem splitOnce_eq_some_iff (h : Unbordered sep) (hne : sep ≠ []) :
    splitOnce sep cs = some (before, after) ↔ cs = before ++ (sep ++ after) ∧ ¬ sep <:+: before := by
  refine ⟨of_splitOnce_eq_some hne, ?_⟩
  rintro ⟨rfl, hfree⟩
  exact splitOnce_append h hfree

theorem splitOnce_char_eq_some_iff :
    splitOnce [c] cs = some (before, after) ↔ cs = before ++ c :: after ∧ c ∉ before := by
  have hunbordered : Unbordered [c] := by simp [Unbordered]
  rw [splitOnce_eq_some_iff hunbordered (List.cons_ne_nil c []), List.singleton_infix_iff]
  rfl

theorem splitLast_eq_none_iff : splitLast c cs = none ↔ c ∉ cs := by
  induction cs with
  | nil => exact iff_of_true rfl List.not_mem_nil
  | cons d cs ih =>
      rw [splitLast, List.mem_cons, not_or, ← ih]
      cases splitLast c cs with
      | some parts => simp
      | none => by_cases h : c = d <;> simp [h, eq_comm]

theorem splitLast_append (hfree : c ∉ after) :
    splitLast c (before ++ c :: after) = some (before, after) := by
  induction before with
  | nil => simp only [List.nil_append, splitLast, splitLast_eq_none_iff.mpr hfree, if_true]
  | cons d before ih => simp only [List.cons_append, splitLast, ih]

theorem of_splitLast_eq_some (h : splitLast c cs = some (before, after)) :
    cs = before ++ c :: after ∧ c ∉ after := by
  induction cs generalizing before with
  | nil => cases h
  | cons d cs ih =>
      rw [splitLast] at h
      cases hrest : splitLast c cs with
      | some parts =>
          rw [hrest] at h
          cases h
          obtain ⟨hcs, hfree⟩ := ih hrest
          exact ⟨congrArg (d :: ·) hcs, hfree⟩
      | none =>
          rw [hrest] at h
          obtain ⟨rfl, hparts⟩ := Option.ite_none_right_eq_some.mp h
          cases hparts
          exact ⟨rfl, splitLast_eq_none_iff.mp hrest⟩

/-- **The last occurrence** of a character is the one that has none behind it. -/
theorem splitLast_eq_some_iff :
    splitLast c cs = some (before, after) ↔ cs = before ++ c :: after ∧ c ∉ after := by
  refine ⟨of_splitLast_eq_some, ?_⟩
  rintro ⟨rfl, hfree⟩
  exact splitLast_append hfree

end Cuts

end Text

namespace Database

open Text

/-! ## Addresses -/

/-- The parts of an address with a password. The scheme ends at the first `://`, the user at the first colon
    behind it, and the password at the last at sign; the password may be anything. -/
structure Address where
  scheme : String
  user : String
  password : String
  host : String
  scheme_free : ¬ schemeEnd <:+: scheme.toList
  user_free : ':' ∉ user.toList
  host_free : '@' ∉ host.toList

namespace Address

/-- The address as it is written. -/
def text (a : Address) : String := a.scheme ++ "://" ++ a.user ++ ":" ++ a.password ++ "@" ++ a.host

/-- The same address with another password. -/
def withPassword (a : Address) (password : String) : Address := { a with password }

/-- What is left of an address behind its scheme. -/
def rest (a : Address) : List Char := a.user.toList ++ ':' :: a.password.toList ++ '@' :: a.host.toList

theorem toList_text (a : Address) : a.text.toList = a.scheme.toList ++ (schemeEnd ++ a.rest) := by
  simp only [text, rest, schemeEnd, String.toList_append, List.append_assoc, List.cons_append]
  rfl

end Address

/-! ## Masking -/

theorem unbordered_schemeEnd : Unbordered schemeEnd := by decide

/-- An address with a password is cut into its parts. -/
theorem Address.cuts (a : Address) :
    splitOnce schemeEnd a.text.toList = some (a.scheme.toList, a.rest) ∧
      splitLast '@' a.rest = some (a.user.toList ++ ':' :: a.password.toList, a.host.toList) ∧
      splitOnce [':'] (a.user.toList ++ ':' :: a.password.toList) =
        some (a.user.toList, a.password.toList) := by
  refine ⟨?_, ?_, ?_⟩
  · rw [a.toList_text]
    exact (splitOnce_eq_some_iff unbordered_schemeEnd (by decide)).mpr ⟨rfl, a.scheme_free⟩
  · exact splitLast_eq_some_iff.mpr ⟨rfl, a.host_free⟩
  · exact splitOnce_char_eq_some_iff.mpr ⟨rfl, a.user_free⟩

/-- **Reading** an address with a password: there is one way only. -/
theorem Address.text_eq_iff {a b : Address} : a.text = b.text ↔ a = b := by
  refine ⟨fun h => ?_, congrArg text⟩
  obtain ⟨hscheme, hhost, huser⟩ := a.cuts
  obtain ⟨hscheme', hhost', huser'⟩ := b.cuts
  rw [h, hscheme'] at hscheme
  obtain ⟨hs, hrest⟩ := Prod.mk.inj (Option.some.inj hscheme)
  rw [← hrest, hhost'] at hhost
  obtain ⟨hcredentials, hh⟩ := Prod.mk.inj (Option.some.inj hhost)
  rw [← hcredentials, huser'] at huser
  obtain ⟨hu, hp⟩ := Prod.mk.inj (Option.some.inj huser)
  obtain ⟨scheme, user, password, host, _, _, _⟩ := a
  obtain ⟨scheme', user', password', host', _, _, _⟩ := b
  obtain rfl : scheme' = scheme := String.toList_injective hs
  obtain rfl : user' = user := String.toList_injective hu
  obtain rfl : password' = password := String.toList_injective hp
  obtain rfl : host' = host := String.toList_injective hh
  rfl

/-- **An address with a password** is logged without it. -/
theorem maskPassword_text (a : Address) : maskPassword a.text = (a.withPassword "****").text := by
  obtain ⟨hscheme, hhost, huser⟩ := a.cuts
  apply String.toList_injective
  simp only [maskPassword, maskPasswordList, hscheme, hhost, huser, String.toList_ofList]
  rw [Address.toList_text]
  simp only [Address.rest, Address.withPassword, mask, List.append_assoc, List.cons_append]

/-- **Any other text** is logged as it is. -/
theorem maskPassword_of_forall_ne {url : String} (h : ∀ a : Address, url ≠ a.text) :
    maskPassword url = url := by
  have hsame : maskPasswordList url.toList = url.toList := by
    unfold maskPasswordList
    split
    · rfl
    · next scheme rest hscheme =>
        split
        · rfl
        · next credentials host hhost =>
            split
            · rfl
            · next user password huser =>
                -- all three cuts can be made, so this is an address with a password
                obtain ⟨hurl, hs⟩ := (splitOnce_eq_some_iff unbordered_schemeEnd (by decide)).mp hscheme
                obtain ⟨hrest, hh⟩ := splitLast_eq_some_iff.mp hhost
                obtain ⟨hcredentials, hu⟩ := splitOnce_char_eq_some_iff.mp huser
                let a : Address :=
                  { scheme := .ofList scheme, user := .ofList user, password := .ofList password,
                    host := .ofList host, scheme_free := by rwa [String.toList_ofList],
                    user_free := by rwa [String.toList_ofList], host_free := by rwa [String.toList_ofList] }
                refine absurd (String.toList_injective ?_) (h a)
                rw [a.toList_text, hurl, hrest, hcredentials]
                simp only [a, Address.rest, String.toList_ofList]
  rw [maskPassword, hsame, String.ofList_toList]

/-- **No password is logged.** An address with a password, which may be of any characters, is logged with
    four asterisks in place of the password and otherwise as it is, so that addresses which differ in the
    password alone give the same event. Any text at all is either no such address, and then left alone, or
    it is one in a single way, and what stands in front of the first colon behind its scheme and behind its
    last at sign stays; and to mask it once more changes nothing. -/
theorem password_is_masked :
    (∀ a : Address,
      maskPassword a.text = a.scheme ++ "://" ++ a.user ++ ":" ++ "****" ++ "@" ++ a.host ∧
      ∀ password most least,
        connecting (a.withPassword password).text most least = connecting a.text most least) ∧
    ∀ url,
      ((∀ a : Address, url ≠ a.text) ∧ maskPassword url = url ∨
        ∃ a : Address, (∀ b : Address, url = b.text ↔ a = b) ∧
          maskPassword url = (a.withPassword "****").text) ∧
      maskPassword (maskPassword url) = maskPassword url := by
  refine ⟨fun a => ⟨maskPassword_text a, fun password most least => ?_⟩, fun url => ?_⟩
  · rw [connecting, maskPassword_text, connecting, maskPassword_text]
    rfl
  · by_cases h : ∃ a : Address, url = a.text
    · obtain ⟨a, rfl⟩ := h
      refine ⟨.inr ⟨a, fun b => Address.text_eq_iff, maskPassword_text a⟩, ?_⟩
      rw [maskPassword_text, maskPassword_text]
      rfl
    · have hsame : maskPassword url = url := maskPassword_of_forall_ne fun a ha => h ⟨a, ha⟩
      exact ⟨.inl ⟨fun a ha => h ⟨a, ha⟩, hsame⟩, congrArg maskPassword hsame⟩

/-- An address whose password holds every mark that an address is cut at, as its user holds an at sign. -/
def Address.awkward : Address where
  scheme := "postgres"
  user := "dive@sea"
  password := "p@ss:wo://rd/"
  host := "localhost:5432/school"
  scheme_free := by decide
  user_free := by decide
  host_free := by decide

/-- The password is masked as a whole, and another one gives the same event. -/
theorem awkward_password_masked :
    maskPassword "postgres://dive@sea:p@ss:wo://rd/@localhost:5432/school" =
        "postgres://dive@sea:****@localhost:5432/school" ∧
      connecting (Address.awkward.withPassword "@").text 8 1 =
        .connecting "postgres://dive@sea:****@localhost:5432/school" 8 1 := by
  obtain ⟨hmasked, hsame⟩ := password_is_masked.1 Address.awkward
  refine ⟨hmasked, ?_⟩
  rw [hsame, connecting, hmasked]
  rfl

end Database

end DiveSchool
