import Wayfinding.Proofs.Text.Octets
import Wayfinding.Text.Percent

/-!
Every spelling of a text inside an address. Each character stands as itself or as the escapes of
all its octets, with hexadecimal digits of either case; a percent sign stands as itself only
where no octet could be read behind it. However a text is spelled, it reads back as itself, and
what writing makes of a text is one of its spellings.
-/

namespace Wayfinding.Text

/-- The digit of a number below sixteen, in either case. -/
def IsHexDigit (n : Nat) (c : Char) : Prop :=
  n < 16 ∧ (c = Nat.digitChar n ∨ c = (Nat.digitChar n).toUpper)

instance (n : Nat) (c : Char) : Decidable (IsHexDigit n c) :=
  inferInstanceAs (Decidable (_ ∧ _))

theorem lt_of_hexValue? {c : Char} {n : Nat} (h : hexValue? c = some n) :
    c.toNat < 128 ∧ n < 16 := by
  simp only [hexValue?] at h
  split at h
  · rename_i hdigit
    have hcode : c.toNat ≤ 57 := hdigit.2
    cases h
    omega
  · split at h
    · rename_i hlower
      have hcode : c.toNat ≤ 102 := hlower.2
      cases h
      omega
    · split at h
      · rename_i hupper
        have hcode : c.toNat ≤ 70 := hupper.2
        cases h
        omega
      · cases h

theorem hexValue?_eq_some_iff {c : Char} {n : Nat} : hexValue? c = some n ↔ IsHexDigit n c := by
  constructor
  · intro h
    obtain ⟨hcode, hn⟩ := lt_of_hexValue? h
    have hread : ∀ n < 16, ∀ code < 128, hexValue? (Char.ofNat code) = some n →
        Char.ofNat code = Nat.digitChar n ∨ Char.ofNat code = (Nat.digitChar n).toUpper := by
      decide +kernel
    have hdigit := hread n hn c.toNat hcode
    rw [Char.ofNat_toNat] at hdigit
    exact ⟨hn, hdigit h⟩
  · rintro ⟨hn, hdigit⟩
    have hwritten : ∀ n < 16, hexValue? (Nat.digitChar n) = some n ∧
        hexValue? (Nat.digitChar n).toUpper = some n := by decide
    obtain rfl | rfl := hdigit
    · exact (hwritten n hn).1
    · exact (hwritten n hn).2

theorem isHexDigit_upperHexDigit {n : Nat} (h : n < 16) : IsHexDigit n (upperHexDigit n) :=
  hexValue?_eq_some_iff.mp (hexValue?_upperHexDigit h)

namespace Percent

/-- Escapes of octets in a row. -/
inductive SpellsOctets : List UInt8 → List Char → Prop
  | nil : SpellsOctets [] []
  | cons {octet : UInt8} {octets : List UInt8} {h l : Nat} {high low : Char} {cs : List Char} :
      octet.toNat = 16 * h + l → IsHexDigit h high → IsHexDigit l low → SpellsOctets octets cs →
      SpellsOctets (octet :: octets) ('%' :: high :: low :: cs)

/-- Whether the first two characters are hexadecimal digits. -/
def BeginsWithDigits (cs : List Char) : Prop :=
  ∃ h l high low rest, cs = high :: low :: rest ∧ IsHexDigit h high ∧ IsHexDigit l low

/-- A text and one of its spellings in an address. -/
inductive Spells : List Char → List Char → Prop
  | nil : Spells [] []
  | plain {c : Char} {text cs : List Char} : (c = '%' → ¬ BeginsWithDigits cs) →
      Spells text cs → Spells (c :: text) (c :: cs)
  | escaped {c : Char} {text escapes cs : List Char} :
      SpellsOctets (String.utf8EncodeChar c) escapes → Spells text cs →
      Spells (c :: text) (escapes ++ cs)

theorem octets_of_spellsOctets {bytes : List UInt8} {escapes : List Char}
    (h : SpellsOctets bytes escapes) (rest : List Char) :
    octets (escapes ++ rest) = bytes ++ octets rest := by
  induction h with
  | nil => rfl
  | @cons octet bytes h l high low cs hoctet hhigh hlow _ ih =>
      simp only [List.cons_append, octets, hexValue?_eq_some_iff.mpr hhigh,
        hexValue?_eq_some_iff.mpr hlow, ih]
      rw [← hoctet, UInt8.ofNat_toNat]

/-- A percent sign without digits behind it stands for itself. -/
theorem octets_percent {cs : List Char} (h : ¬ BeginsWithDigits cs) :
    octets ('%' :: cs) = String.utf8EncodeChar '%' ++ octets cs := by
  match cs with
  | [] => rfl
  | [_] => rfl
  | high :: low :: rest =>
      have hpercent : String.utf8EncodeChar '%' = [0x25] := by decide
      rw [octets, hpercent, List.singleton_append]
      cases hhigh : hexValue? high with
      | none => rfl
      | some m =>
          cases hlow : hexValue? low with
          | none => rfl
          | some n =>
              exact absurd ⟨m, n, high, low, rest, rfl, hexValue?_eq_some_iff.mp hhigh,
                hexValue?_eq_some_iff.mp hlow⟩ h

theorem octets_plain {c : Char} {cs : List Char} (h : c = '%' → ¬ BeginsWithDigits cs) :
    octets (c :: cs) = String.utf8EncodeChar c ++ octets cs := by
  by_cases hc : c = '%'
  · subst hc
    exact octets_percent (h rfl)
  · rw [octets]
    intro high low rest hpercent
    exact absurd hpercent hc

theorem octets_of_spells {text cs : List Char} (h : Spells text cs) :
    octets cs = text.flatMap String.utf8EncodeChar := by
  induction h with
  | nil => rfl
  | plain hpercent _ ih => rw [octets_plain hpercent, ih, List.flatMap_cons]
  | escaped hescapes _ ih => rw [octets_of_spellsOctets hescapes, ih, List.flatMap_cons]

/-- However a path is spelled, it is read back. -/
theorem decode_of_spells {path spelling : String} (h : Spells path.toList spelling.toList) :
    decode spelling = path := by
  rw [decode, octets_of_spells h, readOctets_flatMap_utf8EncodeChar, String.ofList_toList]

theorem halves_lt (octet : UInt8) : octet.toNat / 16 < 16 ∧ octet.toNat % 16 < 16 := by
  have := octet.toNat_lt
  omega

theorem spellsOctets_flatMap_escapeOctet (bytes : List UInt8) :
    SpellsOctets bytes (bytes.flatMap escapeOctet) := by
  induction bytes with
  | nil => exact .nil
  | cons octet bytes ih =>
      obtain ⟨hhigh, hlow⟩ := halves_lt octet
      exact .cons (Nat.div_add_mod ..).symm (isHexDigit_upperHexDigit hhigh)
        (isHexDigit_upperHexDigit hlow) ih

theorem spells_flatMap_encodeChar (text : List Char) : Spells text (text.flatMap encodeChar) := by
  induction text with
  | nil => exact .nil
  | cons c text ih =>
      rw [List.flatMap_cons, encodeChar]
      split
      · exact .escaped (spellsOctets_flatMap_escapeOctet _) ih
      · rename_i hescaped
        refine .plain ?_ ih
        rintro rfl
        exact absurd (by decide) hescaped

theorem spells_encode (path : String) : Spells path.toList (encode path).toList := by
  rw [encode, String.toList_ofList]
  exact spells_flatMap_encodeChar path.toList

theorem decode_encode (path : String) : decode (encode path) = path :=
  decode_of_spells (spells_encode path)

end Percent
end Wayfinding.Text
