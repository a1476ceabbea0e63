import Mathlib.Tactic.IntervalCases
import Wayfinding.Text.Octets

/-!
Text written as octets reads back as itself. The octets of a character begin it, go on within the
bounds that the first of them sets, and finish it, so reading them yields the character and no
replacement; what stands behind them does not matter.
-/

namespace Wayfinding.Text

theorem startOctet_ascii {n : Nat} (h : n < 0x80) : startOctet n = ([Char.ofNat n], none) := by
  simp only [startOctet]
  rw [if_pos h]

theorem startOctet_of_two {n : Nat} (h₁ : 2 ≤ n) (h₂ : n < 0x20) :
    startOctet (n + 0xC0) = ([], some ⟨n, 0, 0x80, 0xBF⟩) := by
  simp only [startOctet]
  rw [if_neg (by omega), if_neg (by omega), if_pos (by omega), Nat.add_sub_cancel]

theorem startOctet_of_three {n : Nat} (h : n < 0x10) :
    startOctet (n + 0xE0) = ([], some ⟨n, 1, if n = 0 then 0xA0 else 0x80,
      if n = 0xD then 0x9F else 0xBF⟩) := by
  interval_cases n <;> rfl

theorem startOctet_of_four {n : Nat} (h : n < 5) :
    startOctet (n + 0xF0) = ([], some ⟨n, 2, if n = 0 then 0x90 else 0x80,
      if n = 4 then 0x8F else 0xBF⟩) := by
  interval_cases n <;> rfl

theorem toNat_ofNat_of_lt {n : Nat} (h : n < 0x100) : (UInt8.ofNat n).toNat = n := by
  rw [UInt8.toNat_ofNat']
  exact Nat.mod_eq_of_lt h

theorem readOctetsFrom_start {n : Nat} {begun : Option Begun} (h : n < 0x100)
    (hn : startOctet n = ([], begun)) (rest : List UInt8) :
    readOctetsFrom none (UInt8.ofNat n :: rest) = readOctetsFrom begun rest := by
  simp only [readOctetsFrom, nextOctet, toNat_ofNat_of_lt h, hn, List.nil_append]

/-- An octet within the bounds adds its six bits. -/
theorem readOctetsFrom_further {bits k least greatest n : Nat} (h₁ : least ≤ n % 0x40 + 0x80)
    (h₂ : n % 0x40 + 0x80 ≤ greatest) (rest : List UInt8) :
    readOctetsFrom (some ⟨bits, k + 1, least, greatest⟩)
        (UInt8.ofNat (n % 0x40 + 0x80) :: rest) =
      readOctetsFrom (some ⟨bits * 64 + n % 0x40, k, 0x80, 0xBF⟩) rest := by
  have hn : n % 0x40 + 0x80 < 0x100 := by omega
  simp only [readOctetsFrom, nextOctet, toNat_ofNat_of_lt hn, h₁, h₂, and_self, if_true,
    Nat.add_sub_cancel, List.nil_append]

theorem readOctetsFrom_finish {bits least greatest n : Nat} (h₁ : least ≤ n % 0x40 + 0x80)
    (h₂ : n % 0x40 + 0x80 ≤ greatest) (rest : List UInt8) :
    readOctetsFrom (some ⟨bits, 0, least, greatest⟩) (UInt8.ofNat (n % 0x40 + 0x80) :: rest) =
      Char.ofNat (bits * 64 + n % 0x40) :: readOctetsFrom none rest := by
  have hn : n % 0x40 + 0x80 < 0x100 := by omega
  simp only [readOctetsFrom, nextOctet, toNat_ofNat_of_lt hn, h₁, h₂, and_self, if_true,
    Nat.add_sub_cancel, List.cons_append, List.nil_append]

/-- The octets of a character read as the character, whatever stands behind them. -/
theorem readOctetsFrom_utf8EncodeChar (c : Char) (rest : List UInt8) :
    readOctetsFrom none (String.utf8EncodeChar c ++ rest) = c :: readOctetsFrom none rest := by
  have hc : Char.ofNat c.val.toNat = c := Char.ofNat_toNat c
  have hv : c.val.toNat < 0xD800 ∨ 0xDFFF < c.val.toNat ∧ c.val.toNat < 0x110000 := c.valid
  simp only [String.utf8EncodeChar]
  generalize c.val.toNat = v at hc hv ⊢
  -- one case for each number of octets
  split
  · have h : v < 0x100 := by omega
    have hs : startOctet v = ([Char.ofNat v], none) := startOctet_ascii (by omega)
    simp only [List.cons_append, List.nil_append, readOctetsFrom, nextOctet,
      toNat_ofNat_of_lt h, hs, hc]
  · split
    · have hbits : v / 64 % 0x20 * 64 + v % 0x40 = v := by omega
      simp only [List.cons_append, List.nil_append]
      rw [readOctetsFrom_start (by omega) (startOctet_of_two (by omega) (by omega)),
        readOctetsFrom_finish (by omega) (by omega), hbits, hc]
    · split
      · have hbits : (v / 4096 % 0x10 * 64 + v / 64 % 0x40) * 64 + v % 0x40 = v := by omega
        simp only [List.cons_append, List.nil_append]
        -- the bounds on the second octet keep out what is no code of three octets
        rw [readOctetsFrom_start (by omega) (startOctet_of_three (by omega)),
          readOctetsFrom_further (by split <;> omega) (by split <;> omega),
          readOctetsFrom_finish (by omega) (by omega), hbits, hc]
      · have hbits : ((v / 262144 % 0x08 * 64 + v / 4096 % 0x40) * 64 + v / 64 % 0x40) * 64 +
            v % 0x40 = v := by omega
        simp only [List.cons_append, List.nil_append]
        rw [readOctetsFrom_start (by omega) (startOctet_of_four (by omega)),
          readOctetsFrom_further (by split <;> omega) (by split <;> omega),
          readOctetsFrom_further (by omega) (by omega),
          readOctetsFrom_finish (by omega) (by omega), hbits, hc]

theorem readOctets_flatMap_utf8EncodeChar (text : List Char) :
    readOctets (text.flatMap String.utf8EncodeChar) = text := by
  induction text with
  | nil => rfl
  | cons c text ih =>
      rw [List.flatMap_cons, readOctets, readOctetsFrom_utf8EncodeChar]
      exact congrArg (c :: ·) ih

end Wayfinding.Text
