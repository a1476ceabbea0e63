import Mathlib.Algebra.Field.Rat
import Mathlib.Algebra.GroupWithZero.Basic
import Wayfinding.Number.Decimal
import Wayfinding.Proofs.Number.Integer
import Wayfinding.Proofs.Traversal

/-!
Decimals as they are written: an optional sign, digits with or without a point among them, and an
optional power of ten. Reading takes every such numeral, gives just the number that it denotes and
keeps the places that it is written with, unless the power or the scale leaves its word.
-/

namespace Wayfinding.Decimal
open Number

/-- The number that a decimal stands for. -/
def value (d : Decimal) : ℚ := d.coefficient * (10 : ℚ) ^ (-d.scale)

theorem scaleInRange_iff {scale : Int} : scaleInRange scale ↔ Fits wordBound scale := by
  simp [scaleInRange, Fits]

/-- What stands before the exponent. -/
def beforeMark (text : List Char) : List Char :=
  text.takeWhile (!isExponentMark ·)

/-- Reading by its stages. -/
theorem read_eq_ok_iff {text : String} {d : Decimal} :
    read text = .ok d ↔ beforeMark text.toList ≠ [] ∧
      readExponent text.toList = .ok ((removePoint (beforeMark text.toList)).2 - d.scale) ∧
      Fits wordBound d.scale ∧
      readCoefficient (removePoint (beforeMark text.toList)).1 = .ok d.coefficient := by
  have hbefore : text.toList.takeWhile (!isExponentMark ·) = beforeMark text.toList := rfl
  constructor
  · intro h
    simp only [read, hbefore] at h
    split at h
    · cases h
    · rename_i exponent hexponent
      split at h
      · cases h
      · rename_i hbase
        split at h
        · rename_i hscale
          split at h
          · cases h
          · rename_i coefficient hcoefficient
            obtain rfl := Except.ok.inj h
            refine ⟨by simpa using hbase, ?_, scaleInRange_iff.mp hscale, hcoefficient⟩
            rw [hexponent, Int.sub_sub_self]
        · cases h
  · rintro ⟨hbase, hexponent, hscale, hcoefficient⟩
    have hempty : (beforeMark text.toList).isEmpty = false := by simpa using hbase
    simp only [read, hbefore, hexponent, hempty, Bool.false_eq_true, if_false, Int.sub_sub_self,
      scaleInRange_iff.mpr hscale, if_true, hcoefficient]

theorem ne_of_isDigit {c d : Char} (hc : c.isDigit) (hd : d.isDigit = false) : c ≠ d := by
  rintro rfl
  rw [hc] at hd
  cases hd

theorem readDigitGroups_of_isWhole {digits : List Char} (h : IsWhole digits) :
    readDigitGroups digits = .ok (digitsValue digits) := by
  obtain ⟨hne, hdigits⟩ := h
  have hgroup : ∀ c ∈ digits, c != '_' := fun c hc =>
    bne_iff_ne.mpr (ne_of_isDigit (hdigits c hc) rfl)
  have hall : digits.all fun c => c.isDigit || c == '_' := by
    rw [List.all_eq_true]
    intro c hc
    rw [hdigits c hc, Bool.true_or]
  simp only [readDigitGroups]
  split
  · exact absurd rfl hne
  · exact absurd (hdigits '_' List.mem_cons_self) (by decide)
  · rw [if_pos hall, List.filter_eq_self.mpr hgroup]

/-- A sign can stand apart from the digits: no group of digits starts with one. -/
theorem readCoefficient_append {sign : Sign} {text : List Char} (h : sign.Precedes text) :
    readCoefficient (sign.chars ++ text) = (readDigitGroups text).map sign.apply := by
  cases text with
  | nil => cases sign <;> rfl
  | cons c text =>
      cases sign with
      | absent =>
          obtain ⟨hplus, hminus⟩ := h c rfl
          have hread : readCoefficient (c :: text) =
              (readDigitGroups (c :: text)).map Int.ofNat := by
            simp [readCoefficient, hplus, hminus]
          exact hread
      | plus =>
          by_cases hplus : c = '+'
          · subst hplus
            rfl
          · have hread : readCoefficient ('+' :: c :: text) =
                (readDigitGroups (c :: text)).map Int.ofNat := by
              simp [readCoefficient, hplus]
            exact hread
      | minus =>
          by_cases hplus : c = '+'
          · subst hplus
            rfl
          · have hread : readCoefficient ('-' :: c :: text) =
                (readDigitGroups (c :: text)).map fun n => -Int.ofNat n := by
              simp [readCoefficient, hplus]
            exact hread

theorem readCoefficient_of_isWhole {sign : Sign} {digits : List Char} (h : IsWhole digits) :
    readCoefficient (sign.chars ++ digits) = .ok (sign.apply (digitsValue digits)) := by
  rw [readCoefficient_append (sign.precedes_of_isWhole h), readDigitGroups_of_isWhole h]
  rfl

structure Exponent where
  mark : Char
  sign : Sign
  digits : List Char
  isExponentMark_mark : isExponentMark mark
  isWhole_digits : IsWhole digits

namespace Exponent

def chars (e : Exponent) : List Char :=
  e.mark :: (e.sign.chars ++ e.digits)

def power (e : Exponent) : Int :=
  e.sign.apply (digitsValue e.digits)

end Exponent

/-- A decimal as it may be written. There is a digit on one side of the point at least. -/
structure Numeral where
  sign : Sign
  whole : List Char
  fraction : Option (List Char)
  exponent : Option Exponent
  isWhole : IsWhole (whole ++ fraction.getD [])

namespace Numeral

def digits (s : Numeral) : List Char := s.whole ++ s.fraction.getD []

def places (s : Numeral) : Nat := (s.fraction.getD []).length

/-- The power of ten that the numeral ends with. -/
def power (s : Numeral) : Int := s.exponent.elim 0 Exponent.power

def coefficient (s : Numeral) : Int := s.sign.apply (digitsValue s.digits)

def scale (s : Numeral) : Int := s.places - s.power

def decimal (s : Numeral) : Decimal := ⟨s.coefficient, s.scale⟩

def base (s : Numeral) : List Char :=
  s.sign.chars ++ (s.whole ++ s.fraction.elim [] ('.' :: ·))

def tail (s : Numeral) : List Char :=
  s.exponent.elim [] Exponent.chars

def text (s : Numeral) : String :=
  String.ofList (s.base ++ s.tail)

/-- The number that a numeral denotes. -/
def value (s : Numeral) : ℚ := s.coefficient * (10 : ℚ) ^ (s.power - s.places)

/-- Whether the power of ten and the scale stay within their words. -/
def IsRepresentable (s : Numeral) : Prop :=
  Fits longWordBound s.power ∧ Fits wordBound s.scale

instance (s : Numeral) : Decidable s.IsRepresentable :=
  inferInstanceAs (Decidable (_ ∧ _))

variable (s : Numeral)

theorem isWhole_digits : IsWhole s.digits := s.isWhole

theorem mem_base {c : Char} (hc : c ∈ s.base) : c ∈ ['+', '-', '.'] ∨ c.isDigit := by
  have hdigits : ∀ c ∈ s.whole ++ s.fraction.getD [], c.isDigit := s.isWhole.2
  simp only [base, List.mem_append] at hc
  rcases hc with hsign | hwhole | hfraction
  · left
    cases hs : s.sign <;> rw [hs] at hsign <;> simp_all [Sign.chars]
  · exact .inr (hdigits c (List.mem_append_left _ hwhole))
  · cases hf : s.fraction with
    | none =>
        rw [hf] at hfraction
        cases hfraction
    | some fraction =>
        rw [hf] at hfraction hdigits
        rcases List.mem_cons.mp hfraction with rfl | hmem
        · simp
        · exact .inr (hdigits c (List.mem_append_right _ hmem))

theorem isExponentMark_of_mem_base : ∀ c ∈ s.base, (!isExponentMark c) = true := by
  have hmarks : ∀ c ∈ ['+', '-', '.'], (!isExponentMark c) = true := by
    simp [isExponentMark]
  intro c hc
  rcases s.mem_base hc with hmark | hdigit
  · exact hmarks c hmark
  · have he := ne_of_isDigit (d := 'e') hdigit rfl
    have hE := ne_of_isDigit (d := 'E') hdigit rfl
    simp [isExponentMark, he, hE]

theorem isExponentMark_head_tail : ∀ c ∈ s.tail.head?, (!isExponentMark c) = false := by
  intro c hc
  rw [tail] at hc
  cases hexponent : s.exponent with
  | none =>
      rw [hexponent] at hc
      cases hc
  | some e =>
      rw [hexponent] at hc
      cases hc
      rw [e.isExponentMark_mark]
      rfl

theorem beforeMark_text : beforeMark s.text.toList = s.base := by
  rw [beforeMark, text, String.toList_ofList]
  exact takeWhile_append_stop s.isExponentMark_of_mem_base s.isExponentMark_head_tail

theorem readExponent_text {power : Int} :
    readExponent s.text.toList = .ok power ↔ power = s.power ∧ Fits longWordBound s.power := by
  rw [readExponent, text, String.toList_ofList,
    dropWhile_append_stop s.isExponentMark_of_mem_base s.isExponentMark_head_tail, tail,
    Numeral.power]
  cases s.exponent with
  | none =>
      have hzero : Fits longWordBound 0 := by decide
      simp only [Option.elim_none, Except.ok.injEq, hzero, and_true]
      exact eq_comm
  | some e =>
      have hbound : 0 < longWordBound := by decide
      have hread := readInteger_append_eq_ok_iff hbound
        (e.sign.precedes_of_isWhole e.isWhole_digits) (n := power)
      rw [and_iff_right e.isWhole_digits] at hread
      refine hread.trans (and_congr_right ?_)
      rintro rfl
      rfl

theorem removePoint_base : removePoint s.base = (s.sign.chars ++ s.digits, s.places) := by
  have hfront : ∀ c ∈ s.sign.chars ++ s.whole, (c != '.') = true := by
    intro c hc
    rw [bne_iff_ne]
    rcases List.mem_append.mp hc with hsign | hwhole
    · cases hs : s.sign <;> rw [hs] at hsign <;> simp_all [Sign.chars]
    · exact ne_of_isDigit (s.isWhole.2 c (List.mem_append_left _ hwhole)) rfl
  have hback : ∀ c ∈ (s.fraction.elim [] ('.' :: ·)).head?, (c != '.') = false := by
    cases s.fraction <;> simp
  rw [removePoint, base, ← List.append_assoc, takeWhile_append_stop hfront hback,
    dropWhile_append_stop hfront hback, digits, places]
  cases hf : s.fraction with
  | none => simp
  | some fraction =>
      have hgroup : ∀ c ∈ fraction, (c != '_') = true := fun c hc =>
        bne_iff_ne.mpr (ne_of_isDigit (s.isWhole.2 c (by simp [hf, hc])) rfl)
      simp [List.filter_eq_self.mpr hgroup]

theorem base_ne_nil : s.base ≠ [] := by
  intro hbase
  have hdigits := congrArg Prod.fst s.removePoint_base
  rw [hbase] at hdigits
  exact s.isWhole_digits.1 (List.append_eq_nil_iff.mp hdigits.symm).2

/-- Reading a numeral gives its digits and its scale as they stand. -/
theorem read_text_eq_ok_iff {d : Decimal} :
    read s.text = .ok d ↔ s.IsRepresentable ∧ d = s.decimal := by
  obtain ⟨coefficient, scale⟩ := d
  rw [read_eq_ok_iff, beforeMark_text, readExponent_text, removePoint_base,
    readCoefficient_of_isWhole s.isWhole_digits, and_iff_right s.base_ne_nil, IsRepresentable,
    Numeral.decimal, Decimal.mk.injEq, Except.ok.injEq, Numeral.scale, Numeral.coefficient]
  constructor
  · rintro ⟨⟨hpower, hlong⟩, hscale, rfl⟩
    obtain rfl : scale = s.places - s.power := by
      rw [← hpower, Int.sub_sub_self]
    exact ⟨⟨hlong, hscale⟩, rfl, rfl⟩
  · rintro ⟨⟨hlong, hscale⟩, rfl, rfl⟩
    exact ⟨⟨Int.sub_sub_self _ _, hlong⟩, hscale, rfl⟩

theorem value_decimal : s.decimal.value = s.value := by
  rw [Decimal.value, Numeral.value, Numeral.decimal, Numeral.scale, neg_sub]

end Numeral
end Wayfinding.Decimal
