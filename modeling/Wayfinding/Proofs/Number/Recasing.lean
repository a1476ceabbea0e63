import Wayfinding.Proofs.Number.Decimal
import Wayfinding.Proofs.Text.CaseFolding

/-!
Numbers in either case. All that a number is written with stands in one case only, but for the
mark of an exponent, and that is read in both.
-/

namespace Wayfinding
open Text

namespace Number

theorem isCaseless_of_isDigit {c : Char} (h : c.isDigit) : IsCaseless c := by
  simp only [Char.isDigit, Bool.and_eq_true, decide_eq_true_eq, UInt32.le_iff_toNat_le] at h
  have hlow : 48 ≤ c.toNat := h.1
  have hhigh : c.toNat ≤ 57 := h.2
  exact isCaseless_of_lt (by omega) (by omega)

theorem Sign.isCaseless (sign : Sign) : ∀ c ∈ sign.chars, IsCaseless c := by
  have hmarks : ∀ c ∈ ['+', '-'], IsCaseless c := by
    intro c hc
    have hcode : ∀ c ∈ ['+', '-'], 0 < c.toNat ∧ c.toNat < 64 := by simp
    exact isCaseless_of_lt (hcode c hc).1 (hcode c hc).2
  intro c hc
  cases sign with
  | absent => cases hc
  | plus | minus => exact hmarks c (by simp_all [chars])

theorem readInteger_recased {bound : Nat} (hbound : 0 < bound) {text text' : List Char}
    (h : text.map foldCase = text'.map foldCase) {n : Int}
    (hread : readInteger bound text = .ok n) :
    readInteger bound text' = .ok n := by
  obtain ⟨sign, digits, rfl, hdigits, -⟩ := (readInteger_eq_ok_iff hbound).mp hread
  rw [eq_of_map_foldCase_eq h]
  · exact hread
  · intro c hc
    rcases List.mem_append.mp hc with hsign | hdigit
    · exact sign.isCaseless c hsign
    · exact isCaseless_of_isDigit (hdigits.2 c hdigit)

end Number

namespace Decimal
open Number

theorem isExponentMark_foldCase (c : Char) : isExponentMark (foldCase c) = isExponentMark c := by
  refine foldCase_keeps_predicate (by decide) ?_ (by decide) c
  intro c hc
  simp only [isExponentMark, Bool.or_eq_true, beq_iff_eq] at hc
  rcases hc with rfl | rfl <;> decide

theorem beforeMark_map_foldCase (text : List Char) :
    beforeMark (text.map foldCase) = (beforeMark text).map foldCase := by
  simp only [beforeMark, List.takeWhile_map, Function.comp_def, isExponentMark_foldCase]

theorem readExponent_recased {text text' : List Char} (h : text.map foldCase = text'.map foldCase)
    {power : Int} (hread : readExponent text = .ok power) : readExponent text' = .ok power := by
  have hafter : (text.dropWhile (!isExponentMark ·)).map foldCase =
      (text'.dropWhile (!isExponentMark ·)).map foldCase := by
    have hdrop := congrArg (List.dropWhile (!isExponentMark ·)) h
    simpa only [List.dropWhile_map, Function.comp_def, isExponentMark_foldCase] using hdrop
  rw [readExponent] at hread ⊢
  cases hfirst : text.dropWhile (!isExponentMark ·) with
  | nil =>
      rw [hfirst] at hafter hread
      rw [List.map_eq_nil_iff.mp hafter.symm]
      exact hread
  | cons mark exponent =>
      rw [hfirst] at hafter hread
      obtain ⟨mark', exponent', hsecond, -, hexponent⟩ := List.map_eq_cons_iff.mp hafter.symm
      rw [hsecond]
      exact readInteger_recased (by decide) hexponent.symm hread

theorem removePoint_map_foldCase (text : List Char) :
    removePoint (text.map foldCase) =
      ((removePoint text).1.map foldCase, (removePoint text).2) := by
  have hpoint : ∀ c, (foldCase c != '.') = (c != '.') := by
    intro c
    rw [Bool.eq_iff_iff, bne_iff_ne, bne_iff_ne, Ne, Ne,
      isCaseless_of_lt (d := '.') (by decide) (by decide) c]
  have hgroup : ∀ c, (foldCase c != '_') = (c != '_') := by
    intro c
    rw [Bool.eq_iff_iff, bne_iff_ne, bne_iff_ne, Ne, Ne, isCaseless_underscore c]
  simp only [removePoint, List.dropWhile_map, List.takeWhile_map, Function.comp_def, hpoint]
  cases text.dropWhile (· != '.') with
  | nil => rfl
  | cons point fraction =>
      simp [List.filter_map, Function.comp_def, hgroup]

theorem isCaseless_of_readDigitGroups {text : List Char} {n : Nat}
    (h : readDigitGroups text = .ok n) : ∀ c ∈ text, IsCaseless c := by
  simp only [readDigitGroups] at h
  split at h
  · cases h
  · cases h
  · split at h
    · rename_i hall
      intro c hc
      rcases Bool.or_eq_true_iff.mp (List.all_eq_true.mp hall c hc) with hdigit | hgroup
      · exact isCaseless_of_isDigit hdigit
      · rw [beq_iff_eq.mp hgroup]
        exact isCaseless_underscore
    · cases h

theorem isCaseless_of_readCoefficient {text : List Char} {n : Int}
    (h : readCoefficient text = .ok n) : ∀ c ∈ text, IsCaseless c := by
  obtain ⟨sign, groups, rfl, hprecedes⟩ := Sign.exists_precedes text
  rw [readCoefficient_append hprecedes] at h
  cases hgroups : readDigitGroups groups with
  | error fault =>
      rw [hgroups] at h
      cases h
  | ok magnitude =>
      intro c hc
      rcases List.mem_append.mp hc with hsign | hgroup
      · exact sign.isCaseless c hsign
      · exact isCaseless_of_readDigitGroups hgroups c hgroup

/-- A decimal is read alike in either case. -/
theorem read_recased {text text' : String}
    (h : text.toList.map foldCase = text'.toList.map foldCase) {d : Decimal}
    (hread : read text = .ok d) : read text' = .ok d := by
  obtain ⟨hbase, hexponent, hscale, hcoefficient⟩ := read_eq_ok_iff.mp hread
  have hbefore : (beforeMark text.toList).map foldCase =
      (beforeMark text'.toList).map foldCase := by
    rw [← beforeMark_map_foldCase, h, beforeMark_map_foldCase]
  have hremoved := congrArg removePoint hbefore
  rw [removePoint_map_foldCase, removePoint_map_foldCase, Prod.mk.injEq] at hremoved
  obtain ⟨hdigits, hplaces⟩ := hremoved
  -- without the exponent nothing is left that has two cases
  have hsame := eq_of_map_foldCase_eq hdigits (isCaseless_of_readCoefficient hcoefficient)
  refine read_eq_ok_iff.mpr ⟨?_, ?_, hscale, ?_⟩
  · intro hnil
    rw [hnil] at hbefore
    exact hbase (List.map_eq_nil_iff.mp hbefore)
  · rw [← hplaces]
    exact readExponent_recased h hexponent
  · rw [hsame]
    exact hcoefficient

end Decimal
end Wayfinding
