import Mathlib.Algebra.Order.Field.Rat
import Mathlib.Data.Rat.Cast.Order
import Wayfinding.Proofs.Number.Carry
import Wayfinding.Proofs.Number.Decimal

/-!
Equality of decimals. It tells whether two decimals stand for the same number, whatever their
scales, unless the scales are ten places apart and the coefficient that is shifted loses a carry:
then the same number is told apart.
-/

namespace Wayfinding.Decimal
open Number

theorem add_log2_le {u v : Nat} (hu : u ≠ 0) (hv : v ≠ 0) : u.log2 + v.log2 ≤ (u * v).log2 := by
  rw [Nat.le_log2 (Nat.mul_ne_zero hu hv), Nat.pow_add]
  exact Nat.mul_le_mul (Nat.log2_self_le hu) (Nat.log2_self_le hv)

/-- Below twenty places the test goes by limbs, and the bits do not settle it for a multiple. -/
theorem isShifted_mul_pow {v shift : Nat} (hv : v ≠ 0) :
    isShifted (v * 10 ^ shift) v shift =
      if shift < 20 then isMultiple (10 ^ shift) (v * 10 ^ shift) v else true := by
  have hpow : 10 ^ shift ≠ 0 := Nat.ne_of_gt (Nat.pow_pos (by decide))
  have hbits : shift ≤ (v * 10 ^ shift).log2 := by
    rw [Nat.le_log2 (Nat.mul_ne_zero hv hpow)]
    calc
      2 ^ shift ≤ 10 ^ shift := Nat.pow_le_pow_left (by decide) shift
      _ ≤ v * 10 ^ shift := Nat.le_mul_of_pos_left _ (Nat.pos_of_ne_zero hv)
  have hpowEq : Nat.pow 10 shift = 10 ^ shift := rfl
  simp only [isShifted, hpowEq, if_neg (Nat.not_lt.mpr hbits),
    if_neg (Nat.not_lt.mpr (add_log2_le hv hpow)), Nat.mul_comm (10 ^ shift) v, beq_self_eq_true]

/-- A coefficient that loses a carry where it is shifted by ten places. -/
def Falters (coefficient : Int) : Prop :=
  losesCarry (10 ^ 10) 0 (limbs coefficient.natAbs)

instance (coefficient : Int) : Decidable (Falters coefficient) :=
  inferInstanceAs (Decidable (_ = true))

theorem isShifted_iff {u v shift : Nat} (hv : v ≠ 0) (h : shift = 10 → ¬ Falters v) :
    isShifted u v shift ↔ u = v * 10 ^ shift := by
  have hpow : 0 < 10 ^ shift := Nat.pow_pos (by decide)
  have hmultiple : shift < 20 → ∀ u, (isMultiple (10 ^ shift) u v ↔ u = v * 10 ^ shift) := by
    intro hshift u
    apply isMultiple_iff hpow
    by_cases hten : shift = 10
    · rw [hten]
      exact Bool.eq_false_of_not_eq_true (h hten)
    · exact losesCarry_pow hshift hten (by decide) lt_of_mem_lowLimbs
  constructor
  · intro hshifted
    simp only [isShifted] at hshifted
    split at hshifted
    · cases hshifted
    · split at hshifted
      · cases hshifted
      · split at hshifted
        · rename_i hshift
          exact (hmultiple hshift u).mp hshifted
        · rw [beq_iff_eq, Nat.mul_comm] at hshifted
          exact hshifted.symm
  · rintro rfl
    rw [isShifted_mul_pow hv]
    split
    · rename_i hshift
      exact (hmultiple hshift _).mpr rfl
    · rfl

theorem isShifted_of_falters {v : Nat} (hv : v ≠ 0) (h : Falters v) :
    isShifted (v * 10 ^ 10) v 10 = false := by
  rw [isShifted_mul_pow hv, if_pos (by decide)]
  exact isMultiple_of_losesCarry (by decide) h

theorem Falters.ne_zero {coefficient : Int} (h : Falters coefficient) : coefficient ≠ 0 := by
  rintro rfl
  exact absurd h (by decide)

theorem eq_mul_pow_iff {a b : Int} {places : Nat} :
    a = b * 10 ^ places ↔ a.sign = b.sign ∧ a.natAbs = b.natAbs * 10 ^ places := by
  have hpow : (0 : Int) < 10 ^ places := Int.pow_pos (by decide)
  constructor
  · rintro rfl
    exact ⟨by rw [Int.sign_mul, Int.sign_eq_one_of_pos hpow, Int.mul_one], by
      rw [Int.natAbs_mul, Int.natAbs_pow]
      rfl⟩
  · rintro ⟨hsign, habs⟩
    calc
      a = a.sign * a.natAbs := (Int.sign_mul_natAbs a).symm
      _ = b.sign * b.natAbs * 10 ^ places := by
        rw [hsign, habs, Int.natCast_mul, Int.natCast_pow, Int.mul_assoc]
        rfl
      _ = b * 10 ^ places := by rw [Int.sign_mul_natAbs]

theorem equal_comm (a b : Decimal) : equal a b = equal b a := by
  simp only [equal, eq_comm (a := a.scale), or_comm (a := a.coefficient = 0),
    ne_comm (a := a.coefficient.sign), BEq.comm (a := a.coefficient)]
  split
  · rfl
  · split
    · rfl
    · split
      · rfl
      · split <;> split <;> first | rfl | omega

section

variable {a b : Decimal} {places : Nat} (hscale : a.scale = b.scale + places)

include hscale

theorem equal_of_scale_eq_add (hplaces : places ≠ 0) (ha : a.coefficient ≠ 0)
    (hb : b.coefficient ≠ 0) :
    equal a b = (a.coefficient.sign == b.coefficient.sign &&
      isShifted a.coefficient.natAbs b.coefficient.natAbs places) := by
  have hne : a.scale ≠ b.scale := by omega
  have hlt : b.scale < a.scale := by omega
  have hshift : (a.scale - b.scale).toNat = places := by omega
  by_cases hsign : a.coefficient.sign = b.coefficient.sign
  · simp [equal, hne, ha, hb, hsign, hlt, hshift]
  · simp [equal, hne, ha, hb, hsign]

theorem value_eq_value_iff :
    a.value = b.value ↔ a.coefficient = b.coefficient * 10 ^ places := by
  have hten : (10 : ℚ) ≠ 0 := by norm_num
  have hpower : (10 : ℚ) ^ (-b.scale) = 10 ^ places * 10 ^ (-a.scale) := by
    rw [← zpow_natCast, ← zpow_add₀ hten, hscale]
    congr 1
    omega
  rw [value, value, hpower, ← mul_assoc, mul_left_inj' (zpow_ne_zero _ hten)]
  exact_mod_cast Iff.rfl

theorem equal_iff_of_scale_eq_add (h : places = 10 → ¬ Falters b.coefficient) :
    equal a b ↔ a.value = b.value := by
  rw [value_eq_value_iff hscale]
  by_cases hplaces : places = 0
  · subst hplaces
    rw [Nat.cast_zero, Int.add_zero] at hscale
    simp [equal, hscale]
  · have hne : a.scale ≠ b.scale := by omega
    by_cases hb : b.coefficient = 0
    · simp [equal, hne, hb]
    · by_cases ha : a.coefficient = 0
      · have hproduct : b.coefficient * 10 ^ places ≠ 0 :=
          Int.mul_ne_zero hb (Int.pow_ne_zero (by decide))
        simp [equal, hne, ha, Ne.symm hb, hproduct.symm]
      · rw [equal_of_scale_eq_add hscale hplaces ha hb, Bool.and_eq_true, beq_iff_eq,
          isShifted_iff (Int.natAbs_ne_zero.mpr hb) h, eq_mul_pow_iff]

end

theorem not_equal_of_falters {a b : Decimal} (hscale : a.scale = b.scale + 10)
    (h : Falters b.coefficient) (hvalue : a.value = b.value) : ¬ equal a b := by
  have hten : a.scale = b.scale + (10 : Nat) := hscale
  have hcoefficient := (value_eq_value_iff hten).mp hvalue
  have hb : b.coefficient ≠ 0 := h.ne_zero
  have ha : a.coefficient ≠ 0 := by
    rw [hcoefficient]
    exact Int.mul_ne_zero hb (by decide)
  have hrefused : isShifted a.coefficient.natAbs b.coefficient.natAbs 10 = false := by
    rw [(eq_mul_pow_iff.mp hcoefficient).2]
    exact isShifted_of_falters (Int.natAbs_ne_zero.mpr hb) h
  rw [equal_of_scale_eq_add hten (by decide) ha hb, hrefused, Bool.and_false]
  exact Bool.false_ne_true

/-- The scales are ten places apart, and the coefficient of the smaller scale falters. -/
def CarryLost (a b : Decimal) : Prop :=
  a.scale = b.scale + 10 ∧ Falters b.coefficient ∨
    b.scale = a.scale + 10 ∧ Falters a.coefficient

instance (a b : Decimal) : Decidable (CarryLost a b) :=
  inferInstanceAs (Decidable (_ ∨ _))

theorem carryLost_comm {a b : Decimal} : CarryLost a b ↔ CarryLost b a := or_comm

/-- Where no carry is lost, equality is that of the numbers. -/
theorem equal_iff {a b : Decimal} (h : ¬ CarryLost a b) : equal a b ↔ a.value = b.value := by
  -- the test is symmetric, so `a` may have the larger scale
  have hlarger : ∀ {a b : Decimal}, b.scale ≤ a.scale → ¬ CarryLost a b →
      (equal a b ↔ a.value = b.value) := by
    intro a b hle hkept
    obtain ⟨places, hplaces⟩ := Int.le.dest hle
    apply equal_iff_of_scale_eq_add hplaces.symm
    rintro rfl hfalters
    exact hkept (.inl ⟨hplaces.symm, hfalters⟩)
  rcases Int.le_total b.scale a.scale with hle | hle
  · exact hlarger hle h
  · rw [equal_comm, eq_comm (a := a.value)]
    exact hlarger hle fun hlost => h (carryLost_comm.mp hlost)

/-- Where a carry is lost, a number is not even equal to itself. -/
theorem equal_iff_of_value_eq {a b : Decimal} (h : a.value = b.value) :
    equal a b ↔ ¬ CarryLost a b := by
  constructor
  · rintro hequal (⟨hscale, hfalters⟩ | ⟨hscale, hfalters⟩)
    · exact not_equal_of_falters hscale hfalters h hequal
    · rw [equal_comm] at hequal
      exact not_equal_of_falters hscale hfalters h.symm hequal
  · exact fun hkept => (equal_iff hkept).mpr h

end Wayfinding.Decimal
