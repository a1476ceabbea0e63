import Mathlib.Algebra.Group.Nat.Defs
import Wayfinding.Number.Limbs

/-!
What the lost carries of a product by limbs do. As long as none is lost the test for a multiple
is exact, and so it is where the loss comes just before a product that does not fit the word,
since the numbers themselves are compared then. Otherwise the test refuses the very multiple that
it is asked about.
-/

namespace Wayfinding.Number

theorem limbCount_eq {n : Nat} (hn : n ≠ 0) : limbCount n = limbCount (n / limbSize) + 1 := by
  have hsize : limbSize = 2 ^ 32 := rfl
  rw [limbCount, if_neg hn, limbCount, hsize]
  split
  · rename_i hsmall
    have hlt : n < 2 ^ 32 := by omega
    have hlog : n.log2 < 32 := (Nat.log2_lt hn).mpr hlt
    omega
  · rename_i hlarge
    have hlog : 32 ≤ n.log2 := by
      rw [Nat.le_log2 hn]
      omega
    have hdiv : (n / 2 ^ 32).log2 = n.log2 - 32 := by
      rw [Nat.log2_eq_iff hlarge, Nat.le_div_iff_mul_le (by decide),
        Nat.div_lt_iff_lt_mul (by decide), ← Nat.pow_add, ← Nat.pow_add]
      have hself := (Nat.log2_eq_iff hn).mp rfl
      rw [Nat.sub_add_cancel hlog]
      rw [show n.log2 - 32 + 1 + 32 = n.log2 + 1 by omega]
      exact hself
    rw [hdiv]
    omega

theorem limbs_of_ne_zero {n : Nat} (hn : n ≠ 0) :
    limbs n = n % limbSize :: limbs (n / limbSize) := by
  rw [limbs, limbCount_eq hn, lowLimbs, limbs]

/-- Induction on a number by its limbs, the least one first. -/
theorem limbs_induction {P : Nat → Prop} (zero : P 0)
    (step : ∀ n, n ≠ 0 → P (n / limbSize) → P n) (n : Nat) : P n := by
  induction n using Nat.strongRecOn with
  | ind n ih =>
      by_cases hn : n = 0
      · rw [hn]
        exact zero
      · exact step n hn (ih _ (Nat.div_lt_self (Nat.pos_of_ne_zero hn) (by decide)))

/-- Whether multiplying limb by limb loses a carry for good, which it does unless one of the next
two products does not fit the word. -/
def losesCarry (factor : Nat) : Nat → List Nat → Bool
  | _, [] => false
  | carry, v :: vs =>
    if v * factor < wordSize then
      if v * factor + carry < wordSize then
        losesCarry factor ((v * factor + carry) / limbSize) vs
      else (vs.take 2).all (· * factor < wordSize)
    else false

/-- An answer, if there is one, is right about a proposition. -/
def Tells (answer : Option Bool) (p : Prop) : Prop :=
  ∀ b ∈ answer, (b = true ↔ p)

section

variable {factor carry u v : Nat}

theorem eq_iff_limbs {n m : Nat} :
    n = m ↔ n % limbSize = m % limbSize ∧ n / limbSize = m / limbSize := by
  simp only [limbSize]
  omega

theorem limbsAgree_nil (hcarry : carry < limbSize) (u : Nat) :
    limbsAgree factor carry (limbs u) [] = some (u == carry) := by
  induction u using limbs_induction generalizing carry with
  | zero => exact congrArg some Bool.beq_comm
  | step u hu ih =>
      have hmod : carry % limbSize = carry := Nat.mod_eq_of_lt hcarry
      have hdiv : carry / limbSize = 0 := Nat.div_eq_of_lt hcarry
      have heq : (u == carry) = (u % limbSize == carry && u / limbSize == 0) := by
        rw [Bool.eq_iff_iff, Bool.and_eq_true, beq_iff_eq, beq_iff_eq, beq_iff_eq, eq_iff_limbs,
          hmod, hdiv]
      rw [limbs_of_ne_zero hu, limbsAgree, ih (by decide), heq]
      split
      · rename_i hlow
        rw [beq_iff_eq.mpr hlow, Bool.true_and]
      · rename_i hlow
        rw [beq_eq_false_iff_ne.mpr hlow, Bool.false_and]

theorem limbsAgree_limbs (hu : u ≠ 0) (hv : v ≠ 0) (hfits : v % limbSize * factor < wordSize) :
    limbsAgree factor carry (limbs u) (limbs v) =
      if u % limbSize = (v % limbSize * factor + carry) % limbSize then
        limbsAgree factor ((v % limbSize * factor + carry) % wordSize / limbSize)
          (limbs (u / limbSize)) (limbs (v / limbSize))
      else some false := by
  have hmod : (v % limbSize * factor + carry) % wordSize % limbSize =
      (v % limbSize * factor + carry) % limbSize := Nat.mod_mod_of_dvd _ (by decide)
  rw [limbs_of_ne_zero hu, limbs_of_ne_zero hv, limbsAgree, if_pos hfits]
  simp only [hmod]

theorem tells_overflow {sum : Nat} (hv : v ≠ 0) (hover : ¬ v % limbSize * factor < wordSize)
    (hsum : sum ≠ 0) :
    Tells (limbsAgree factor carry (limbs u) (limbs v)) (u = sum) := by
  rw [limbs_of_ne_zero hv]
  by_cases hu : u = 0
  · subst hu
    rintro _ ⟨⟩
    exact iff_of_false nofun hsum.symm
  · rw [limbs_of_ne_zero hu, limbsAgree, if_neg hover]
    exact nofun

theorem mul_add_ne_zero (hfactor : 0 < factor) (hv : v ≠ 0) (total : Nat) :
    v * factor + total ≠ 0 :=
  Nat.ne_of_gt (Nat.add_pos_left (Nat.mul_pos (Nat.pos_of_ne_zero hv) hfactor) total)

theorem mul_add_limbs (v factor total : Nat) :
    (v * factor + total) % limbSize = (v % limbSize * factor + total) % limbSize ∧
      (v * factor + total) / limbSize =
        v / limbSize * factor + (v % limbSize * factor + total) / limbSize := by
  have hsplit : v * factor + total =
      v % limbSize * factor + total + limbSize * (v / limbSize * factor) := by
    calc
      v * factor + total = (v % limbSize + limbSize * (v / limbSize)) * factor + total := by
        rw [Nat.mod_add_div]
      _ = v % limbSize * factor + total + limbSize * (v / limbSize * factor) := by
        rw [Nat.add_mul, Nat.mul_assoc, Nat.add_right_comm]
  rw [hsplit, Nat.add_mul_mod_self_left, Nat.add_mul_div_left _ _ (by decide)]
  exact ⟨rfl, Nat.add_comm _ _⟩

/-- The test is right if it is right about the limbs above, whatever `total` is carried in truth:
its lowest limb is that of the carry in the test. -/
theorem tells_step {total : Nat} (hfactor : 0 < factor) (hv : v ≠ 0)
    (hfits : v % limbSize * factor < wordSize) (htotal : total % limbSize = carry % limbSize)
    (habove : Tells (limbsAgree factor ((v % limbSize * factor + carry) % wordSize / limbSize)
        (limbs (u / limbSize)) (limbs (v / limbSize)))
      (u / limbSize = v / limbSize * factor + (v % limbSize * factor + total) / limbSize)) :
    Tells (limbsAgree factor carry (limbs u) (limbs v)) (u = v * factor + total) := by
  obtain ⟨hlow, hhigh⟩ := mul_add_limbs v factor total
  rw [Nat.add_mod (v % limbSize * factor), htotal, ← Nat.add_mod] at hlow
  have hsum : u = v * factor + total ↔
      u % limbSize = (v % limbSize * factor + carry) % limbSize ∧
        u / limbSize = v / limbSize * factor + (v % limbSize * factor + total) / limbSize := by
    rw [eq_iff_limbs, hlow, hhigh]
  by_cases hu : u = 0
  · subst hu
    rw [limbs_of_ne_zero hv]
    rintro _ ⟨⟩
    exact iff_of_false nofun (mul_add_ne_zero hfactor hv total).symm
  · rw [limbsAgree_limbs hu hv hfits]
    split
    · rename_i hfirst
      intro b hb
      rw [habove b hb, hsum]
      exact (and_iff_right hfirst).symm
    · rename_i hfirst
      rintro _ ⟨⟩
      exact iff_of_false nofun fun h => hfirst (hsum.mp h).1

/-- What remains of a sum that the word does not hold, and what should have been carried. -/
theorem lost_carry {low : Nat} (hlow : low < wordSize) (hcarry : carry < limbSize)
    (hlost : ¬ low + carry < wordSize) :
    (low + carry) % wordSize / limbSize = 0 ∧ (low + carry) / limbSize = limbSize := by
  simp only [wordSize, limbSize] at *
  omega

/-- The test does not suffer from a lost carry if it soon gives up. -/
theorem tells_of_overflow_soon (hfactor : 0 < factor)
    (h : ((limbs v).take 2).all (· * factor < wordSize) = false) :
    Tells (limbsAgree factor 0 (limbs u) (limbs v)) (u = v * factor + limbSize) := by
  have hv : v ≠ 0 := by
    rintro rfl
    cases h
  by_cases hfits : v % limbSize * factor < wordSize
  · rw [limbs_of_ne_zero hv, List.take_succ_cons, List.all_cons, decide_eq_true hfits,
      Bool.true_and] at h
    have hnext : v / limbSize ≠ 0 := by
      intro hzero
      rw [hzero] at h
      cases h
    rw [limbs_of_ne_zero hnext] at h
    have hover : ¬ v / limbSize % limbSize * factor < wordSize := by
      intro hfits
      simp [hfits] at h
    exact tells_step hfactor hv hfits rfl
      (tells_overflow hnext hover (mul_add_ne_zero hfactor hnext _))
  · exact tells_overflow hv hfits (mul_add_ne_zero hfactor hv _)

/-- A test that loses no carry for good is right. -/
theorem tells_of_losesCarry_eq_false (hfactor : 0 < factor) (hcarry : carry < limbSize)
    (h : losesCarry factor carry (limbs v) = false) :
    Tells (limbsAgree factor carry (limbs u) (limbs v)) (u = v * factor + carry) := by
  induction v using limbs_induction generalizing u carry with
  | zero =>
      have hnil : limbs 0 = [] := rfl
      rw [hnil, limbsAgree_nil hcarry, Nat.zero_mul, Nat.zero_add]
      rintro _ ⟨⟩
      exact beq_iff_eq
  | step v hv ih =>
      rw [limbs_of_ne_zero hv, losesCarry] at h
      by_cases hfits : v % limbSize * factor < wordSize
      · rw [if_pos hfits] at h
        refine tells_step hfactor hv hfits rfl ?_
        by_cases hkept : v % limbSize * factor + carry < wordSize
        · rw [if_pos hkept] at h
          rw [Nat.mod_eq_of_lt hkept]
          exact ih (Nat.div_lt_of_lt_mul hkept) h
        · rw [if_neg hkept] at h
          obtain ⟨hzero, hone⟩ := lost_carry hfits hcarry hkept
          rw [hzero, hone]
          exact tells_of_overflow_soon hfactor h
      · exact tells_overflow hv hfits (mul_add_ne_zero hfactor hv _)

/-- Without the lost carry the second limb above does not agree. -/
theorem limbsAgree_of_lost (hfactor : 0 < factor)
    (h : ((limbs v).take 2).all (· * factor < wordSize)) :
    limbsAgree factor 0 (limbs (v * factor + limbSize)) (limbs v) = some false := by
  by_cases hv : v = 0
  · subst hv
    have hnil : limbs 0 = [] := rfl
    rw [hnil, limbsAgree_nil (by decide), Nat.zero_mul, Nat.zero_add]
    rfl
  · have hlow : (v * factor + limbSize) % limbSize = (v % limbSize * factor + 0) % limbSize := by
      rw [(mul_add_limbs v factor limbSize).1, Nat.add_mod_right, Nat.add_zero]
    have hhigh : (v * factor + limbSize) / limbSize =
        v / limbSize * factor + (v % limbSize * factor / limbSize + 1) := by
      rw [(mul_add_limbs v factor limbSize).2, Nat.add_div_right _ (by decide)]
    rw [limbs_of_ne_zero hv, List.take_succ_cons, List.all_cons, Bool.and_eq_true,
      decide_eq_true_eq] at h
    obtain ⟨hfits, hnext⟩ := h
    rw [limbsAgree_limbs (mul_add_ne_zero hfactor hv _) hv hfits, if_pos hlow, hhigh,
      Nat.add_zero, Nat.mod_eq_of_lt hfits]
    have hcarry : v % limbSize * factor / limbSize < limbSize := Nat.div_lt_of_lt_mul hfits
    generalize v % limbSize * factor / limbSize = carry at hcarry
    generalize v / limbSize = w at hnext
    by_cases hw : w = 0
    · subst hw
      have hnil : limbs 0 = [] := rfl
      rw [hnil, limbsAgree_nil hcarry, Nat.zero_mul, Nat.zero_add]
      simp
    · rw [limbs_of_ne_zero hw] at hnext
      have hfits : w % limbSize * factor < wordSize := by simpa using hnext
      have hne : (w * factor + (carry + 1)) % limbSize ≠
          (w % limbSize * factor + carry) % limbSize := by
        rw [(mul_add_limbs w factor (carry + 1)).1]
        simp only [limbSize]
        omega
      rw [limbsAgree_limbs (mul_add_ne_zero hfactor hw _) hw hfits, if_neg hne]

/-- A test that loses a carry for good refuses the multiple itself. -/
theorem limbsAgree_of_losesCarry (hfactor : 0 < factor) (hcarry : carry < limbSize)
    (h : losesCarry factor carry (limbs v)) :
    limbsAgree factor carry (limbs (v * factor + carry)) (limbs v) = some false := by
  induction v using limbs_induction generalizing carry with
  | zero => cases h
  | step v hv ih =>
      obtain ⟨hlow, hhigh⟩ := mul_add_limbs v factor carry
      rw [limbs_of_ne_zero hv, losesCarry] at h
      by_cases hfits : v % limbSize * factor < wordSize
      · rw [if_pos hfits] at h
        rw [limbsAgree_limbs (mul_add_ne_zero hfactor hv _) hv hfits, if_pos hlow, hhigh]
        by_cases hkept : v % limbSize * factor + carry < wordSize
        · rw [if_pos hkept] at h
          rw [Nat.mod_eq_of_lt hkept]
          exact ih (Nat.div_lt_of_lt_mul hkept) h
        · rw [if_neg hkept] at h
          obtain ⟨hzero, hone⟩ := lost_carry hfits hcarry hkept
          rw [hzero, hone]
          exact limbsAgree_of_lost hfactor h
      · rw [if_neg hfits] at h
        cases h

theorem isMultiple_iff (hfactor : 0 < factor) (h : losesCarry factor 0 (limbs v) = false) :
    isMultiple factor u v ↔ u = v * factor := by
  have htells := tells_of_losesCarry_eq_false (u := u) hfactor (by decide) h
  rw [isMultiple]
  cases hanswer : limbsAgree factor 0 (limbs u) (limbs v) with
  | none => rw [Option.getD_none, beq_iff_eq, eq_comm, Nat.mul_comm]
  | some b => exact htells b hanswer

theorem isMultiple_of_losesCarry (hfactor : 0 < factor) (h : losesCarry factor 0 (limbs v)) :
    isMultiple factor (v * factor) v = false := by
  have hanswer := limbsAgree_of_losesCarry hfactor (by decide) h
  rw [Nat.add_zero] at hanswer
  rw [isMultiple, hanswer, Option.getD_some]

end

theorem lt_of_mem_lowLimbs {count n : Nat} : ∀ v ∈ lowLimbs count n, v < limbSize := by
  induction count generalizing n with
  | zero => exact nofun
  | succ count ih =>
      intro v hv
      rcases List.mem_cons.mp hv with rfl | hmem
      · exact Nat.mod_lt n (by decide)
      · exact ih v hmem

/-- Of the powers of ten within a word, only the tenth has a multiple by a limb that lacks less
than a limb to the full word. -/
theorem add_lt_wordSize {shift v carry : Nat} (hshift : shift < 20) (hten : shift ≠ 10)
    (hv : v < limbSize) (hcarry : carry < limbSize) (hfits : v * 10 ^ shift < wordSize) :
    v * 10 ^ shift + carry < wordSize := by
  have hpowers : ∀ shift < 20, shift ≠ 10 →
      10 ^ shift < limbSize ∨ limbSize ≤ wordSize % 10 ^ shift := by decide
  rcases hpowers shift hshift hten with hsmall | hgap
  · calc
      v * 10 ^ shift + carry < v * 10 ^ shift + limbSize := Nat.add_lt_add_left hcarry _
      _ ≤ (limbSize - 1) * (limbSize - 1) + limbSize :=
        Nat.add_le_add_right (Nat.mul_le_mul (Nat.le_sub_one_of_lt hv)
          (Nat.le_sub_one_of_lt hsmall)) _
      _ ≤ wordSize := by decide
  · have hquotient : v ≤ wordSize / 10 ^ shift :=
      (Nat.le_div_iff_mul_le (Nat.pow_pos (by decide))).mpr (Nat.le_of_lt hfits)
    calc
      v * 10 ^ shift + carry < v * 10 ^ shift + limbSize := Nat.add_lt_add_left hcarry _
      _ ≤ wordSize / 10 ^ shift * 10 ^ shift + wordSize % 10 ^ shift :=
        Nat.add_le_add (Nat.mul_le_mul_right _ hquotient) hgap
      _ = wordSize := Nat.div_add_mod' _ _

theorem losesCarry_pow {shift : Nat} (hshift : shift < 20) (hten : shift ≠ 10) {carry : Nat}
    (hcarry : carry < limbSize) {vs : List Nat} (hvs : ∀ v ∈ vs, v < limbSize) :
    losesCarry (10 ^ shift) carry vs = false := by
  induction vs generalizing carry with
  | nil => rfl
  | cons v vs ih =>
      obtain ⟨hv, hvs⟩ := List.forall_mem_cons.mp hvs
      rw [losesCarry]
      split
      · rename_i hfits
        have hkept := add_lt_wordSize hshift hten hv hcarry hfits
        rw [if_pos hkept]
        exact ih (Nat.div_lt_of_lt_mul hkept) hvs
      · rfl

end Wayfinding.Number
