import Wayfinding.Number.Integer

/-!
Integers as they are written: an optional sign and digits, as many as one likes. Reading takes
exactly these texts, as far as the number fits the word, and gives the number that the digits
denote. The text in which a number is printed is one of them.
-/

namespace Wayfinding.Number

/-- One or more digits. -/
def IsWhole (digits : List Char) : Prop :=
  digits ≠ [] ∧ ∀ c ∈ digits, c.isDigit

instance (digits : List Char) : Decidable (IsWhole digits) :=
  decidable_of_iff (digits ≠ [] ∧ digits.all Char.isDigit) (by rw [IsWhole, List.all_eq_true])

inductive Sign where
  | absent
  | plus
  | minus
  deriving DecidableEq, Repr

namespace Sign

def chars : Sign → List Char
  | absent => []
  | plus => ['+']
  | minus => ['-']

def apply : Sign → Nat → Int
  | absent, n | plus, n => n
  | minus, n => -n

end Sign

/-- The numbers of a signed word that has `bound` of them below zero. -/
def Fits (bound : Nat) (n : Int) : Prop :=
  -(bound : Int) ≤ n ∧ n < bound

instance (bound : Nat) (n : Int) : Decidable (Fits bound n) :=
  inferInstanceAs (Decidable (_ ∧ _))

theorem digitsValue_eq_ofDigitChars (digits : List Char) :
    digitsValue digits = Nat.ofDigitChars 10 digits 0 := by
  rw [Nat.ofDigitChars_eq_foldl]
  rfl

theorem digitsValue_toDigits (n : Nat) : digitsValue (Nat.toDigits 10 n) = n := by
  rw [digitsValue_eq_ofDigitChars, Nat.ofDigitChars_ten_toDigits]

theorem isWhole_toDigits (n : Nat) : IsWhole (Nat.toDigits 10 n) :=
  ⟨Nat.toDigits_ne_nil, fun _ hc => Nat.isDigit_of_mem_toDigits (by decide) (by decide) hc⟩

/-- A number does not get smaller by the digits that follow. -/
theorem le_ofDigitChars (n : Nat) (digits : List Char) : n ≤ Nat.ofDigitChars 10 digits n := by
  rw [Nat.ofDigitChars_eq_ofDigitChars_zero]
  exact Nat.le_add_right_of_le (Nat.le_mul_of_pos_left n (Nat.pow_pos (by decide)))

theorem readDigits_cons (limit n : Nat) (overflow : IntegerFault) (c : Char)
    (text : List Char) :
    readDigits limit overflow n (c :: text) =
      if c.isDigit then
        if 10 * n + digitValue c ≤ limit then
          readDigits limit overflow (10 * n + digitValue c) text
        else .error overflow
      else .error .invalidDigit := rfl

theorem readDigits_eq_ok_iff {limit n m : Nat} {overflow : IntegerFault} (hn : n ≤ limit)
    {text : List Char} :
    readDigits limit overflow n text = .ok m ↔
      (∀ c ∈ text, c.isDigit) ∧ m = Nat.ofDigitChars 10 text n ∧ m ≤ limit := by
  induction text generalizing n with
  | nil =>
      simp only [readDigits, Except.ok.injEq, List.not_mem_nil, false_implies, implies_true,
        Nat.ofDigitChars_nil, true_and]
      constructor
      · rintro rfl
        exact ⟨rfl, hn⟩
      · exact fun h => h.1.symm
  | cons c text ih =>
      have hcons : Nat.ofDigitChars 10 (c :: text) n =
          Nat.ofDigitChars 10 text (10 * n + digitValue c) := Nat.ofDigitChars_cons
      rw [readDigits_cons, List.forall_mem_cons, hcons]
      split
      · rename_i hdigit
        split
        · rename_i hle
          rw [ih hle, and_iff_right hdigit]
        · rename_i hgt
          refine iff_of_false nofun ?_
          rintro ⟨-, rfl, hle⟩
          exact hgt (Nat.le_trans (le_ofDigitChars _ text) hle)
      · rename_i hdigit
        exact iff_of_false nofun fun h => hdigit h.1.1

theorem readMagnitude_eq_ok_iff {limit n : Nat} {overflow : IntegerFault} {text : List Char} :
    readMagnitude limit overflow text = .ok n ↔
      IsWhole text ∧ n = digitsValue text ∧ n ≤ limit := by
  rw [digitsValue_eq_ofDigitChars]
  cases text with
  | nil => exact iff_of_false nofun fun h => h.1.1 rfl
  | cons c text =>
      rw [IsWhole, and_iff_right (List.cons_ne_nil c text)]
      exact readDigits_eq_ok_iff (Nat.zero_le limit)

theorem map_readMagnitude_eq_ok_iff {limit : Nat} {overflow : IntegerFault} {text : List Char}
    {f : Nat → Int} {n : Int} :
    (readMagnitude limit overflow text).map f = .ok n ↔
      IsWhole text ∧ n = f (digitsValue text) ∧ digitsValue text ≤ limit := by
  constructor
  · intro h
    cases hread : readMagnitude limit overflow text with
    | error fault =>
        rw [hread] at h
        cases h
    | ok m =>
        obtain ⟨hwhole, rfl, hle⟩ := readMagnitude_eq_ok_iff.mp hread
        rw [hread] at h
        exact ⟨hwhole, (Except.ok.inj h).symm, hle⟩
  · rintro ⟨hwhole, rfl, hle⟩
    rw [readMagnitude_eq_ok_iff.mpr ⟨hwhole, rfl, hle⟩]
    rfl

theorem Sign.fits_apply_iff {bound n : Nat} (hbound : 0 < bound) {sign : Sign} :
    Fits bound (sign.apply n) ↔ n ≤ if sign = minus then bound else bound - 1 := by
  cases sign <;> simp only [apply, Fits, reduceCtorEq, if_true, if_false] <;> omega

/-- No sign stands where one might follow. -/
def Sign.Precedes : Sign → List Char → Prop
  | absent, text => ∀ c ∈ text.head?, c ≠ '+' ∧ c ≠ '-'
  | plus, _ | minus, _ => True

theorem Sign.precedes_of_isWhole {digits : List Char} (h : IsWhole digits) (sign : Sign) :
    sign.Precedes digits := by
  cases sign with
  | plus | minus => trivial
  | absent =>
      intro c hc
      have hdigit := h.2 c (List.mem_of_head? hc)
      constructor <;> rintro rfl <;> contradiction

theorem Sign.exists_precedes (text : List Char) :
    ∃ (sign : Sign) (rest : List Char), text = sign.chars ++ rest ∧ sign.Precedes rest := by
  cases text with
  | nil => exact ⟨absent, [], rfl, nofun⟩
  | cons c rest =>
      by_cases hplus : c = '+'
      · subst hplus
        exact ⟨plus, rest, rfl, trivial⟩
      · by_cases hminus : c = '-'
        · subst hminus
          exact ⟨minus, rest, rfl, trivial⟩
        · refine ⟨absent, c :: rest, rfl, ?_⟩
          rintro _ ⟨⟩
          exact ⟨hplus, hminus⟩

theorem readInteger_append_eq_ok_iff {bound : Nat} (hbound : 0 < bound) {sign : Sign}
    {text : List Char} (h : sign.Precedes text) {n : Int} :
    readInteger bound (sign.chars ++ text) = .ok n ↔
      IsWhole text ∧ n = sign.apply (digitsValue text) ∧ Fits bound n := by
  have hread : ∀ {limit overflow}, (limit = if sign = .minus then bound else bound - 1) →
      ((readMagnitude limit overflow text).map sign.apply = .ok n ↔
        IsWhole text ∧ n = sign.apply (digitsValue text) ∧ Fits bound n) := by
    rintro _ overflow rfl
    rw [map_readMagnitude_eq_ok_iff, ← Sign.fits_apply_iff hbound]
    refine and_congr_right fun _ => and_congr_right fun hn => ?_
    rw [hn]
  cases sign with
  | plus | minus => exact hread rfl
  | absent =>
      cases text with
      | nil => exact iff_of_false nofun fun hwhole => hwhole.1.1 rfl
      | cons c text =>
          obtain ⟨hplus, hminus⟩ := h c rfl
          have hdefault : readInteger bound (c :: text) =
              (readMagnitude (bound - 1) .tooLarge (c :: text)).map Int.ofNat := by
            simp [readInteger, hplus, hminus]
          rw [Sign.chars, List.nil_append, hdefault]
          exact hread rfl

/-- The texts that read as an integer. -/
theorem readInteger_eq_ok_iff {bound : Nat} (hbound : 0 < bound) {text : List Char} {n : Int} :
    readInteger bound text = .ok n ↔ ∃ (sign : Sign) (digits : List Char),
      text = sign.chars ++ digits ∧ IsWhole digits ∧ n = sign.apply (digitsValue digits) ∧
        Fits bound n := by
  constructor
  · intro h
    obtain ⟨sign, rest, rfl, hrest⟩ := Sign.exists_precedes text
    exact ⟨sign, rest, rfl, (readInteger_append_eq_ok_iff hbound hrest).mp h⟩
  · rintro ⟨sign, digits, rfl, hwhole, h⟩
    exact (readInteger_append_eq_ok_iff hbound (sign.precedes_of_isWhole hwhole)).mpr ⟨hwhole, h⟩

/-- The sign of a printed number. -/
def Sign.ofInt (n : Int) : Sign := if n < 0 then minus else absent

theorem Sign.apply_ofInt (n : Int) : (ofInt n).apply n.natAbs = n := by
  rw [ofInt]
  split <;> simp only [apply] <;> omega

theorem Sign.apply_mul (sign : Sign) (n m : Nat) : sign.apply (n * m) = sign.apply n * m := by
  cases sign with
  | absent | plus => exact Int.natCast_mul n m
  | minus => rw [apply, apply, Int.natCast_mul, Int.neg_mul]

theorem toList_toString_int (n : Int) :
    (toString n).toList = (Sign.ofInt n).chars ++ Nat.toDigits 10 n.natAbs := by
  cases n with
  | ofNat n => exact Nat.toList_repr
  | negSucc n =>
      have htext : toString (Int.negSucc n) = "-" ++ Nat.repr (n + 1) := rfl
      have hsign : Sign.ofInt (Int.negSucc n) = .minus := if_pos (Int.negSucc_lt_zero n)
      rw [htext, hsign, String.toList_append, Nat.toList_repr]
      rfl

theorem readInteger_toString {bound : Nat} (hbound : 0 < bound) {n : Int} (h : Fits bound n) :
    readInteger bound (toString n).toList = .ok n := by
  rw [readInteger_eq_ok_iff hbound]
  refine ⟨Sign.ofInt n, Nat.toDigits 10 n.natAbs, toList_toString_int n, isWhole_toDigits _, ?_, h⟩
  rw [digitsValue_toDigits, Sign.apply_ofInt]

end Wayfinding.Number
