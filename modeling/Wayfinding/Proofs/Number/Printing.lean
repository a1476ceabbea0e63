import Wayfinding.Proofs.Number.Equality

/-!
Decimals in print. In each layout that a decimal may be printed in, the text is a numeral, and
reading it gives back the digits and the scale. Only zeros that are printed in place of a power of
ten become digits, and zero itself loses its scale.
-/

namespace Wayfinding.Decimal
open Number

theorem Numeral.read_eq_ok (s : Numeral) {text : List Char} {d : Decimal}
    (htext : s.base ++ s.tail = text) (hpower : Fits longWordBound s.power)
    (hscale : s.scale = d.scale) (hfits : Fits wordBound d.scale)
    (hcoefficient : s.coefficient = d.coefficient) :
    read (String.ofList text) = .ok d := by
  rw [← htext]
  refine s.read_text_eq_ok_iff.mpr ⟨⟨hpower, ?_⟩, ?_⟩
  · rw [hscale]
    exact hfits
  · rw [Numeral.decimal, hscale, hcoefficient]

theorem isDigit_of_mem_zeros (count : Nat) : ∀ c ∈ zeros count, c.isDigit := by
  intro c hc
  rw [List.eq_of_mem_replicate hc]
  rfl

theorem isWhole_append_zeros {digits : List Char} (h : IsWhole digits) (count : Nat) :
    IsWhole (digits ++ zeros count) :=
  ⟨List.append_ne_nil_of_left_ne_nil h.1 _,
    List.forall_mem_append.mpr ⟨h.2, isDigit_of_mem_zeros count⟩⟩

theorem isWhole_zeros_append {digits : List Char} (h : IsWhole digits) (count : Nat) :
    IsWhole (zeros count ++ digits) :=
  ⟨List.append_ne_nil_of_right_ne_nil _ h.1,
    List.forall_mem_append.mpr ⟨isDigit_of_mem_zeros count, h.2⟩⟩

theorem digitsValue_append_zeros (digits : List Char) (count : Nat) :
    digitsValue (digits ++ zeros count) = digitsValue digits * 10 ^ count := by
  rw [digitsValue_eq_ofDigitChars, digitsValue_eq_ofDigitChars, zeros, Nat.ofDigitChars_append,
    Nat.ofDigitChars_replicate_zero, Nat.mul_comm]

theorem digitsValue_zeros_append (digits : List Char) (count : Nat) :
    digitsValue (zeros count ++ digits) = digitsValue digits := by
  rw [digitsValue_eq_ofDigitChars, digitsValue_eq_ofDigitChars, zeros, Nat.ofDigitChars_append,
    Nat.ofDigitChars_replicate_zero, Nat.mul_zero]

/-- An exponent as it is printed. -/
def Exponent.printed (mark : Char) (hmark : isExponentMark mark) (sign : Sign) (n : Nat) :
    Exponent :=
  ⟨mark, sign, Nat.toDigits 10 n, hmark, isWhole_toDigits n⟩

theorem Exponent.power_printed {mark : Char} {hmark : isExponentMark mark} {sign : Sign} {n : Nat} :
    (printed mark hmark sign n).power = sign.apply n :=
  congrArg sign.apply (digitsValue_toDigits n)

section Layouts

variable (sign : Sign) {digits : List Char} (hdigits : IsWhole digits)

include hdigits

section Fraction

variable {scale : Nat} (hfits : Fits wordBound scale)

include hfits

/-- As in `1.23E-7`: the places are those of the fraction and of the power together. -/
theorem read_scientific (hlong : digits.length + 5 < scale) :
    read (String.ofList (sign.chars ++ writeFraction digits scale)) =
      .ok ⟨sign.apply (digitsValue digits), scale⟩ := by
  have hpower : Fits longWordBound (Sign.minus.apply (scale - digits.length + 1)) := by
    simp only [Fits, wordBound, longWordBound, Sign.apply] at hfits ⊢
    omega
  rw [writeFraction, if_pos hlong]
  cases digits with
  | nil => exact absurd rfl hdigits.1
  | cons first digits =>
      cases digits with
      | nil =>
          refine Numeral.read_eq_ok
            ⟨sign, [first], none, some (.printed 'E' (by decide) .minus _), hdigits⟩
            (List.append_assoc ..) ?_ ?_ hfits rfl
          · rw [Numeral.power, Option.elim_some, Exponent.power_printed]
            exact hpower
          · simp only [Numeral.scale, Numeral.places, Numeral.power, Option.elim_some,
              Exponent.power_printed, Sign.apply, Option.getD_none, List.length_nil,
              List.length_cons] at hlong ⊢
            omega
      | cons next rest =>
          refine Numeral.read_eq_ok
            ⟨sign, [first], some (next :: rest), some (.printed 'E' (by decide) .minus _), hdigits⟩
            (List.append_assoc ..) ?_ ?_ hfits rfl
          · rw [Numeral.power, Option.elim_some, Exponent.power_printed]
            exact hpower
          · simp only [Numeral.scale, Numeral.places, Numeral.power, Option.elim_some,
              Exponent.power_printed, Sign.apply, Option.getD_some, List.length_cons] at hlong ⊢
            omega

/-- As in `19.99`. -/
theorem read_pointed (hlong : ¬ digits.length + 5 < scale) (hwithin : scale < digits.length) :
    read (String.ofList (sign.chars ++ writeFraction digits scale)) =
      .ok ⟨sign.apply (digitsValue digits), scale⟩ := by
  have hsplit := List.take_append_drop (digits.length - scale) digits
  have hlength : (digits.drop (digits.length - scale)).length = scale := by
    rw [List.length_drop]
    omega
  rw [writeFraction, if_neg hlong, if_pos hwithin]
  refine Numeral.read_eq_ok ⟨sign, digits.take (digits.length - scale),
    some (digits.drop (digits.length - scale)), none, ?_⟩ ?_ ?_ ?_ hfits ?_
  · rw [Option.getD_some, hsplit]
    exact hdigits
  · exact List.append_nil _
  · exact (by decide : Fits longWordBound 0)
  · simp [Numeral.scale, Numeral.places, Numeral.power, hlength]
  · exact congrArg (sign.apply ∘ digitsValue) hsplit

/-- As in `0.0015`: the zeros before the digits are places, but count for nothing. -/
theorem read_led (hlong : ¬ digits.length + 5 < scale) (hbeyond : ¬ scale < digits.length) :
    read (String.ofList (sign.chars ++ writeFraction digits scale)) =
      .ok ⟨sign.apply (digitsValue digits), scale⟩ := by
  have hlength : (zeros (scale - digits.length) ++ digits).length = scale := by
    rw [List.length_append, zeros, List.length_replicate]
    omega
  rw [writeFraction, if_neg hlong, if_neg hbeyond]
  refine Numeral.read_eq_ok ⟨sign, ['0'], some (zeros (scale - digits.length) ++ digits), none,
    isWhole_zeros_append hdigits (scale - digits.length + 1)⟩ ?_ ?_ ?_ hfits ?_
  · exact List.append_nil _
  · exact (by decide : Fits longWordBound 0)
  · simp only [Numeral.scale, Numeral.places, Numeral.power, Option.elim_none, Option.getD_some,
      hlength, Int.sub_zero]
  · exact congrArg sign.apply (digitsValue_zeros_append digits (scale - digits.length + 1))

theorem read_writeFraction :
    read (String.ofList (sign.chars ++ writeFraction digits scale)) =
      .ok ⟨sign.apply (digitsValue digits), scale⟩ := by
  by_cases hlong : digits.length + 5 < scale
  · exact read_scientific sign hdigits hfits hlong
  · by_cases hwithin : scale < digits.length
    · exact read_pointed sign hdigits hfits hlong hwithin
    · exact read_led sign hdigits hfits hlong hwithin

end Fraction

variable {count : Nat}

/-- As in `15e+16`. -/
theorem read_raised (hfits : Fits wordBound (-count : Int)) (hmany : 15 < count) :
    read (String.ofList (sign.chars ++ writeWhole digits count)) =
      .ok ⟨sign.apply (digitsValue digits), -count⟩ := by
  have hpower : Fits longWordBound (Sign.plus.apply count) := by
    simp only [Fits, wordBound, longWordBound, Sign.apply] at hfits ⊢
    omega
  rw [writeWhole, if_pos hmany]
  refine Numeral.read_eq_ok ⟨sign, digits, none, some (.printed 'e' (by decide) .plus count), ?_⟩
    ?_ ?_ ?_ hfits ?_
  · rw [Option.getD_none, List.append_nil]
    exact hdigits
  · simp [Numeral.base, Numeral.tail, Exponent.chars, Exponent.printed, Sign.chars]
  · rw [Numeral.power, Option.elim_some, Exponent.power_printed]
    exact hpower
  · simp [Numeral.scale, Numeral.places, Numeral.power, Exponent.power_printed, Sign.apply]
  · exact congrArg (sign.apply ∘ digitsValue) (List.append_nil digits)

/-- As in `1500` for `15e2`: here the zeros become digits. -/
theorem read_extended (hfew : ¬ 15 < count) :
    read (String.ofList (sign.chars ++ writeWhole digits count)) =
      .ok ⟨sign.apply (digitsValue digits * 10 ^ count), 0⟩ := by
  rw [writeWhole, if_neg hfew]
  refine Numeral.read_eq_ok ⟨sign, digits ++ zeros count, none, none, ?_⟩ ?_ ?_ rfl ?_ ?_
  · rw [Option.getD_none, List.append_nil]
    exact isWhole_append_zeros hdigits count
  · simp [Numeral.base, Numeral.tail]
  · exact (by decide : Fits longWordBound 0)
  · exact (by decide : Fits wordBound 0)
  · rw [← digitsValue_append_zeros]
    exact congrArg (sign.apply ∘ digitsValue) (List.append_nil _)

end Layouts

theorem text_of_ne_zero {d : Decimal} (h : d.coefficient ≠ 0) :
    d.text = String.ofList ((Sign.ofInt d.coefficient).chars ++
      writeMagnitude (Nat.toDigits 10 d.coefficient.natAbs) d.scale) := by
  rw [text, if_neg h, Sign.ofInt]
  split <;> rfl

/-- What is read where a decimal was printed. -/
def restored (d : Decimal) : Decimal :=
  if d.coefficient = 0 ∨ -15 ≤ d.scale ∧ d.scale ≤ 0 then
    ⟨d.coefficient * 10 ^ (-d.scale).toNat, 0⟩
  else d

theorem read_text {d : Decimal} (hfits : Fits wordBound d.scale) :
    read d.text = .ok d.restored := by
  by_cases hzero : d.coefficient = 0
  · rw [text, if_pos hzero, restored, if_pos (.inl hzero), hzero, Int.zero_mul]
    rfl
  · have hdigits := isWhole_toDigits d.coefficient.natAbs
    have hvalue := digitsValue_toDigits d.coefficient.natAbs
    have hsign := Sign.apply_ofInt d.coefficient
    rw [text_of_ne_zero hzero, writeMagnitude]
    split
    · rename_i hpositive
      have hscale : (d.scale.toNat : Int) = d.scale := by omega
      have hnatural : Fits wordBound d.scale.toNat := by rwa [hscale]
      rw [read_writeFraction _ hdigits hnatural, hvalue, hsign, hscale, restored,
        if_neg (by omega)]
    · rename_i hpositive
      have hscale : -((-d.scale).toNat : Int) = d.scale := by omega
      by_cases hmany : 15 < (-d.scale).toNat
      · have hnatural : Fits wordBound (-((-d.scale).toNat : Int)) := by rwa [hscale]
        rw [read_raised _ hdigits hnatural hmany, hvalue, hsign, hscale, restored,
          if_neg (by omega)]
      · rw [read_extended _ hdigits hmany, hvalue, Sign.apply_mul, hsign, restored,
          if_pos (by omega)]
        norm_cast

theorem value_restored (d : Decimal) : d.restored.value = d.value := by
  rw [restored]
  split
  · rename_i hwhole
    by_cases hzero : d.coefficient = 0
    · simp [value, hzero]
    · have hscale : (0 : Int) = d.scale + (-d.scale).toNat := by omega
      exact (value_eq_value_iff hscale).mpr rfl
  · rfl

theorem carryLost_restored_iff {d : Decimal} :
    CarryLost d.restored d ↔ d.scale = -10 ∧ Falters d.coefficient := by
  rw [restored]
  split
  · rename_i hwhole
    constructor
    · rintro (⟨hscale, hfalters⟩ | ⟨hscale, hfalters⟩)
      · have hscale : 0 = d.scale + 10 := hscale
        exact ⟨by omega, hfalters⟩
      · have hscale : d.scale = 0 + 10 := hscale
        have hzero : d.coefficient = 0 := by omega
        exact absurd (by simp [hzero]) hfalters.ne_zero
    · rintro ⟨hscale, hfalters⟩
      have hten : 0 = d.scale + 10 := by omega
      exact .inl ⟨hten, hfalters⟩
  · rename_i hwhole
    have hten : d.scale ≠ -10 := by omega
    constructor
    · rintro (⟨hscale, -⟩ | ⟨hscale, -⟩) <;> omega
    · exact fun h => absurd h.1 hten

end Wayfinding.Decimal
