/-!
The shortest decimal that reads back as a given binary number. All reals nearer to the
number than to its neighbours form an interval; for one digit, two digits and so on, the
grid points on either side of the number are tried until one lies in that interval.
-/

namespace Wayfinding.Number

/-- The positive number `mantissa · 2 ^ exponent`, stored with 53 bits. -/
structure Binary where
  mantissa : Nat
  exponent : Int

/-- The mantissas of 53 bits, the highest one set, start here. -/
def leastMantissa : Nat := 4503599627370496

def Binary.ofBits (bits : Nat) : Binary :=
  let stored := bits / leastMantissa % 2048
  let fraction := bits % leastMantissa
  if stored = 0 then ⟨fraction, -1074⟩ else ⟨fraction + leastMantissa, stored - 1075⟩

/-- Digits and the power of ten that the last of them counts. -/
structure Digits where
  digits : List Char
  exponent : Int

/-- A number with the ends of its interval, as numerators over one denominator. -/
structure Rounding where
  low : Nat
  value : Nat
  high : Nat
  denominator : Nat
  inclusive : Bool

namespace Rounding

/-- Below a power of two the neighbour is half as far away as above. -/
def ofBinary (b : Binary) : Rounding :=
  let up := Nat.pow 2 b.exponent.toNat
  let below := if b.mantissa = leastMantissa ∧ b.exponent ≠ -1074 then 1 else 2
  { low := (4 * b.mantissa - below) * up
    value := 4 * b.mantissa * up
    high := (4 * b.mantissa + 2) * up
    denominator := 4 * Nat.pow 2 (-b.exponent).toNat
    inclusive := b.mantissa % 2 = 0 }

/-- The power of ten of the value's first digit. -/
def magnitude (r : Rounding) : Int :=
  if r.denominator ≤ r.value then
    (Nat.toDigits 10 (r.value / r.denominator)).length - 1
  else
    -(Nat.toDigits 10 ((r.denominator - 1) / r.value)).length

/-- The same interval in units of a power of ten. -/
def inUnits (r : Rounding) (power : Int) : Rounding :=
  let scale := Nat.pow 10 (-power).toNat
  { r with
    low := r.low * scale
    value := r.value * scale
    high := r.high * scale
    denominator := r.denominator * Nat.pow 10 power.toNat }

def contains (r : Rounding) (n : Nat) : Bool :=
  let point := n * r.denominator
  if r.inclusive then r.low ≤ point && point ≤ r.high
  else r.low < point && point < r.high

/-- The whole number of the interval that is next to the value: the nearer one, or the even
one of two that are as near. -/
def nearest? (r : Rounding) : Option Nat :=
  let below := r.value / r.denominator
  let rest := r.value % r.denominator
  let up := r.denominator < 2 * rest || (r.denominator == 2 * rest && below % 2 == 1)
  match r.contains below, r.contains (below + 1) with
  | true, true => some (if up then below + 1 else below)
  | true, false => some below
  | false, true => some (below + 1)
  | false, false => none

/-- The digits of a number without the zeros at their end. -/
def dropZeros (n : Nat) (power : Int) : Digits :=
  let digits := Nat.toDigits 10 n
  let kept := (digits.reverse.dropWhile (· == '0')).reverse
  ⟨kept, power + (digits.length - kept.length : Nat)⟩

/-- Tries grids of one digit and more. The upper neighbour may be a power of ten, which is a
digit longer than the grid asks for. -/
def search (r : Rounding) : Nat → Nat → Digits
  | 0, _ => ⟨[], 0⟩
  | fuel + 1, places =>
    let power := r.magnitude - places
    match (r.inUnits power).nearest? with
    | some n => dropZeros n power
    | none => search r fuel (places + 1)

end Rounding

/-- Seventeen digits tell any two binary numbers apart. -/
def shortest (b : Binary) : Digits :=
  (Rounding.ofBinary b).search 17 0

end Wayfinding.Number
