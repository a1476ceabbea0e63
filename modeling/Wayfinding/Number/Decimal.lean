import Wayfinding.Number.Integer
import Wayfinding.Number.Limbs

/-!
Decimals of any length: a coefficient and a scale, standing for `coefficient · 10 ^ -scale`.
Reading keeps every digit and the scale. Equality is meant for the numbers, so `1.0` and `1`
are equal and yet written differently. It is tested limb by limb where the scales differ by
fewer than 20 places, and misjudges the rare coefficients that lose a carry. Only scales ten
places apart can lose one: of the powers of ten that fit into a word, `10 ^ 10` alone has a
multiple by a limb that lacks less than a limb to a full word.
-/

namespace Wayfinding

structure Decimal where
  coefficient : Int
  scale : Int
  deriving Repr

namespace Decimal
open Number

/-- The scales that a decimal may have are those of a signed word of 64 bits. -/
def scaleInRange (scale : Int) : Bool :=
  -(wordBound : Int) ≤ scale && scale < wordBound

inductive Fault where
  | integer (fault : IntegerFault)
  | empty
  | exponentOverflow (text : String)
  deriving DecidableEq, Repr

def Fault.message : Fault → String
  | .integer fault => fault.message
  | .empty => "Failed to parse empty string"
  | .exponentOverflow text => "Exponent overflow when parsing '" ++ text ++ "'"

def isExponentMark (c : Char) : Bool := c == 'e' || c == 'E'

/-- The power of ten after the first exponent mark, or zero if there is no mark. -/
def readExponent (text : List Char) : Except IntegerFault Int :=
  match text.dropWhile (!isExponentMark ·) with
  | [] => .ok 0
  | _ :: exponent => readInteger longWordBound exponent

/-- The text without its first point, and how many places follow that point. Underscores
are no places, while every other character counts as one. -/
def removePoint (text : List Char) : List Char × Nat :=
  match text.dropWhile (· != '.') with
  | [] => (text, 0)
  | _ :: fraction =>
    (text.takeWhile (· != '.') ++ fraction, (fraction.filter (· != '_')).length)

/-- Digits with underscores between them; the first character must be a digit. -/
def readDigitGroups : List Char → Except IntegerFault Nat
  | [] => .error .empty
  | '_' :: _ => .error .invalidDigit
  | text =>
    if text.all fun c => c.isDigit || c == '_' then
      .ok (digitsValue (text.filter (· != '_')))
    else .error .invalidDigit

/-- A coefficient has at most one sign. -/
def readCoefficient : List Char → Except IntegerFault Int
  | '-' :: '+' :: _ => .error .invalidDigit
  | '+' :: '+' :: _ => .error .invalidDigit
  | '-' :: text => (readDigitGroups text).map fun n => -Int.ofNat n
  | '+' :: text => (readDigitGroups text).map Int.ofNat
  | text => (readDigitGroups text).map Int.ofNat

/-- Reads plain (`19.99`) and scientific (`1e3`) notation. Of several faults the exponent's
comes first, then an empty base, then the range of the scale, then the digits. -/
def read (text : String) : Except Fault Decimal :=
  let base := text.toList.takeWhile (!isExponentMark ·)
  match readExponent text.toList with
  | .error fault => .error (.integer fault)
  | .ok exponent =>
    if base.isEmpty then .error .empty
    else
      let (digits, places) := removePoint base
      let scale := (places : Int) - exponent
      if scaleInRange scale then
        match readCoefficient digits with
        | .error fault => .error (.integer fault)
        | .ok coefficient => .ok ⟨coefficient, scale⟩
      else .error (.exponentOverflow text)

/-- Whether `u` is `v · 10 ^ shift`, neither of them zero. If `u` has too few bits for that,
nothing more is tested, so a large shift costs nothing. A shift of fewer than 20 places is a
factor of one word and the test goes by limbs, with their lost carries; any other is exact. -/
def isShifted (u v shift : Nat) : Bool :=
  if u.log2 < shift then false
  else
    let power := Nat.pow 10 shift
    if u.log2 < v.log2 + power.log2 then false
    else if shift < 20 then isMultiple power u v
    else power * v == u

/-- Whether two decimals denote the same number, as `isShifted` tells it where their scales
differ: the one with the larger scale has the larger coefficient. -/
def equal (a b : Decimal) : Bool :=
  if a.scale = b.scale then a.coefficient == b.coefficient
  else if a.coefficient = 0 ∨ b.coefficient = 0 then a.coefficient == b.coefficient
  else if a.coefficient.sign ≠ b.coefficient.sign then false
  else if b.scale < a.scale then
    isShifted a.coefficient.natAbs b.coefficient.natAbs (a.scale - b.scale).toNat
  else
    isShifted b.coefficient.natAbs a.coefficient.natAbs (b.scale - a.scale).toNat

instance : BEq Decimal := ⟨equal⟩

def zeros (n : Nat) : List Char := List.replicate n '0'

/-- Digits with a point before the last `scale` of them, or in scientific notation where
more than five zeros would follow the point. -/
def writeFraction (digits : List Char) (scale : Nat) : List Char :=
  if digits.length + 5 < scale then
    let exponent := 'E' :: '-' :: Nat.toDigits 10 (scale - digits.length + 1)
    match digits with
    | first :: next :: rest => first :: '.' :: next :: rest ++ exponent
    | digits => digits ++ exponent
  else if scale < digits.length then
    digits.take (digits.length - scale) ++ '.' :: digits.drop (digits.length - scale)
  else
    '0' :: '.' :: zeros (scale - digits.length) ++ digits

/-- Digits followed by `count` zeros, which stand in an exponent if they are many. -/
def writeWhole (digits : List Char) (count : Nat) : List Char :=
  if 15 < count then digits ++ 'e' :: '+' :: Nat.toDigits 10 count
  else digits ++ zeros count

def writeMagnitude (digits : List Char) (scale : Int) : List Char :=
  if 0 < scale then writeFraction digits scale.toNat
  else writeWhole digits (-scale).toNat

def text (d : Decimal) : String :=
  if d.coefficient = 0 then "0"
  else
    let magnitude := writeMagnitude (Nat.toDigits 10 d.coefficient.natAbs) d.scale
    String.ofList (if d.coefficient < 0 then '-' :: magnitude else magnitude)

end Decimal
end Wayfinding
