/-!
Integers written in decimal: an optional sign and one or more ASCII digits, leading zeros
allowed, within the range of a signed word.
-/

namespace Wayfinding.Number

/-- Why a text is no integer of the range asked for. -/
inductive IntegerFault where
  | empty
  | invalidDigit
  | tooLarge
  | tooSmall
  deriving DecidableEq, Repr

def IntegerFault.message : IntegerFault → String
  | .empty => "cannot parse integer from empty string"
  | .invalidDigit => "invalid digit found in string"
  | .tooLarge => "number too large to fit in target type"
  | .tooSmall => "number too small to fit in target type"

def digitValue (c : Char) : Nat := c.toNat - 48

/-- The number that a text of digits denotes. -/
def digitsValue (digits : List Char) : Nat :=
  digits.foldl (fun n c => 10 * n + digitValue c) 0

/-- Reads digits after `n`, up to a limit. Reading stops at the first character that is no
digit or takes the number over the limit, whichever comes first. -/
def readDigits (limit : Nat) (overflow : IntegerFault) :
    Nat → List Char → Except IntegerFault Nat
  | n, [] => .ok n
  | n, c :: rest =>
    if c.isDigit then
      let m := 10 * n + digitValue c
      if m ≤ limit then readDigits limit overflow m rest else .error overflow
    else .error .invalidDigit

/-- Reads the digits of a number; there must be at least one. -/
def readMagnitude (limit : Nat) (overflow : IntegerFault) : List Char → Except IntegerFault Nat
  | [] => .error .invalidDigit
  | digits => readDigits limit overflow 0 digits

/-- How many numbers below zero a signed word of 64 bits has. -/
def wordBound : Nat := 9223372036854775808

/-- How many numbers below zero a signed word of 128 bits has. -/
def longWordBound : Nat := 170141183460469231731687303715884105728

/-- Reads a number from `-bound` to `bound - 1`. -/
def readInteger (bound : Nat) : List Char → Except IntegerFault Int
  | [] => .error .empty
  | '-' :: digits => (readMagnitude bound .tooSmall digits).map fun n => -Int.ofNat n
  | '+' :: digits => (readMagnitude (bound - 1) .tooLarge digits).map Int.ofNat
  | digits => (readMagnitude (bound - 1) .tooLarge digits).map Int.ofNat

end Wayfinding.Number
