/-!
Hexadecimal digits. Reading takes either case; writing is in lower case for escapes in
quoted text and in upper case for addresses.
-/

namespace Wayfinding.Text

def hexValue? (c : Char) : Option Nat :=
  if '0' ≤ c ∧ c ≤ '9' then some (c.toNat - 48)
  else if 'a' ≤ c ∧ c ≤ 'f' then some (c.toNat - 87)
  else if 'A' ≤ c ∧ c ≤ 'F' then some (c.toNat - 55)
  else none

def upperHexDigit (n : Nat) : Char :=
  Char.ofNat (if n < 10 then n + 48 else n + 55)

/-- The number in lower-case digits without leading zeros. -/
def lowerHex (n : Nat) : List Char :=
  Nat.toDigits 16 n

theorem hexValue?_upperHexDigit {n : Nat} (h : n < 16) :
    hexValue? (upperHexDigit n) = some n := by
  revert n
  decide

end Wayfinding.Text
