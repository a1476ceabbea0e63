/-!
Natural numbers as limbs of 32 bits, the least first, and a test whether one number is a
multiple of another by a given factor. The test takes one limb after the other and works in
words of 64 bits. A product and the carry from the limb below are added in one word, and what
that sum has above the word is lost. So the test is not exact: it refuses some multiples and
accepts some other numbers, all of them with a limb whose product nearly fills the word.
-/

namespace Wayfinding.Number

/-- How many numbers a limb of 32 bits can hold. -/
def limbSize : Nat := 4294967296

/-- How many numbers a word of 64 bits can hold. -/
def wordSize : Nat := 18446744073709551616

/-- The limbs that a number needs; zero needs none. -/
def limbCount (n : Nat) : Nat := if n = 0 then 0 else n.log2 / 32 + 1

/-- The lowest limbs of a number, as many as asked for. -/
def lowLimbs : Nat → Nat → List Nat
  | 0, _ => []
  | count + 1, n => n % limbSize :: lowLimbs count (n / limbSize)

def limbs (n : Nat) : List Nat := lowLimbs (limbCount n) n

/-- Whether the limbs `us` are those of `factor` times `vs`, plus a carry from the limbs
below. There is no answer if a product alone exceeds the word. -/
def limbsAgree (factor : Nat) : Nat → List Nat → List Nat → Option Bool
  | carry, [], [] => some (carry == 0)
  | _, [], _ :: _ => some false
  | carry, u :: us, [] => if u = carry then limbsAgree factor 0 us [] else some false
  | carry, u :: us, v :: vs =>
    if v * factor < wordSize then
      let sum := (v * factor + carry) % wordSize
      if u = sum % limbSize then limbsAgree factor (sum / limbSize) us vs else some false
    else none

/-- Whether `u` is `factor` times `v`, limb by limb as far as the products fit into words; if
one does not, the numbers themselves are compared. -/
def isMultiple (factor u v : Nat) : Bool :=
  (limbsAgree factor 0 (limbs u) (limbs v)).getD (factor * v == u)

end Wayfinding.Number
