import Wayfinding.Json.Fault
import Wayfinding.Number.Integer
import Wayfinding.Number.Shortest

/-!
JSON numerals: their grammar, one character at a time, and the numbers they denote. A number
is an integer if it fits a word of 64 bits and is written as one; otherwise it is a binary
number, found from the first nineteen or twenty digits and a power of ten.
-/

namespace Wayfinding.Json

/-- How far into a numeral reading has come. -/
inductive NumeralPhase where
  | sign
  | zero
  | whole
  | point
  | fraction
  | mark
  | markSign
  | exponent
  deriving DecidableEq, Repr

namespace NumeralPhase

def start? (c : Char) : Option NumeralPhase :=
  if c = '-' then some sign
  else if c = '0' then some zero
  else if c.isDigit then some whole
  else none

/-- The phase after one character more, if the character goes on with the numeral. -/
def next? (phase : NumeralPhase) (c : Char) : Option NumeralPhase :=
  let isMark := c = 'e' ∨ c = 'E'
  match phase with
  | sign => if c = '0' then some zero else if c.isDigit then some whole else none
  | zero => if c = '.' then some point else if isMark then some mark else none
  | whole =>
    if c.isDigit then some whole
    else if c = '.' then some point
    else if isMark then some mark
    else none
  | point => if c.isDigit then some fraction else none
  | fraction => if c.isDigit then some fraction else if isMark then some mark else none
  | mark =>
    if c.isDigit then some exponent else if c = '+' ∨ c = '-' then some markSign else none
  | markSign | exponent => if c.isDigit then some exponent else none

/-- Whether a numeral may end here. -/
def isComplete : NumeralPhase → Bool
  | zero | whole | fraction | exponent => true
  | sign | point | mark | markSign => false

/-- Whether a character that does not go on with the numeral may follow it. No digit follows
a leading zero. -/
def mayEndBefore (phase : NumeralPhase) (c : Char) : Bool :=
  phase.isComplete && !(phase == zero && c.isDigit)

end NumeralPhase

inductive Number where
  | integer (n : Int)
  | real (x : Float)

/-- Takes digits into a significand as long as it fits a word of 64 bits, and returns the
digits that are left. -/
def takeSignificand : Nat → List Char → Nat × List Char
  | n, [] => (n, [])
  | n, c :: rest =>
    let m := 10 * n + Number.digitValue c
    if m < 2 * Number.wordBound then takeSignificand m rest else (n, c :: rest)

/-- Divides by ten as often as `power` says, in steps that each fit a binary number. -/
def divideByTens (x : Float) (power : Nat) : Float :=
  if power ≤ 308 then x / Float.ofScientific 1 false power
  else if x == 0.0 then x
  else divideByTens (x / Float.ofScientific 1 false 308) (power - 308)
termination_by power

/-- The binary number near `significand · 10 ^ power`. -/
def scale (significand : Nat) (power : Int) : Except Fault Float :=
  let x := (UInt64.ofNat significand).toFloat
  if power < 0 then .ok (divideByTens x (-power).toNat)
  else if significand = 0 then .ok x
  else if 308 < power then .error .numberOutOfRange
  else
    let y := x * Float.ofScientific 1 false power.toNat
    if y.isInf then .error .numberOutOfRange else .ok y

/-- The power of ten in the exponent of a numeral, and whether there is one. -/
def readPower : List Char → Option (Bool × Nat)
  | [] => none
  | _ :: '-' :: digits => some (true, Number.digitsValue digits)
  | _ :: '+' :: digits => some (false, Number.digitsValue digits)
  | _ :: digits => some (false, Number.digitsValue digits)

/-- The largest power of ten that an exponent may name. -/
def powerLimit : Nat := 2147483647

/-- The number that a numeral without its sign denotes. -/
def readReal (negative : Bool) (significand : Nat) (power : Int) (exponent : List Char) :
    Except Fault Float := do
  let magnitude ←
    match readPower exponent with
    | none => scale significand power
    | some (down, n) =>
      if n ≤ powerLimit then
        scale significand (if down then power - Int.ofNat n else power + Int.ofNat n)
      else if significand ≠ 0 ∧ !down then throw .numberOutOfRange
      else pure 0.0
  pure (if negative then -magnitude else magnitude)

/-- The number that a complete numeral denotes. -/
def readNumeral (numeral : List Char) : Except Fault Number := do
  let negative := numeral.head? = some '-'
  let body := if negative then numeral.tail else numeral
  let (significand, dropped) := takeSignificand 0 (body.takeWhile Char.isDigit)
  let power := (dropped.length : Int)
  match body.dropWhile Char.isDigit with
  | [] =>
    if dropped.isEmpty && !negative then pure (.integer significand)
    else if dropped.isEmpty && (significand != 0 && significand ≤ Number.wordBound) then
      pure (.integer (-significand))
    else return .real (← readReal negative significand power [])
  | '.' :: rest =>
    let fraction := rest.takeWhile Char.isDigit
    let (significand, dropped) := takeSignificand significand fraction
    let power := power - (fraction.length - dropped.length : Nat)
    return .real (← readReal negative significand power (rest.dropWhile Char.isDigit))
  | exponent => return .real (← readReal negative significand power exponent)

/-- Digits with the point among them where at most sixteen places precede it and at most
four zeros follow it; otherwise one digit, the point and an exponent with its sign. -/
def writeDigits (d : Number.Digits) : List Char :=
  let count := d.digits.length
  let whole := (count : Int) + d.exponent
  if 0 ≤ d.exponent ∧ whole ≤ 16 then
    d.digits ++ List.replicate d.exponent.toNat '0' ++ ['.', '0']
  else if 0 < whole ∧ whole ≤ 16 then
    d.digits.take whole.toNat ++ '.' :: d.digits.drop whole.toNat
  else if -5 < whole ∧ whole ≤ 0 then
    '0' :: '.' :: List.replicate (-whole).toNat '0' ++ d.digits
  else
    let power := whole - 1
    let exponent := 'e' :: (if power < 0 then '-' else '+') :: Nat.toDigits 10 power.natAbs
    match d.digits with
    | first :: next :: rest => first :: '.' :: next :: rest ++ exponent
    | digits => digits ++ exponent

/-- A finite binary number in the fewest digits that read back as the same number. -/
def writeReal (x : Float) : String :=
  let bits := x.toBits.toNat
  let magnitude := bits % Number.wordBound
  let digits :=
    if magnitude = 0 then ['0', '.', '0']
    else writeDigits (Number.shortest (Number.Binary.ofBits magnitude))
  String.ofList (if Number.wordBound ≤ bits then '-' :: digits else digits)

end Wayfinding.Json
