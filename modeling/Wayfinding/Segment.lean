import Wayfinding.Number.Decimal

/-!
Named segments and the values they take. A segment occupies one component of a path; its
kind says how that component is read.
-/

namespace Wayfinding

inductive Kind where
  | text
  | integer
  | decimal
  | flag
  deriving DecidableEq, Repr

namespace Kind

instance : Inhabited Kind := ⟨text⟩

/-- The kind that a suffix of a template token names. Unknown suffixes name text. -/
def ofSuffix : Option String → Kind
  | some "int" => integer
  | some "num" => decimal
  | some "bool" => flag
  | _ => text

def suffix : Kind → String
  | text => "str"
  | integer => "int"
  | decimal => "num"
  | flag => "bool"

theorem ofSuffix_suffix (kind : Kind) : ofSuffix (some kind.suffix) = kind := by
  cases kind <;> rfl

/-- The name of the kind in data, which for decimals is not the suffix. -/
def label : Kind → String
  | text => "str"
  | integer => "int"
  | decimal => "decimal"
  | flag => "bool"

end Kind

inductive Value where
  | text (s : String)
  | integer (n : Int)
  | decimal (d : Decimal)
  | flag (b : Bool)
  deriving BEq, Repr

namespace Value

def kind : Value → Kind
  | text _ => .text
  | integer _ => .integer
  | decimal _ => .decimal
  | flag _ => .flag

def toText : Value → String
  | text s => s
  | integer n => toString n
  | decimal d => d.text
  | flag b => if b then "true" else "false"

end Value

/-- A component that its segment's kind does not read. -/
inductive Misreading where
  | integer (raw : String) (fault : Number.IntegerFault)
  | decimal (raw : String) (fault : Decimal.Fault)
  deriving DecidableEq, Repr

/-- Text that is `false` in any case of its letters, or `0`. -/
def saysFalse (raw : String) : Bool :=
  raw.toList.map Char.toLower == "false".toList || raw == "0"

namespace Kind

/-- Text and flags read anything; an integer fits a signed word of 64 bits. -/
def read (kind : Kind) (raw : String) : Except Misreading Value :=
  match kind with
  | text => .ok (.text raw)
  | integer =>
    match Number.readInteger Number.wordBound raw.toList with
    | .ok n => .ok (.integer n)
    | .error fault => .error (.integer raw fault)
  | decimal =>
    match Decimal.read raw with
    | .ok d => .ok (.decimal d)
    | .error fault => .error (.decimal raw fault)
  | flag => .ok (.flag !saysFalse raw)

def parse (kind : Kind) (raw : String) : Option Value :=
  (kind.read raw).toOption

end Kind

structure Segment where
  /-- The index of the component that the segment occupies. -/
  position : Nat
  name : String
  kind : Kind
  deriving DecidableEq, Repr

end Wayfinding
