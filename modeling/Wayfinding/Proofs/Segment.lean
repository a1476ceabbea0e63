import Wayfinding.Proofs.Number.Printing
import Wayfinding.Proofs.Traversal
import Wayfinding.Segment

/-!
The values of segments. A kind gives values of its own only. What is read from a printed value says
the same as the value, and what is read from a decimal numeral is the number that it denotes. Both
hold for equality too, but where comparing decimals loses a carry.
-/

namespace Wayfinding

namespace Kind

variable {raw : String} {v : Value}

theorem parse_integer_eq_some_iff :
    integer.parse raw = some v ↔
      ∃ n, Number.readInteger Number.wordBound raw.toList = .ok n ∧ v = .integer n := by
  rw [parse, toOption_eq_some_iff]
  simp only [read]
  split
  · rename_i n hread
    simp [hread, eq_comm]
  · rename_i fault hread
    simp [hread]

theorem parse_decimal_eq_some_iff :
    decimal.parse raw = some v ↔ ∃ d, Decimal.read raw = .ok d ∧ v = .decimal d := by
  rw [parse, toOption_eq_some_iff]
  simp only [read]
  split
  · rename_i n hread
    simp [hread, eq_comm]
  · rename_i fault hread
    simp [hread]

theorem kind_of_parse {kind : Kind} (h : kind.parse raw = some v) : v.kind = kind := by
  cases kind with
  | text | flag =>
      obtain rfl := Option.some.inj h
      rfl
  | integer =>
      obtain ⟨n, -, rfl⟩ := parse_integer_eq_some_iff.mp h
      rfl
  | decimal =>
      obtain ⟨d, -, rfl⟩ := parse_decimal_eq_some_iff.mp h
      rfl

end Kind

namespace Value

/-- Values that say the same, decimals by the numbers that they stand for. -/
def Agrees : Value → Value → Prop
  | text s, text t => s = t
  | integer n, integer m => n = m
  | decimal a, decimal b => a.value = b.value
  | flag a, flag b => a = b
  | _, _ => False

/-- A decimal that is printed with ten zeros in place of its power of ten, and loses a carry where
it is compared with what it is printed as. -/
def Falters : Value → Prop
  | decimal d => d.scale = -10 ∧ Decimal.Falters d.coefficient
  | _ => False

theorem beq_decimal_iff {a b : Decimal} : (decimal a == decimal b) ↔ Decimal.equal a b :=
  Iff.rfl

end Value

open Decimal Number

/-- Whatever was read can be printed and read again. -/
theorem printing_reads_back {kind : Kind} {raw : String} {v : Value}
    (h : kind.parse raw = some v) :
    v.kind = kind ∧
      ∃ w, kind.parse v.toText = some w ∧ w.Agrees v ∧ (w == v ↔ ¬ v.Falters) := by
  refine ⟨Kind.kind_of_parse h, ?_⟩
  cases kind with
  | text =>
      obtain rfl := Option.some.inj h
      exact ⟨.text raw, rfl, rfl, iff_of_true (beq_self_eq_true raw) id⟩
  | integer =>
      obtain ⟨n, hread, rfl⟩ := Kind.parse_integer_eq_some_iff.mp h
      have hbound : 0 < wordBound := by decide
      obtain ⟨-, -, -, -, -, hfits⟩ := (readInteger_eq_ok_iff hbound).mp hread
      refine ⟨.integer n, ?_, rfl, iff_of_true (beq_self_eq_true n) id⟩
      exact Kind.parse_integer_eq_some_iff.mpr ⟨n, readInteger_toString hbound hfits, rfl⟩
  | decimal =>
      obtain ⟨d, hread, rfl⟩ := Kind.parse_decimal_eq_some_iff.mp h
      obtain ⟨-, -, hfits, -⟩ := read_eq_ok_iff.mp hread
      refine ⟨.decimal d.restored, ?_, value_restored d, ?_⟩
      · exact Kind.parse_decimal_eq_some_iff.mpr ⟨d.restored, read_text hfits, rfl⟩
      · rw [Value.beq_decimal_iff, equal_iff_of_value_eq (value_restored d),
          carryLost_restored_iff]
        rfl
  | flag =>
      obtain rfl := Option.some.inj h
      refine ⟨.flag !saysFalse raw, ?_, rfl, iff_of_true (beq_self_eq_true (!saysFalse raw)) id⟩
      cases saysFalse raw <;> rfl

/-- A decimal in scientific notation. -/
theorem printing_reads_back_scientific :
    Kind.decimal.parse "-150e-12" = some (.decimal ⟨-150, 12⟩) ∧
      (Value.decimal ⟨-150, 12⟩).toText = "-1.50E-10" ∧
      ∃ w, Kind.decimal.parse (Value.decimal ⟨-150, 12⟩).toText = some w ∧
        w.Agrees (.decimal ⟨-150, 12⟩) ∧
        (w == .decimal ⟨-150, 12⟩ ↔ ¬ (Value.decimal ⟨-150, 12⟩).Falters) := by
  have hread : Kind.decimal.parse "-150e-12" = some (.decimal ⟨-150, 12⟩) := by rfl
  exact ⟨hread, by rfl, (printing_reads_back hread).2⟩

/-- Printed without its power of ten, the same number is not equal to itself. -/
theorem printing_loses_carry :
    Kind.decimal.parse "7922816251633193472e10" =
        some (.decimal ⟨7922816251633193472, -10⟩) ∧
      (Value.decimal ⟨7922816251633193472, -10⟩).toText = "79228162516331934720000000000" ∧
      Kind.decimal.parse "79228162516331934720000000000" =
        some (.decimal ⟨79228162516331934720000000000, 0⟩) ∧
      (Value.decimal ⟨79228162516331934720000000000, 0⟩ ==
        .decimal ⟨7922816251633193472, -10⟩) = false := by
  refine ⟨?_, ?_, ?_, ?_⟩
  · rfl
  · rfl
  · rfl
  · decide

/-- Reading a decimal numeral is exact, and equality is that of the numbers but for lost carries. -/
theorem decimals_lose_no_digit (s : Numeral) :
    s.decimal.value = s.value ∧
      (s.IsRepresentable → Kind.decimal.parse s.text = some (.decimal s.decimal)) ∧
      (¬ s.IsRepresentable → Kind.decimal.parse s.text = none) ∧
      ∀ t : Numeral, s.IsRepresentable → t.IsRepresentable →
        (¬ CarryLost s.decimal t.decimal →
          (Kind.decimal.parse s.text == Kind.decimal.parse t.text ↔ s.value = t.value)) ∧
        (CarryLost s.decimal t.decimal → s.value = t.value →
          ¬ (Kind.decimal.parse s.text == Kind.decimal.parse t.text)) := by
  have hparse : ∀ {s : Numeral}, s.IsRepresentable →
      Kind.decimal.parse s.text = some (.decimal s.decimal) := by
    intro s hs
    exact Kind.parse_decimal_eq_some_iff.mpr ⟨_, s.read_text_eq_ok_iff.mpr ⟨hs, rfl⟩, rfl⟩
  refine ⟨s.value_decimal, hparse, ?_, ?_⟩
  · intro hs
    rw [Option.eq_none_iff_forall_ne_some]
    intro v hv
    obtain ⟨d, hread, -⟩ := Kind.parse_decimal_eq_some_iff.mp hv
    exact hs (s.read_text_eq_ok_iff.mp hread).1
  · intro t hs ht
    have hequal : (Kind.decimal.parse s.text == Kind.decimal.parse t.text) =
        Decimal.equal s.decimal t.decimal := by
      rw [hparse hs, hparse ht]
      rfl
    rw [hequal, ← s.value_decimal, ← t.value_decimal]
    refine ⟨equal_iff, ?_⟩
    intro hlost hvalue hequal
    exact (equal_iff_of_value_eq hvalue).mp hequal hlost

/-- The numeral `1e3`. -/
def thousand : Numeral :=
  ⟨.absent, ['1'], none, some ⟨'e', .absent, ['3'], by decide, by decide⟩, by decide⟩

/-- The numeral `1000.0`. -/
def thousandInFull : Numeral :=
  ⟨.absent, ['1', '0', '0', '0'], some ['0'], none, by decide⟩

theorem decimals_lose_no_digit_thousand :
    thousand.text = "1e3" ∧ thousandInFull.text = "1000.0" ∧ thousand.IsRepresentable ∧
      thousandInFull.IsRepresentable ∧ ¬ CarryLost thousand.decimal thousandInFull.decimal ∧
      Kind.decimal.parse thousand.text = some (.decimal ⟨1, -3⟩) ∧
      Kind.decimal.parse thousand.text == Kind.decimal.parse thousandInFull.text := by
  have hscale : thousandInFull.decimal.scale = thousand.decimal.scale + (4 : Nat) := by rfl
  have hvalue : thousand.value = thousandInFull.value := by
    rw [← Numeral.value_decimal, ← Numeral.value_decimal, eq_comm, value_eq_value_iff hscale]
    rfl
  have hthousand : thousand.IsRepresentable := by decide
  have hfull : thousandInFull.IsRepresentable := by decide
  have hkept : ¬ CarryLost thousand.decimal thousandInFull.decimal := by decide
  obtain ⟨-, hparse, -, hequal⟩ := decimals_lose_no_digit thousand
  exact ⟨by rfl, by rfl, hthousand, hfull, hkept, hparse hthousand,
    ((hequal thousandInFull hthousand hfull).1 hkept).mpr hvalue⟩

/-- The numeral `100156536620180951552`. -/
def carrying : Numeral :=
  ⟨.absent, "100156536620180951552".toList, none, none, by decide⟩

/-- The numeral `100156536620180951552.0000000000`. -/
def carryingInFull : Numeral :=
  ⟨.absent, "100156536620180951552".toList, some (zeros 10), none, by decide⟩

/-- Ten zeros after the point tell a number from itself. -/
theorem zeros_tell_carrying_apart :
    carrying.text = "100156536620180951552" ∧
      carryingInFull.text = "100156536620180951552.0000000000" ∧ carrying.IsRepresentable ∧
      carryingInFull.IsRepresentable ∧ carrying.value = carryingInFull.value ∧
      (Kind.decimal.parse carrying.text == Kind.decimal.parse carryingInFull.text) = false := by
  refine ⟨by rfl, by rfl, by decide, by decide, ?_, ?_⟩
  · have hscale : carryingInFull.decimal.scale = carrying.decimal.scale + (10 : Nat) := by rfl
    rw [← Numeral.value_decimal, ← Numeral.value_decimal, eq_comm, value_eq_value_iff hscale]
    rfl
  · decide

end Wayfinding
