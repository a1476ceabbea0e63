import Wayfinding.Proofs.Number.Integer
import Wayfinding.Proofs.Route.Access

/-!
Integer segments. Their kind reads the texts of a sign or none and digits, as many as one likes,
that denote a number of a signed word of 64 bits, and it reads that number. The lowest one has no
counterpart above zero. A route does not match a path with any other text in the segment's place.
-/

namespace Wayfinding

namespace Number

/-- A text of a sign or none and digits, and the integer that it denotes. -/
def SpellsInteger (text : String) (n : Int) : Prop :=
  ∃ (sign : Sign) (digits : List Char), text.toList = sign.chars ++ digits ∧ IsWhole digits ∧
    n = sign.apply (Nat.ofDigitChars 10 digits 0)

/-- The integer is one that a signed word of 64 bits holds. -/
structure SpellsWord (text : String) (n : Int) : Prop where
  spells : SpellsInteger text n
  lower : -2 ^ 63 ≤ n
  upper : n ≤ 2 ^ 63 - 1

variable {text : String} {n m : Int}

theorem readInteger_eq_ok_iff_spells {bound : Nat} (hbound : 0 < bound) :
    readInteger bound text.toList = .ok n ↔ SpellsInteger text n ∧ Fits bound n := by
  simp only [readInteger_eq_ok_iff hbound, digitsValue_eq_ofDigitChars, SpellsInteger]
  constructor
  · rintro ⟨sign, digits, htext, hwhole, hn, hfits⟩
    exact ⟨⟨sign, digits, htext, hwhole, hn⟩, hfits⟩
  · rintro ⟨⟨sign, digits, htext, hwhole, hn⟩, hfits⟩
    exact ⟨sign, digits, htext, hwhole, hn, hfits⟩

/-- No text denotes two integers: a word that is wide enough would read both. -/
theorem SpellsInteger.unique (hn : SpellsInteger text n) (hm : SpellsInteger text m) : n = m := by
  have hbound : 0 < n.natAbs + m.natAbs + 1 := Nat.succ_pos _
  have hread := (readInteger_eq_ok_iff_spells hbound).mpr ⟨hn, by rw [Fits]; omega⟩
  have hread' := (readInteger_eq_ok_iff_spells hbound).mpr ⟨hm, by rw [Fits]; omega⟩
  exact Except.ok.inj (hread.symm.trans hread')

theorem fits_wordBound_iff : Fits wordBound n ↔ -2 ^ 63 ≤ n ∧ n ≤ 2 ^ 63 - 1 := by
  rw [Fits, wordBound]
  omega

theorem readInteger_wordBound_eq_ok_iff :
    readInteger wordBound text.toList = .ok n ↔ SpellsWord text n := by
  rw [readInteger_eq_ok_iff_spells (by decide), fits_wordBound_iff]
  exact ⟨fun h => ⟨h.1, h.2.1, h.2.2⟩, fun h => ⟨h.spells, h.lower, h.upper⟩⟩

end Number

open Number

theorem Kind.parse_integer_eq_some_iff_spells {raw : String} {v : Value} :
    integer.parse raw = some v ↔ ∃ n, SpellsWord raw n ∧ v = .integer n := by
  simp only [parse_integer_eq_some_iff, readInteger_wordBound_eq_ok_iff]

namespace Route

variable {template path raw : String} {route : Route} {segment : Segment}

theorem value_eq_parse (h : compile template = .ok route) (hmem : segment ∈ route.segments)
    (hraw : (components path)[segment.position]? = some raw) :
    route.value path segment.name = segment.kind.parse raw := by
  rw [value_of_mem h hmem, hraw, Option.bind_some]

/-- A path validates by one of the segments and all others. -/
theorem validates_iff_of_mem (hmem : segment ∈ route.segments) :
    route.validates path ↔ (route.value path segment.name).isSome ∧
      ∀ other ∈ route.segments, other ≠ segment → (route.value path other.name).isSome := by
  rw [validates, List.all_eq_true]
  constructor
  · intro hall
    exact ⟨hall segment hmem, fun other hother _ => hall other hother⟩
  · rintro ⟨hvalue, hothers⟩ other hother
    by_cases heq : other = segment
    · rwa [heq]
    · exact hothers other hother heq

end Route

/-- An integer segment reads the integers of a word and takes nothing else. -/
theorem integers_are_read_to_the_limits (raw : String) :
    (∀ v, Kind.integer.parse raw = some v ↔ ∃ n, SpellsWord raw n ∧ v = .integer n) ∧
      ((∀ n, ¬ SpellsWord raw n) → Kind.integer.parse raw = none) ∧
      ∀ template route, Route.compile template = .ok route →
        ∀ segment ∈ route.segments, segment.kind = .integer →
          ∀ path, (components path)[segment.position]? = some raw →
            (∀ n, route.getInteger path segment.name = some n ↔ SpellsWord raw n) ∧
            (route.accepts path ↔ (∃ n, SpellsWord raw n) ∧ route.fits path ∧
              ∀ other ∈ route.segments, other ≠ segment →
                (route.value path other.name).isSome) := by
  refine ⟨fun _ => Kind.parse_integer_eq_some_iff_spells, ?_, ?_⟩
  · intro hspells
    rw [Option.eq_none_iff_forall_ne_some]
    intro v hv
    obtain ⟨n, hn, -⟩ := Kind.parse_integer_eq_some_iff_spells.mp hv
    exact hspells n hn
  · intro template route h segment hmem hkind path hraw
    have hvalue : ∀ v, route.value path segment.name = some v ↔
        ∃ n, SpellsWord raw n ∧ v = .integer n := by
      intro v
      rw [Route.value_eq_parse h hmem hraw, hkind, Kind.parse_integer_eq_some_iff_spells]
    have hread : (route.value path segment.name).isSome ↔ ∃ n, SpellsWord raw n := by
      simp [Option.isSome_iff_exists, hvalue]
    refine ⟨fun n => ?_, ?_⟩
    · rw [Route.getInteger_eq_some_iff, hvalue]
      simp
    · rw [Route.accepts, Bool.and_eq_true, Route.validates_iff_of_mem hmem, hread, and_left_comm]

theorem integers_are_read_to_the_limits_lowest :
    ∃ route, Route.compile "users/:id:int" = .ok route ∧
      ⟨1, "id", .integer⟩ ∈ route.segments ∧
      (components "users/-009223372036854775808")[1]? = some "-009223372036854775808" ∧
      SpellsWord "-009223372036854775808" (-2 ^ 63) ∧
      route.getInteger "users/-009223372036854775808" "id" = some (-2 ^ 63) ∧
      (components "users/-9223372036854775809")[1]? = some "-9223372036854775809" ∧
      (∀ n, ¬ SpellsWord "-9223372036854775809" n) ∧
      ¬ route.accepts "users/-9223372036854775809" := by
  have hcompile : Route.compile "users/:id:int" = .ok ⟨"users/:id:int",
      ⟨.literal "users", [(.slash, .named "id" .integer)]⟩⟩ := by rfl
  have hmem : (⟨1, "id", .integer⟩ : Segment) ∈ Route.segments ⟨"users/:id:int",
      ⟨.literal "users", [(.slash, .named "id" .integer)]⟩⟩ := by decide
  have hlowest : SpellsWord "-009223372036854775808" (-2 ^ 63) := by
    refine ⟨⟨.minus, "009223372036854775808".toList, by rfl, by decide, by rfl⟩, ?_, ?_⟩
    · exact Int.le_refl _
    · decide
  have hbelow : ∀ n, ¬ SpellsWord "-9223372036854775809" n := by
    intro n h
    have hspells : SpellsInteger "-9223372036854775809" (-9223372036854775809) :=
      ⟨.minus, "9223372036854775809".toList, by rfl, by decide, by rfl⟩
    have hlower := h.lower
    rw [h.spells.unique hspells] at hlower
    exact absurd hlower (by decide)
  have hword : (components "users/-009223372036854775808")[1]? =
      some "-009223372036854775808" := by rfl
  have hraw : (components "users/-9223372036854775809")[1]? = some "-9223372036854775809" := by rfl
  obtain ⟨-, -, hroute⟩ := integers_are_read_to_the_limits "-009223372036854775808"
  obtain ⟨-, -, hroute'⟩ := integers_are_read_to_the_limits "-9223372036854775809"
  have hget := (hroute _ _ hcompile _ hmem rfl _ hword).1
  have haccepts := (hroute' _ _ hcompile _ hmem rfl _ hraw).2
  refine ⟨_, hcompile, hmem, hword, hlowest, (hget _).mpr hlowest, hraw, hbelow, ?_⟩
  intro h
  obtain ⟨⟨n, hn⟩, -⟩ := haccepts.mp h
  exact hbelow n hn

end Wayfinding
