import Wayfinding.Proofs.Route.Compiled
import Wayfinding.Proofs.Segment
import Wayfinding.Proofs.Traversal

/-!
The accessors of a route. Each looks its segment up and reads its component anew, so that they
agree has to be shown: a value is of the kind that the segment declares, an accessor for one kind
gives just the values of that kind, and the values collected from a path that matches are all
those that can be had one by one.
-/

namespace Wayfinding

namespace Route

/-- What is taken from a path one segment at a time, whether the path matches or not. -/
structure AccessorsAgree (route : Route) (path name : String) : Prop where
  kind_of_value : ∀ v, route.value path name = some v →
    ∃ segment ∈ route.segments, segment.name = name ∧ segment.kind = v.kind
  getInteger_iff : ∀ n, route.getInteger path name = some n ↔
    route.value path name = some (.integer n)
  getDecimal_iff : ∀ d, route.getDecimal path name = some d ↔
    route.value path name = some (.decimal d)
  getFlag_iff : ∀ b, route.getFlag path name = some b ↔ route.value path name = some (.flag b)
  atMostOne : [(route.getInteger path name).isSome, (route.getDecimal path name).isSome,
    (route.getFlag path name).isSome].count true ≤ 1
  isSome_getText_iff : (route.getText path name).isSome ↔
    ∃ segment ∈ route.segments, segment.name = name ∧
      segment.position < (components path).length

/-- What is taken from a path as a whole. -/
structure ValuesAgree (route : Route) (path : String) : Prop where
  isSome_iff : (route.values path).isSome ↔ route.accepts path
  names_eq : ∀ values, route.values path = some values →
    values.map (·.1) = route.segments.map (·.name)
  nodup : (route.segments.map (·.name)).Nodup
  mem_iff : ∀ values, route.values path = some values → ∀ name v,
    (name, v) ∈ values ↔ route.value path name = some v

variable {route : Route} {path name : String} {v : Value}

theorem mem_segments_of_segment? {segment : Segment} (h : route.segment? name = some segment) :
    segment ∈ route.segments ∧ segment.name = name :=
  ⟨List.mem_of_find?_eq_some h, by simpa using List.find?_some h⟩

theorem exists_segment_of_value (h : route.value path name = some v) :
    ∃ segment, route.segment? name = some segment ∧ segment.kind = v.kind := by
  simp only [value, Option.bind_eq_bind, Option.bind_eq_some_iff] at h
  obtain ⟨segment, hsegment, raw, -, hparse⟩ := h
  exact ⟨segment, hsegment, (Kind.kind_of_parse hparse).symm⟩

theorem valueOfKind_eq_some_iff {kind : Kind} :
    route.valueOfKind kind path name = some v ↔
      route.value path name = some v ∧ v.kind = kind := by
  simp only [valueOfKind, Option.bind_eq_bind, Option.bind_eq_some_iff]
  constructor
  · rintro ⟨segment, hsegment, hvalue⟩
    split at hvalue
    · rename_i hkind
      obtain ⟨found, hfound, hread⟩ := exists_segment_of_value hvalue
      obtain rfl := Option.some.inj (hsegment.symm.trans hfound)
      exact ⟨hvalue, hread.symm.trans hkind⟩
    · cases hvalue
  · rintro ⟨hvalue, rfl⟩
    obtain ⟨segment, hsegment, hkind⟩ := exists_segment_of_value hvalue
    exact ⟨segment, hsegment, by rw [if_pos hkind, hvalue]⟩

theorem get_eq_some_iff {α : Type} (kind : Kind) {make : α → Value} {got : Option α}
    (hkind : ∀ a, (make a).kind = kind)
    (hgot : ∀ a, got = some a ↔ route.valueOfKind kind path name = some (make a)) (a : α) :
    got = some a ↔ route.value path name = some (make a) := by
  rw [hgot, valueOfKind_eq_some_iff, and_iff_left (hkind a)]

theorem getInteger_eq_some_iff (n : Int) :
    route.getInteger path name = some n ↔ route.value path name = some (.integer n) := by
  refine get_eq_some_iff .integer (fun _ => rfl) (fun n => ?_) n
  rw [getInteger]
  split <;> simp_all

theorem getDecimal_eq_some_iff (d : Decimal) :
    route.getDecimal path name = some d ↔ route.value path name = some (.decimal d) := by
  refine get_eq_some_iff .decimal (fun _ => rfl) (fun d => ?_) d
  rw [getDecimal]
  split <;> simp_all

theorem getFlag_eq_some_iff (b : Bool) :
    route.getFlag path name = some b ↔ route.value path name = some (.flag b) := by
  refine get_eq_some_iff .flag (fun _ => rfl) (fun b => ?_) b
  rw [getFlag]
  split
  · simp_all
  · rename_i hother
    exact iff_of_false (by simp) (hother b)

theorem isSome_getText_iff {template : String} (h : compile template = .ok route) :
    (route.getText path name).isSome ↔ ∃ segment ∈ route.segments,
      segment.name = name ∧ segment.position < (components path).length := by
  constructor
  · intro hsome
    simp only [getText, Option.bind_eq_bind, Option.isSome_bind, Option.any_eq_true] at hsome
    obtain ⟨segment, hsegment, htext⟩ := hsome
    obtain ⟨hmem, hname⟩ := mem_segments_of_segment? hsegment
    exact ⟨segment, hmem, hname, by simpa using htext⟩
  · rintro ⟨segment, hmem, rfl, hlt⟩
    rw [getText_of_mem h hmem, List.getElem?_eq_getElem hlt]
    rfl

theorem accessorsAgree {template : String} (h : compile template = .ok route)
    (path name : String) : route.AccessorsAgree path name where
  kind_of_value v hvalue := by
    obtain ⟨segment, hsegment, hkind⟩ := exists_segment_of_value hvalue
    obtain ⟨hmem, hname⟩ := mem_segments_of_segment? hsegment
    exact ⟨segment, hmem, hname, hkind⟩
  getInteger_iff := getInteger_eq_some_iff
  getDecimal_iff := getDecimal_eq_some_iff
  getFlag_iff := getFlag_eq_some_iff
  atMostOne := by
    -- two of them would give the value two constructors
    cases hinteger : route.getInteger path name <;> cases hdecimal : route.getDecimal path name <;>
      cases hflag : route.getFlag path name <;>
      simp_all [getInteger_eq_some_iff, getDecimal_eq_some_iff, getFlag_eq_some_iff]
  isSome_getText_iff := isSome_getText_iff h

theorem mapM_of_values {values : List (String × Value)} (h : route.values path = some values) :
    (route.segments.mapM fun segment => (route.value path segment.name).map (segment.name, ·)) =
      some values := by
  rw [Route.values] at h
  split at h
  · exact h
  · cases h

theorem isSome_values_iff : (route.values path).isSome ↔ route.accepts path := by
  rw [Route.values]
  split
  · rename_i haccepts
    have hvalidates : route.validates path := (Bool.and_eq_true_iff.mp haccepts).2
    rw [validates, List.all_eq_true] at hvalidates
    simpa [isSome_mapM_iff, haccepts] using hvalidates
  · simp [*]

theorem nodup_segments {template : String} (h : compile template = .ok route) :
    (route.segments.map (·.name)).Nodup := by
  rw [map_name_segments]
  exact (readParts_eq_ok (compile_eq_ok h).2).2

theorem valuesAgree {template : String} (h : compile template = .ok route) (path : String) :
    route.ValuesAgree path where
  isSome_iff := isSome_values_iff
  names_eq values hvalues := by
    have hpairs := mapM_eq_some_iff_forall₂.mp (mapM_of_values hvalues)
    refine Eq.symm ?_
    rw [← List.forall₂_eq_eq_eq, List.forall₂_map_left_iff, List.forall₂_map_right_iff]
    refine hpairs.imp fun segment pair hpair => ?_
    obtain ⟨v, -, rfl⟩ := Option.map_eq_some_iff.mp hpair
    rfl
  nodup := nodup_segments h
  mem_iff values hvalues name v := by
    rw [mem_iff_of_mapM_eq_some (mapM_of_values hvalues)]
    constructor
    · rintro ⟨segment, -, hpair⟩
      obtain ⟨found, hvalue, hfound⟩ := Option.map_eq_some_iff.mp hpair
      obtain ⟨rfl, rfl⟩ := Prod.mk.inj hfound
      exact hvalue
    · intro hvalue
      obtain ⟨segment, hsegment, -⟩ := exists_segment_of_value hvalue
      obtain ⟨hmem, rfl⟩ := mem_segments_of_segment? hsegment
      exact ⟨segment, hmem, by rw [hvalue]; rfl⟩

end Route
end Wayfinding
