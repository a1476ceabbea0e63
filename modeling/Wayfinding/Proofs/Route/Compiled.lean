import Mathlib.Data.List.Forall2
import Mathlib.Data.List.Nodup
import Wayfinding.Proofs.Path
import Wayfinding.Proofs.Traversal
import Wayfinding.Route.Match

/-!
What compiling a template establishes: the parts are the readings of the template's
components, one to a component, and no two named segments share a name. A segment's name
then stands for its position and kind.
-/

namespace Wayfinding
namespace Part

theorem eq_of_read_literal {component text : String}
    (h : read component = .ok (.literal text)) : text = component := by
  simp only [read, readToken] at h
  split at h
  · cases h
  · repeat' split at h
    all_goals cases h
  · cases h
    rfl

theorem segment?_eq_some_iff {part : Part} {position : Nat} {segment : Segment} :
    part.segment? position = some segment ↔
      position = segment.position ∧ part = .named segment.name segment.kind := by
  obtain ⟨k, name, kind⟩ := segment
  cases part <;> simp [segment?]

theorem map_name_segment? (part : Part) (position : Nat) :
    (part.segment? position).map (·.name) = part.name? := by
  cases part <;> rfl

end Part

namespace Route

/-- The components of a template and the parts they read as. -/
abbrev Reads (components : List String) (parts : List Part) : Prop :=
  List.Forall₂ (fun component part => Part.read component = .ok part) components parts

/-- The names that parts declare, in order. -/
def names (parts : List Part) : List String :=
  parts.filterMap Part.name?

theorem names_cons (part : Part) (parts : List Part) :
    names (part :: parts) = part.name?.toList ++ names parts := by
  cases h : part.name? <;> simp [names, h]

theorem readPart_eq_ok {template component : String} {declared : List String} {part : Part}
    (h : readPart template declared component = .ok part) :
    Part.read component = .ok part ∧ ∀ name ∈ part.name?, name ∉ declared := by
  simp only [readPart] at h
  split at h
  · cases h
  · rename_i read hread
    split at h
    · rename_i name hname
      split at h
      · cases h
      · rename_i hnew
        cases h
        exact ⟨hread, by simpa [hname] using hnew⟩
    · rename_i hname
      cases h
      exact ⟨hread, by simp [hname]⟩

theorem nodup_names_cons {part : Part} {parts : List Part} {declared : List String}
    (hpart : ∀ name ∈ part.name?, name ∉ declared) (hnodup : (names parts).Nodup)
    (hfresh : ∀ name ∈ names parts, name ∉ part.name?.toList ++ declared) :
    (names (part :: parts)).Nodup ∧ ∀ name ∈ names (part :: parts), name ∉ declared := by
  rw [names_cons]
  cases hname : part.name? with
  | none => exact ⟨hnodup, fun name hmem => by simpa [hname] using hfresh name hmem⟩
  | some first =>
      simp only [hname, Option.mem_some_iff, forall_eq', Option.toList_some,
        List.singleton_append, List.mem_cons, not_or] at hpart hfresh ⊢
      refine ⟨List.nodup_cons.mpr ⟨fun hmem => (hfresh first hmem).1 rfl, hnodup⟩, ?_⟩
      rintro name (rfl | hmem)
      · exact hpart
      · exact (hfresh name hmem).2

theorem readRest_eq_ok {template : String} {declared : List String}
    {pieces : List (Delimiter × String)} {parts : List (Delimiter × Part)}
    (h : readRest template declared pieces = .ok parts) :
    Reads (pieces.map (·.2)) (parts.map (·.2)) ∧
      (names (parts.map (·.2))).Nodup ∧
      ∀ name ∈ names (parts.map (·.2)), name ∉ declared := by
  induction pieces generalizing declared parts with
  | nil =>
      cases h
      simp [names]
  | cons piece pieces ih =>
      obtain ⟨delimiter, component⟩ := piece
      simp only [readRest] at h
      cases hpart : readPart template declared component with
      | error e => simp [hpart, bind, Except.bind] at h
      | ok part =>
          cases hrest : readRest template (part.name?.toList ++ declared) pieces with
          | error e => simp [hpart, hrest, bind, Except.bind] at h
          | ok rest =>
              simp only [hpart, hrest, bind, Except.bind, pure, Except.pure,
                Except.ok.injEq] at h
              subst h
              obtain ⟨hread, hnew⟩ := readPart_eq_ok hpart
              obtain ⟨hreads, hnodup, hfresh⟩ := ih hrest
              exact ⟨.cons hread hreads, nodup_names_cons hnew hnodup hfresh⟩

theorem readParts_eq_ok {template : String} {parts : Delimited Part}
    (h : readParts template = .ok parts) :
    Reads (components template) parts.toList ∧ (names parts.toList).Nodup := by
  simp only [readParts] at h
  cases hfirst : readPart template [] (Delimited.ofString template).first with
  | error e => simp [hfirst, bind, Except.bind] at h
  | ok first =>
      cases hrest : readRest template first.name?.toList (Delimited.ofString template).rest with
      | error e => simp [hfirst, hrest, bind, Except.bind] at h
      | ok rest =>
          simp only [hfirst, hrest, bind, Except.bind, pure, Except.pure,
            Except.ok.injEq] at h
          subst h
          obtain ⟨hread, hnew⟩ := readPart_eq_ok hfirst
          obtain ⟨hreads, hnodup, hfresh⟩ := readRest_eq_ok hrest
          refine ⟨.cons hread hreads, (nodup_names_cons hnew hnodup ?_).1⟩
          simpa using hfresh

theorem compile_eq_ok {template : String} {route : Route}
    (h : compile template = .ok route) :
    route.template = template ∧ readParts template = .ok route.parts := by
  simp only [compile] at h
  cases hparts : readParts template with
  | error e => simp [hparts, bind, Except.bind] at h
  | ok parts =>
      simp only [hparts, bind, Except.bind] at h
      split at h
      · cases h
        exact ⟨rfl, rfl⟩
      · cases h

theorem reads_of_compile {template : String} {route : Route}
    (h : compile template = .ok route) : Reads (components template) route.parts.toList :=
  (readParts_eq_ok (compile_eq_ok h).2).1

theorem Reads.getElem? {components : List String} {parts : List Part}
    (h : Reads components parts) {position : Nat} {part : Part}
    (hpart : parts[position]? = some part) :
    ∃ component, components[position]? = some component ∧ Part.read component = .ok part :=
  exists_getElem?_of_forall₂ h hpart

theorem Reads.exists_part {components : List String} {parts : List Part}
    (h : Reads components parts) {position : Nat} {component : String}
    (hcomponent : components[position]? = some component) :
    ∃ part, parts[position]? = some part ∧ Part.read component = .ok part :=
  exists_getElem?_of_forall₂ h.flip hcomponent

/-- A literal of a compiled route is the component that stands at its position. -/
theorem getElem?_of_literal {template : String} {route : Route}
    (h : compile template = .ok route) {position : Nat} {text : String}
    (hpart : route.parts.toList[position]? = some (.literal text)) :
    (components template)[position]? = some text := by
  obtain ⟨component, hget, hread⟩ := (reads_of_compile h).getElem? hpart
  rw [Part.eq_of_read_literal hread, hget]

theorem mem_segments {route : Route} {segment : Segment} :
    segment ∈ route.segments ↔
      route.parts.toList[segment.position]? = some (.named segment.name segment.kind) := by
  simp only [segments, List.mem_filterMap, Prod.exists, List.mk_mem_zipIdx_iff_getElem?,
    Part.segment?_eq_some_iff]
  constructor
  · rintro ⟨part, position, hget, rfl, rfl⟩
    exact hget
  · intro hget
    exact ⟨_, _, hget, rfl, rfl⟩

theorem map_name_segments (route : Route) :
    route.segments.map (·.name) = names route.parts.toList := by
  have hparts : names route.parts.toList =
      names (route.parts.toList.zipIdx.map Prod.fst) := by
    rw [List.zipIdx_map_fst]
  rw [hparts, names, List.filterMap_map]
  simp only [segments, List.map_filterMap, Part.map_name_segment?]
  rfl

/-- A segment of a compiled route is found under its name. -/
theorem segment?_eq_some_of_mem {template : String} {route : Route}
    (h : compile template = .ok route) {segment : Segment} (hmem : segment ∈ route.segments) :
    route.segment? segment.name = some segment := by
  have hnodup := (readParts_eq_ok (compile_eq_ok h).2).2
  rw [← map_name_segments] at hnodup
  cases hfind : route.segment? segment.name with
  | none => simpa using List.find?_eq_none.mp hfind segment hmem
  | some found =>
      have hname : found.name = segment.name := by simpa using List.find?_some hfind
      rw [List.inj_on_of_nodup_map hnodup (List.mem_of_find?_eq_some hfind) hmem hname]

/-- The text of a segment is the component at the segment's own position. -/
theorem getText_of_mem {template : String} {route : Route}
    (h : compile template = .ok route) {segment : Segment} (hmem : segment ∈ route.segments)
    (path : String) :
    route.getText path segment.name = (components path)[segment.position]? := by
  simp [getText, segment?_eq_some_of_mem h hmem]

theorem value_of_mem {template : String} {route : Route}
    (h : compile template = .ok route) {segment : Segment} (hmem : segment ∈ route.segments)
    (path : String) :
    route.value path segment.name =
      (components path)[segment.position]?.bind segment.kind.parse := by
  simp [value, segment?_eq_some_of_mem h hmem, getText_of_mem h hmem, bind]

/-- At the position of every named segment stands a component that its kind reads. -/
def SegmentsRead (parts : List Part) (components : List String) : Prop :=
  ∀ (position : Nat) (name : String) (kind : Kind),
    parts[position]? = some (.named name kind) →
      ∃ text, components[position]? = some text ∧ (kind.parse text).isSome

theorem validates_iff {template : String} {route : Route}
    (h : compile template = .ok route) (path : String) :
    route.validates path ↔ SegmentsRead route.parts.toList (components path) := by
  simp only [validates, List.all_eq_true]
  constructor
  · intro hall position name kind hpart
    have hmem : (⟨position, name, kind⟩ : Segment) ∈ route.segments := mem_segments.mpr hpart
    have hvalue := hall _ hmem
    rw [value_of_mem h hmem, Option.isSome_bind, Option.any_eq_true] at hvalue
    exact hvalue
  · intro hall segment hmem
    rw [value_of_mem h hmem, Option.isSome_bind, Option.any_eq_true]
    exact hall _ _ _ (mem_segments.mp hmem)

end Route
end Wayfinding
