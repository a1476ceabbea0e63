import Wayfinding.Proofs.Route.Reverse
import Wayfinding.Proofs.Route.Token

/-!
Templates with a wildcard in the place of another component. The wildcard takes whatever the
component took, but a literal with a newline in it: no wildcard passes over that. Such a template
loses all paths that it had, since each of them holds one newline component more than its literals
do.
-/

namespace Wayfinding

namespace Part

theorem isBroken_iff_of_read {component : String} {part : Part} (h : read component = .ok part) :
    part.isBroken ↔ IsLiteral component ∧ '\n' ∈ component.toList := by
  cases part with
  | literal text =>
      obtain ⟨hliteral, rfl⟩ := read_eq_literal_iff.mp h
      rw [isBroken, hasNewline, List.contains_iff_mem, and_iff_right hliteral]
  | wildcard | named name kind =>
      refine iff_of_false Bool.false_ne_true ?_
      rintro ⟨hliteral, -⟩
      rw [read_eq_literal_iff.mpr ⟨hliteral, rfl⟩] at h
      cases h

theorem Takes.widened {part : Part} {block : List String} (h : part.Takes OneLine block)
    (hwhole : ¬ part.isBroken) : wildcard.Takes OneLine block := by
  rcases part.isOpen_or_eq_literal with hopen | ⟨text, rfl⟩
  · exact (takes_open_iff hopen).mp h
  · obtain ⟨component, rfl, hletters⟩ := h
    have hline : OneLine component := by
      rw [← hasNewline_eq_false_iff, ← hletters.hasNewline_eq]
      exact Bool.eq_false_of_not_eq_true hwhole
    exact ⟨List.cons_ne_nil _ _, by simpa using hline⟩

end Part

/-- The blocks of a cut stay as they are. -/
theorem Cut.widened {parts : List Part} {blocks : List (List String)} (h : Cut OneLine parts blocks)
    {index : Nat} {part : Part} (hpart : parts[index]? = some part) (hwhole : ¬ part.isBroken) :
    Cut OneLine (parts.set index .wildcard) blocks := by
  induction h generalizing index with
  | single h =>
      cases index with
      | zero =>
          obtain rfl : _ = part := by simpa using hpart
          exact .single (h.widened hwhole)
      | succ index => exact .single h
  | spent h hlast =>
      rcases index with _ | _ | index
      · obtain rfl : _ = part := by simpa using hpart
        exact .spent (h.widened hwhole) hlast
      · exact .spent h trivial
      · exact .spent h hlast
  | cons h rest ih =>
      cases index with
      | zero =>
          obtain rfl : _ = part := by simpa using hpart
          exact .cons (h.widened hwhole) rest
      | succ index => exact .cons h (ih (by simpa using hpart))

/-- No text can be cut with a broken literal and without it. -/
theorem Cut.not_widened {parts : List Part} {blocks blocks' : List (List String)}
    (h : Cut OneLine parts blocks) {index : Nat} {part : Part} (hpart : parts[index]? = some part)
    (hbroken : part.isBroken) (h' : Cut OneLine (parts.set index .wildcard) blocks') :
    blocks'.flatten ≠ blocks.flatten := by
  intro hflatten
  obtain ⟨hindex, hget⟩ := List.getElem?_eq_some_iff.mp hpart
  have hpositive : 0 < parts.countP Part.isBroken :=
    List.countP_pos_iff.mpr ⟨part, List.mem_of_getElem? hpart, hbroken⟩
  -- the literals account for all components with newlines, but there is one literal less
  have hcount := h'.countP_hasNewline
  rw [hflatten, h.countP_hasNewline, List.countP_set hindex, hget, if_pos hbroken,
    if_neg (by decide)] at hcount
  omega

namespace Route

theorem Reads.widened {items : List String} {parts : List Part} (h : Reads items parts)
    (index : Nat) : Reads (items.set index "*") (parts.set index .wildcard) := by
  induction h generalizing index with
  | nil => exact .nil
  | cons hread hreads ih =>
      cases index with
      | zero => exact .cons (Part.read_eq_wildcard_iff.mpr rfl) hreads
      | succ index => exact .cons hread (ih index)

theorem Reads.unique {items : List String} {parts parts' : List Part} (h : Reads items parts)
    (h' : Reads items parts') : parts = parts' :=
  List.right_unique_forall₂'
    (fun _ _ _ hread hread' => Except.ok.inj (hread.symm.trans hread')) h h'

theorem SegmentsRead.widened {parts : List Part} {items : List String}
    (h : SegmentsRead parts items) (index : Nat) : SegmentsRead (parts.set index .wildcard) items := by
  intro position name kind hpart
  rw [List.getElem?_set] at hpart
  split at hpart
  · split at hpart <;> cases hpart
  · exact h position name kind hpart

/-- A wildcard in the place of a component keeps the paths of a template, unless the component is
a literal with a newline. -/
theorem wildcard_keeps_path_iff {template template' : String} {route route' : Route}
    (h : compile template = .ok route) (h' : compile template' = .ok route') {index : Nat}
    {component : String} (hcomponent : (components template)[index]? = some component)
    (hset : components template' = (components template).set index "*") {path : String}
    (hpath : route.accepts path) :
    route'.accepts path ↔ ¬ (IsLiteral component ∧ '\n' ∈ component.toList) := by
  have hreads := reads_of_compile h
  have hparts : route'.parts.toList = route.parts.toList.set index .wildcard := by
    have hreads' := reads_of_compile h'
    rw [hset] at hreads'
    exact hreads'.unique (hreads.widened index)
  obtain ⟨part, hpart, hread⟩ := hreads.exists_part hcomponent
  rw [accepts, Bool.and_eq_true, fits_iff h, validates_iff h] at hpath
  obtain ⟨⟨blocks, hcut, hflatten⟩, hsegments⟩ := hpath
  rw [← Part.isBroken_iff_of_read hread, accepts, Bool.and_eq_true, fits_iff h', validates_iff h',
    hparts]
  constructor
  · rintro ⟨⟨blocks', hcut', hflatten'⟩, -⟩ hbroken
    exact hcut.not_widened hpart hbroken hcut' (hflatten'.trans hflatten.symm)
  · intro hwhole
    exact ⟨⟨blocks, hcut.widened hpart hwhole, hflatten⟩, hsegments.widened index⟩

theorem wildcard_keeps_path_iff_raw :
    ∃ route route', compile ":file/raw" = .ok route ∧ compile ":file/*" = .ok route' ∧
      (components ":file/raw")[1]? = some "raw" ∧
      components ":file/*" = (components ":file/raw").set 1 "*" ∧
      route.accepts "a/RAW/" ∧ '\n' ∉ "raw".toList ∧ route'.accepts "a/RAW/" := by
  have hcompile : compile ":file/raw" =
      .ok ⟨":file/raw", ⟨.named "file" .text, [(.slash, .literal "raw")]⟩⟩ := by rfl
  have hcompile' : compile ":file/*" =
      .ok ⟨":file/*", ⟨.named "file" .text, [(.slash, .wildcard)]⟩⟩ := by rfl
  have haccepts : accepts ⟨":file/raw", ⟨.named "file" .text, [(.slash, .literal "raw")]⟩⟩
      "a/RAW/" = true := by decide +kernel
  have hline : '\n' ∉ "raw".toList := by decide
  have hraw : (components ":file/raw")[1]? = some "raw" := by rfl
  have hkept := wildcard_keeps_path_iff hcompile hcompile' hraw rfl haccepts
  exact ⟨_, _, hcompile, hcompile', hraw, rfl, haccepts, hline, hkept.mpr fun h => hline h.2⟩

/-- The wildcard does not match the component that it stands for. -/
theorem wildcard_loses_newline :
    ∃ route route', compile "a\nb" = .ok route ∧ compile "*" = .ok route' ∧
      (components "a\nb")[0]? = some "a\nb" ∧ components "*" = (components "a\nb").set 0 "*" ∧
      route.accepts "a\nb" ∧ route'.accepts "a\nb" = false :=
  ⟨⟨"a\nb", ⟨.literal "a\nb", []⟩⟩, ⟨"*", ⟨.wildcard, []⟩⟩, rfl, rfl, rfl, rfl, by decide +kernel,
    by decide +kernel⟩

end Route
end Wayfinding
