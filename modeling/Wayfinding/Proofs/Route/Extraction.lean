import Wayfinding.Proofs.Route.Shape
import Wayfinding.Proofs.Route.Stray

/-!
What extraction has to do with matching. A segment's text is the component at the segment's
own position, while the match lets the open parts before it take runs of components. The two
agree on every path just when no literal stands behind an open part and before a named
segment; a literal there may end up where the segment's text is looked for.
-/

namespace Wayfinding

/-- Whether a literal stands behind an open part and before a named segment. -/
def IsInterrupted (parts : List Part) : Prop :=
  ∃ part text name kind, Part.IsOpen part ∧
    [part, .literal text, .named name kind].Sublist parts

theorem IsInterrupted.of_cons {part : Part} {parts : List Part} (h : IsInterrupted parts) :
    IsInterrupted (part :: parts) := by
  obtain ⟨first, text, name, kind, hopen, hsub⟩ := h
  exact ⟨first, text, name, kind, hopen, hsub.cons part⟩

theorem BeginsAtPositions.cons {part : Part} {parts : List Part} {component : String}
    {components block : List String} {blocks : List (List String)}
    (h : BeginsAtPositions parts components blocks) :
    BeginsAtPositions (part :: parts) (component :: components)
      ((component :: block) :: blocks) := by
  intro position name kind hpart
  cases position with
  | zero => exact ⟨component, block, rfl, rfl⟩
  | succ position => exact h position name kind (by simpa using hpart)

/-- If only the first part may be named, any cut begins at the positions. -/
theorem BeginsAtPositions.of_notMem {part : Part} {parts : List Part} {component : String}
    {components block : List String} {blocks : List (List String)}
    (h : ∀ name kind, .named name kind ∉ parts) :
    BeginsAtPositions (part :: parts) (component :: components)
      ((component :: block) :: blocks) := by
  apply BeginsAtPositions.cons
  intro position name kind hpart
  exact absurd (List.mem_of_getElem? hpart) (h name kind)

/-- In a template that is not interrupted every part before the last named segment can be
cut down to one component. -/
theorem exists_cut_beginsAtPositions {admits : String → Prop} {parts : List Part}
    {blocks : List (List String)} (hcut : Cut admits parts blocks)
    (hlong : ∀ position name kind, parts[position]? = some (.named name kind) →
      position < blocks.flatten.length)
    (hclear : ¬ IsInterrupted parts) :
    ∃ blocks', Cut admits parts blocks' ∧ blocks'.flatten = blocks.flatten ∧
      BeginsAtPositions parts blocks.flatten blocks' := by
  induction parts generalizing blocks with
  | nil => cases hcut
  | cons part parts ih =>
      by_cases hnamed : ∃ name kind, .named name kind ∈ parts
      · obtain ⟨name, kind, hmem⟩ := hnamed
        obtain ⟨position, hposition⟩ := List.mem_iff_getElem?.mp hmem
        have hlength : 1 < blocks.flatten.length := by
          have := hlong (position + 1) name kind (by simpa using hposition)
          omega
        cases parts with
        | nil => cases hmem
        | cons next parts =>
            have hopen : part.IsOpen → next.IsOpen := by
              intro hpart
              rcases next.isOpen_or_eq_literal with hnext | ⟨text, rfl⟩
              · exact hnext
              · have hmem' : .named name kind ∈ parts := by simpa using hmem
                exact absurd ⟨part, text, name, kind, hpart,
                  ((List.singleton_sublist.mpr hmem').cons_cons _).cons_cons _⟩ hclear
            obtain ⟨component, rest, hflatten, htakes, hrest⟩ := hcut.exists_tail hopen hlength
            obtain ⟨rest', hcut', hflatten', hbegins⟩ := ih hrest
              (fun k name kind hk => by
                have := hlong (k + 1) name kind (by simpa using hk)
                rw [hflatten, List.length_cons] at this
                omega)
              (fun h => hclear h.of_cons)
            refine ⟨[component] :: rest', .cons htakes hcut', ?_, ?_⟩
            · rw [hflatten, List.flatten_cons, hflatten', List.singleton_append]
            · rw [hflatten]
              exact hbegins.cons
      · -- only the first part may be named, and it begins at its position in any cut
        have hnotMem : ∀ name kind, .named name kind ∉ parts := by simpa using hnamed
        refine ⟨blocks, hcut, rfl, ?_⟩
        obtain ⟨component, block, rest, rfl⟩ := hcut.exists_cons_cons
        exact .of_notMem hnotMem

namespace Route

/-- A cut of a path in which every named segment has a block that is not empty and begins
with the segment's text. -/
def ExtractsFrom (route : Route) (path : String) (blocks : List (List String)) : Prop :=
  Cut (fun _ => True) route.parts.toList blocks ∧ blocks.flatten = components path ∧
    ∀ (position : Nat) (name : String) (kind : Kind),
      route.parts.toList[position]? = some (.named name kind) →
        ∃ component rest, blocks[position]? = some (component :: rest) ∧
          route.getText path name = some component

variable {template : String} {route : Route}

theorem getText_eq_getElem? (h : compile template = .ok route) {position : Nat}
    {name : String} {kind : Kind}
    (hpart : route.parts.toList[position]? = some (.named name kind)) (path : String) :
    route.getText path name = (components path)[position]? := by
  have hmem : (⟨position, name, kind⟩ : Segment) ∈ route.segments := mem_segments.mpr hpart
  exact getText_of_mem h hmem path

theorem extractsFrom_iff (h : compile template = .ok route) (path : String)
    (blocks : List (List String)) :
    route.ExtractsFrom path blocks ↔
      Cut (fun _ => True) route.parts.toList blocks ∧ blocks.flatten = components path ∧
        BeginsAtPositions route.parts.toList (components path) blocks := by
  refine and_congr_right fun _ => and_congr_right fun _ => ?_
  constructor
  · intro hextracts position name kind hpart
    rw [← getText_eq_getElem? h hpart]
    exact hextracts position name kind hpart
  · intro hbegins position name kind hpart
    rw [getText_eq_getElem? h hpart]
    exact hbegins position name kind hpart

/-- A path of components that a template's parts can take is accepted if the kinds read what
stands at their positions. -/
theorem accepts_joined (h : compile template = .ok route) {blocks : List (List String)}
    (hcut : Cut OneLine route.parts.toList blocks)
    (hundivided : ∀ component ∈ blocks.flatten, IsUndivided component.toList)
    (hlast : blocks.flatten.getLast? ≠ some "")
    (hread : SegmentsRead route.parts.toList blocks.flatten) :
    components (joined blocks.flatten) = blocks.flatten ∧
      route.accepts (joined blocks.flatten) := by
  have hne : blocks.flatten ≠ [] := by
    obtain ⟨component, block, rest, rfl⟩ := hcut.exists_cons_cons
    simp
  have hcomponents := components_joined hne hundivided hlast
  refine ⟨hcomponents, ?_⟩
  rw [accepts, Bool.and_eq_true, fits_iff h, validates_iff h, hcomponents]
  exact ⟨⟨blocks, hcut, rfl⟩, hread⟩

theorem exists_split_of_isInterrupted {parts : List Part} (h : IsInterrupted parts) :
    ∃ front part back, parts = front ++ part :: back ∧ part.IsOpen ∧
      ∃ (index later : Nat) (text name : String) (kind : Kind), index < later ∧
        back[index]? = some (.literal text) ∧ back[later]? = some (.named name kind) := by
  obtain ⟨part, text, name, kind, hopen, hsub⟩ := h
  obtain ⟨upTo, behind, rfl, hpart, hbehind⟩ := List.cons_sublist_iff.mp hsub
  obtain ⟨front, between, rfl⟩ := List.append_of_mem hpart
  obtain ⟨first, second, rfl, htext, hnamed⟩ := List.cons_sublist_iff.mp hbehind
  obtain ⟨index, hindex⟩ := List.mem_iff_getElem?.mp htext
  obtain ⟨later, hlater⟩ := List.mem_iff_getElem?.mp (List.singleton_sublist.mp hnamed)
  have hlt := (List.getElem?_eq_some_iff.mp hindex).1
  refine ⟨front, part, between ++ (first ++ second), by simp, hopen, between.length + index,
    between.length + (first.length + later), text, name, kind, by omega, ?_, ?_⟩
  · rw [List.getElem?_append_right (by omega), Nat.add_sub_cancel_left,
      List.getElem?_append_left hlt, hindex]
  · rw [List.getElem?_append_right (by omega), Nat.add_sub_cancel_left,
      List.getElem?_append_right (by omega), Nat.add_sub_cancel_left, hlater]

theorem exists_bound (parts : List Part) :
    ∃ size, ∀ text, .literal text ∈ parts → text.toList.length ≤ size := by
  induction parts with
  | nil => exact ⟨0, by simp⟩
  | cons part parts ih =>
      obtain ⟨size, hsize⟩ := ih
      refine ⟨(part.sample "").toList.length + size, ?_⟩
      intro text hmem
      rcases List.mem_cons.mp hmem with rfl | hmem
      · exact Nat.le_add_right _ _
      · exact Nat.le_trans (hsize text hmem) (Nat.le_add_left _ _)

theorem stray_accepted (h : compile template = .ok route) {front back : List Part}
    {part : Part} (hparts : route.parts.toList = front ++ part :: back) (hopen : part.IsOpen)
    (hback : back ≠ []) (size : Nat) :
    components (joined (strayBlocks front back size).flatten) =
        (strayBlocks front back size).flatten ∧
      route.accepts (joined (strayBlocks front back size).flatten) := by
  apply accepts_joined h
  · rw [hparts]
    exact cut_strayBlocks front back size hopen
  · intro component hmem
    obtain ⟨part', hmem', count, rfl⟩ := sample_of_mem_strayBlocks front back size hopen hmem
    rw [← hparts] at hmem'
    obtain ⟨position, hposition⟩ := List.mem_iff_getElem?.mp hmem'
    cases part' with
    | literal text =>
        exact undivided_of_mem_components (List.mem_of_getElem? (getElem?_of_literal h hposition))
    | wildcard | named name kind => exact undivided_zeros count
  · intro hlast
    obtain ⟨last, hlastPart⟩ : ∃ last, back.getLast? = some last :=
      ⟨_, List.getLast?_eq_some_getLast hback⟩
    rw [getLast?_strayBlocks front back size hlastPart, Option.some.injEq] at hlast
    cases last with
    | literal text =>
        have hrest := rest_eq_nil_of_getLast? h (by
          rw [hparts, List.getLast?_append, List.getLast?_cons, hlastPart]
          simpa [Part.sample] using hlast)
        have hlength := congrArg List.length hparts
        simp only [Delimited.toList, hrest, List.map_nil, List.length_append,
          List.length_cons, List.length_nil] at hlength
        exact hback (List.length_eq_zero_iff.mp (by omega))
    | wildcard | named name kind =>
        have hlength := congrArg (·.toList.length) hlast
        simp [Part.sample, length_toList_zeros] at hlength
  · intro position name kind hpart
    rw [hparts] at hpart
    exact ⟨_, getElem?_strayBlocks_of_open front back size hpart trivial,
      isSome_parse_zeros kind size⟩

/-- An interrupted template accepts a path whose texts are not what the match gave to the
segments. -/
theorem exists_path_not_extractsFrom (h : compile template = .ok route)
    (hinterrupted : IsInterrupted route.parts.toList) :
    ∃ path, route.accepts path ∧ ¬ ∃ blocks, route.ExtractsFrom path blocks := by
  obtain ⟨front, part, back, hparts, hopen, index, later, text, name, kind, hlt, hliteral,
    hnamed⟩ := exists_split_of_isInterrupted hinterrupted
  obtain ⟨size, hsize⟩ := exists_bound route.parts.toList
  have hback : back ≠ [] := by
    rintro rfl
    simp at hliteral
  obtain ⟨hcomponents, haccepts⟩ := stray_accepted h hparts hopen hback size
  refine ⟨_, haccepts, ?_⟩
  rintro ⟨blocks, hextracts⟩
  rw [extractsFrom_iff h, hcomponents, hparts] at hextracts
  rw [hparts] at hsize
  obtain ⟨hcut, hflatten, hbegins⟩ := hextracts
  exact not_beginsAtPositions_stray front back size hsize hliteral hnamed hlt hcut hflatten
    hbegins

theorem exists_extractsFrom (h : compile template = .ok route)
    (hclear : ¬ IsInterrupted route.parts.toList) {path : String} (haccepts : route.accepts path) :
    ∃ blocks, route.ExtractsFrom path blocks := by
  rw [accepts, Bool.and_eq_true, fits_iff h, validates_iff h] at haccepts
  obtain ⟨⟨blocks, hcut, hflatten⟩, hread⟩ := haccepts
  obtain ⟨blocks', hcut', hflatten', hbegins⟩ := exists_cut_beginsAtPositions hcut
    (fun position name kind hpart => by
      obtain ⟨text, htext, _⟩ := hread position name kind hpart
      rw [hflatten]
      exact (List.getElem?_eq_some_iff.mp htext).1)
    hclear
  rw [hflatten] at hflatten' hbegins
  exact ⟨blocks', (extractsFrom_iff h path blocks').mpr
    ⟨hcut'.mono fun _ _ => trivial, hflatten', hbegins⟩⟩

/-- What extraction takes is the component at the segment's position. No cut gives it to a
part behind the segment, and some cut gives it to the segment as the first of its block, on
every path that matches, just when the template is not interrupted. -/
theorem extraction_agrees_iff_not_isInterrupted (h : compile template = .ok route) :
    (∀ path, route.accepts path → ∀ (position : Nat) (name : String) (kind : Kind),
      route.parts.toList[position]? = some (.named name kind) →
        (∃ text, (components path)[position]? = some text ∧
          route.getText path name = some text) ∧
        ∀ blocks, Cut (fun _ => True) route.parts.toList blocks →
          blocks.flatten = components path →
            position < (blocks.take (position + 1)).flatten.length) ∧
      ((∀ path, route.accepts path → ∃ blocks, route.ExtractsFrom path blocks) ↔
        ¬ IsInterrupted route.parts.toList) := by
  constructor
  · intro path haccepts position name kind hpart
    rw [accepts, Bool.and_eq_true, validates_iff h] at haccepts
    obtain ⟨text, htext, -⟩ := haccepts.2 position name kind hpart
    refine ⟨⟨text, htext, by rw [getText_eq_getElem? h hpart, htext]⟩, ?_⟩
    intro blocks hcut hflatten
    apply hcut.lt_start_succ (List.getElem?_eq_some_iff.mp hpart).1
    rw [hflatten]
    exact (List.getElem?_eq_some_iff.mp htext).1
  · constructor
    · intro hextracts hinterrupted
      obtain ⟨path, haccepts, hnone⟩ := exists_path_not_extractsFrom h hinterrupted
      exact hnone (hextracts path haccepts)
    · intro hclear path haccepts
      exact exists_extractsFrom h hclear haccepts

theorem extraction_agrees_iff_not_isInterrupted_open :
    ∃ route, compile "a/*/:id" = .ok route ∧
      ∀ path, route.accepts path → ∃ blocks, route.ExtractsFrom path blocks := by
  have hcompile : compile "a/*/:id" = .ok ⟨"a/*/:id",
      ⟨.literal "a", [(.slash, .wildcard), (.slash, .named "id" .text)]⟩⟩ := by rfl
  refine ⟨_, hcompile, (extraction_agrees_iff_not_isInterrupted hcompile).2.mpr ?_⟩
  rintro ⟨part, text, name, kind, hopen, hsub⟩
  obtain ⟨rfl, -⟩ := List.cons_eq_cons.mp (hsub.eq_of_length rfl)
  exact hopen

/-- The wildcard takes two components, so the literal stands where the segment's text is
looked for: the text is `x`, while the match leaves `9` to the segment. -/
theorem text_is_literal_behind_wildcard :
    ∃ route, compile "*/x/:id" = .ok route ∧ route.accepts "a/b/x/9" ∧
      ¬ ∃ blocks, route.ExtractsFrom "a/b/x/9" blocks := by
  have hcompile : compile "*/x/:id" = .ok ⟨"*/x/:id",
      ⟨.wildcard, [(.slash, .literal "x"), (.slash, .named "id" .text)]⟩⟩ := by rfl
  have hcomponents : components "a/b/x/9" = ["a", "b", "x", "9"] := by decide +kernel
  refine ⟨_, hcompile, by decide +kernel, ?_⟩
  rintro ⟨blocks, hextracts⟩
  rw [extractsFrom_iff hcompile, hcomponents] at hextracts
  obtain ⟨hcut, hflatten, hbegins⟩ := hextracts
  obtain ⟨text, rest, hblock, htext⟩ := hbegins 2 "id" .text rfl
  obtain rfl : "x" = text := by simpa using htext
  obtain ⟨middle, hmiddle, hletters⟩ : ∃ middle, blocks[1]? = some [middle] ∧
      SameLetters "x" middle := hcut.exists_block_of_literal rfl
  have hstart := hcut.le_start (List.getElem?_eq_some_iff.mp hmiddle).1
  have hstarts : start blocks 1 + 1 ≤ start blocks 2 :=
    start_add_length_le hmiddle Nat.one_lt_two
  have hbehind := getElem?_start hblock
  have hat := getElem?_start hmiddle
  rw [hflatten] at hbehind hat
  -- the segment's block begins with an `x`, so the component before it is the literal's
  obtain hindex : start blocks 2 = 2 := by
    generalize start blocks 2 = index at hbehind
    rcases index with _ | _ | _ | _ | index <;> simp_all
  obtain hindex' : start blocks 1 = 1 := by omega
  obtain rfl : "b" = middle := by simpa [hindex'] using hat
  exact absurd hletters (by decide)

end Route

end Wayfinding
