import Mathlib.Data.Bool.Basic
import Wayfinding.Proofs.Route.Shape
import Wayfinding.Proofs.Traversal

/-!
Paths written from templates. A template without wildcards and a text for each of its named
segments make a path. The path matches and gives the texts back exactly if the texts can stand
as components: without delimiters and newlines, readable, and not empty at the end. A newline
is what no open part passes over, so a path with more of them than the literals account for
matches in no other alignment either.
-/

namespace Wayfinding

section CountP

variable {α β : Type} {R : α → β → Prop} {p : α → Bool} {q : β → Bool} {as : List α} {bs : List β}

theorem countP_cons_eq (p : α → Bool) (a : α) (as : List α) :
    (a :: as).countP p = (p a).toNat + as.countP p := by
  rw [List.countP_cons, Nat.add_comm]
  cases p a <;> rfl

theorem countP_le_of_forall₂ (h : List.Forall₂ R as bs) (hpq : ∀ a b, R a b → p a ≤ q b) :
    as.countP p ≤ bs.countP q := by
  induction h with
  | nil => exact Nat.le_refl _
  | cons hab _ ih =>
      rw [countP_cons_eq, countP_cons_eq]
      exact Nat.add_le_add (Bool.toNat_le_toNat (hpq _ _ hab)) ih

/-- What holds of the second list no more often than its reason holds of the first has the
reason everywhere. -/
theorem forall₂_eq_of_countP_le (h : List.Forall₂ R as bs) (hpq : ∀ a b, R a b → p a ≤ q b)
    (hle : bs.countP q ≤ as.countP p) : List.Forall₂ (fun a b => q b = p a) as bs := by
  induction h with
  | nil => exact .nil
  | cons hab hrest ih =>
      have hhead := Bool.toNat_le_toNat (hpq _ _ hab)
      have htail := countP_le_of_forall₂ hrest hpq
      rw [countP_cons_eq, countP_cons_eq] at hle
      have hinjective := Function.LeftInverse.injective Bool.ofNat_toNat
      exact .cons (hinjective (by omega)) (ih (by omega))

end CountP

def hasNewline (component : String) : Bool :=
  component.toList.contains '\n'

theorem hasNewline_eq_false_iff {component : String} :
    hasNewline component = false ↔ OneLine component := by
  simp [hasNewline, OneLine]

theorem SameLetters.hasNewline_eq {a b : String} (h : SameLetters a b) :
    hasNewline a = hasNewline b := by
  rw [Bool.eq_iff_iff]
  simp only [hasNewline, List.contains_iff_mem, ← newline_mem_folded_iff]
  rw [h]

namespace Part

theorem read_eq_wildcard_iff {component : String} :
    read component = .ok .wildcard ↔ component = "*" := by
  constructor
  · intro h
    simp only [read, readToken] at h
    split at h
    · rename_i hstar
      rw [← String.toList_inj, hstar]
      rfl
    · repeat' split at h
      all_goals cases h
    · cases h
  · rintro rfl
    rfl

def isBroken : Part → Bool
  | literal text => hasNewline text
  | wildcard | named _ _ => false

theorem isBroken_eq_false_of_isOpen {part : Part} (h : part.IsOpen) : part.isBroken = false := by
  cases part with
  | literal text => exact h.elim
  | wildcard | named name kind => rfl

theorem Takes.countP_hasNewline {part : Part} {block : List String}
    (h : part.Takes OneLine block) : block.countP hasNewline = part.isBroken.toNat := by
  rcases part.isOpen_or_eq_literal with hopen | ⟨text, rfl⟩
  · rw [takes_open_iff hopen] at h
    rw [isBroken_eq_false_of_isOpen hopen, Bool.toNat_false, List.countP_eq_zero]
    intro component hmem
    simp [hasNewline_eq_false_iff.mpr (h.2 component hmem)]
  · obtain ⟨component, rfl, hletters⟩ := h
    rw [isBroken, hletters.hasNewline_eq, List.countP_singleton]
    cases hasNewline component <;> rfl

end Part

/-- However a path is cut, as many of its components hold newlines as literals do. -/
theorem Cut.countP_hasNewline {parts : List Part} {blocks : List (List String)}
    (h : Cut OneLine parts blocks) :
    blocks.flatten.countP hasNewline = parts.countP Part.isBroken := by
  induction h with
  | single h => rw [List.flatten_singleton, h.countP_hasNewline, countP_cons_eq, List.countP_nil,
      Nat.add_zero]
  | spent h hlast =>
      rw [countP_cons_eq, countP_cons_eq, Part.isBroken_eq_false_of_isOpen hlast, List.countP_nil]
      simpa using h.countP_hasNewline
  | cons h _ ih =>
      rw [countP_cons_eq, List.flatten_cons, List.countP_append, h.countP_hasNewline, ih]

namespace Route

variable {template path : String} {route : Route} {texts : String → Option String}

/-- Components that the parts of a template become. -/
abbrev Fills (texts : String → Option String) (parts : List Part) (items : List String) : Prop :=
  List.Forall₂ (fun part item => fillPart texts part = some item.toList) parts items

theorem isSome_fillPart_iff {part : Part} :
    (fillPart texts part).isSome ↔
      part ≠ .wildcard ∧ ∀ name kind, part = .named name kind → (texts name).isSome := by
  cases part <;> simp [fillPart]

theorem isSome_reverse_iff :
    (route.reverse texts).isSome ↔ ∀ part ∈ route.parts.toList, (fillPart texts part).isSome := by
  have hrest : (∀ piece ∈ route.parts.rest, ((fillPart texts piece.2).map (piece.1, ·)).isSome) ↔
      ∀ part ∈ route.parts.rest.map (·.2), (fillPart texts part).isSome := by
    simp only [List.forall_mem_map, Option.isSome_map]
  rw [Delimited.toList, List.forall_mem_cons, ← hrest, ← isSome_mapM_iff]
  simp only [reverse]
  cases fillPart texts route.parts.first with
  | none => simp
  | some first =>
      cases route.parts.rest.mapM fun piece => (fillPart texts piece.2).map (piece.1, ·) <;> simp

theorem exists_fills_of_reverse (h : route.reverse texts = some path) :
    ∃ d : Delimited (List Char), path = String.ofList d.write ∧
      Fills texts route.parts.toList (d.toList.map String.ofList) := by
  simp only [reverse, Option.bind_eq_bind, Option.bind_eq_some_iff, mapM_eq_some_iff_forall₂] at h
  obtain ⟨first, hfirst, rest, hrest, hpath⟩ := h
  refine ⟨⟨first, rest⟩, (Option.some.inj hpath).symm, .cons (by simpa using hfirst) ?_⟩
  rw [List.map_map, List.forall₂_map_left_iff, List.forall₂_map_right_iff]
  refine hrest.imp fun piece filled hfilled => ?_
  obtain ⟨item, hitem, rfl⟩ := Option.map_eq_some_iff.mp hfilled
  simpa using hitem

/-- A text for every named segment, fit to stand as a component of a path. -/
structure Carries (route : Route) (texts : String → Option String) : Prop where
  undivided : ∀ segment ∈ route.segments, ∀ text ∈ texts segment.name, IsUndivided text.toList
  oneLine : ∀ segment ∈ route.segments, ∀ text ∈ texts segment.name, OneLine text
  reads : ∀ segment ∈ route.segments, ∀ text ∈ texts segment.name,
    (segment.kind.parse text).isSome
  /-- What is empty at the end of a path is no component of it. -/
  ends : ∀ segment ∈ route.segments, 0 < segment.position →
    segment.position + 1 = route.parts.toList.length → texts segment.name ≠ some ""

theorem Fills.getElem?_of_mem {items : List String} (hfills : Fills texts route.parts.toList items)
    {segment : Segment} (hmem : segment ∈ route.segments) :
    ∃ text, texts segment.name = some text ∧ items[segment.position]? = some text := by
  obtain ⟨item, hitem, hfill⟩ := exists_getElem?_of_forall₂ hfills.flip (mem_segments.mp hmem)
  obtain ⟨text, htext, hsame⟩ := Option.map_eq_some_iff.mp hfill
  refine ⟨text, htext, ?_⟩
  rw [String.toList_inj.mp hsame]
  exact hitem

theorem Fills.getElem?_eq {items : List String} (hfills : Fills texts route.parts.toList items)
    {segment : Segment} (hmem : segment ∈ route.segments) {text : String}
    (htext : texts segment.name = some text) : items[segment.position]? = some text := by
  obtain ⟨found, hfound, hitem⟩ := hfills.getElem?_of_mem hmem
  rwa [← hfound.symm.trans htext]

theorem Fills.undivided (h : compile template = .ok route) {items : List String}
    (hfills : Fills texts route.parts.toList items)
    (htexts : ∀ segment ∈ route.segments, ∀ text ∈ texts segment.name,
      IsUndivided text.toList) : ∀ item ∈ items, IsUndivided item.toList := by
  intro item hmem
  obtain ⟨position, hitem⟩ := List.mem_iff_getElem?.mp hmem
  obtain ⟨part, hpart, hfill⟩ := exists_getElem?_of_forall₂ hfills hitem
  cases part with
  | literal text =>
      obtain rfl : text = item := String.toList_inj.mp (Option.some.inj hfill)
      exact undivided_of_mem_components (List.mem_of_getElem? (getElem?_of_literal h hpart))
  | wildcard => cases hfill
  | named name kind =>
      obtain ⟨text, htext, heq⟩ := Option.map_eq_some_iff.mp hfill
      obtain rfl : text = item := String.toList_inj.mp heq
      exact htexts ⟨position, name, kind⟩ (mem_segments.mpr hpart) text htext

theorem Fills.getLast?_ne (h : compile template = .ok route) {items : List String}
    (hfills : Fills texts route.parts.toList items) (hlong : 1 < items.length)
    (hends : ∀ segment ∈ route.segments, 0 < segment.position →
      segment.position + 1 = route.parts.toList.length → texts segment.name ≠ some "") :
    items.getLast? ≠ some "" := by
  intro hlast
  rw [List.getLast?_eq_getElem?] at hlast
  obtain ⟨part, hpart, hfill⟩ := exists_getElem?_of_forall₂ hfills hlast
  have hlength := hfills.length_eq
  cases part with
  | literal text =>
      obtain rfl : text = "" := String.toList_inj.mp (Option.some.inj hfill)
      have hrest := rest_eq_nil_of_getLast? h (by
        rw [List.getLast?_eq_getElem?, hlength, hpart])
      simp only [Delimited.toList, hrest, List.map_nil, List.length_singleton] at hlength
      omega
  | wildcard => cases hfill
  | named name kind =>
      obtain ⟨text, htext, heq⟩ := Option.map_eq_some_iff.mp hfill
      obtain rfl : text = "" := String.toList_inj.mp heq
      have hmem : (⟨items.length - 1, name, kind⟩ : Segment) ∈ route.segments :=
        mem_segments.mpr hpart
      exact hends _ hmem (by simp only; omega) (by simp only; omega) htext

theorem Fills.components_eq (h : compile template = .ok route) {d : Delimited (List Char)}
    (hfills : Fills texts route.parts.toList (d.toList.map String.ofList))
    (htexts : ∀ segment ∈ route.segments, ∀ text ∈ texts segment.name,
      IsUndivided text.toList)
    (hends : ∀ segment ∈ route.segments, 0 < segment.position →
      segment.position + 1 = route.parts.toList.length → texts segment.name ≠ some "") :
    components (String.ofList d.write) = d.toList.map String.ofList := by
  apply components_write
  · intro item hmem
    simpa using hfills.undivided h htexts _ (List.mem_map_of_mem hmem)
  · obtain ⟨first, rest⟩ := d
    intro pair hpair hempty
    have hne : rest ≠ [] := by
      rintro rfl
      simp at hpair
    refine hfills.getLast?_ne h ?_ hends ?_
    · simpa [Delimited.toList] using List.length_pos_iff.mpr hne
    · simp only [Option.mem_def] at hpair
      simp [Delimited.toList, List.getLast?_cons, hpair, hempty]

theorem Fills.takes {items : List String} (hfills : Fills texts route.parts.toList items)
    (hlines : ∀ segment ∈ route.segments, ∀ text ∈ texts segment.name, OneLine text) :
    List.Forall₂ (Part.Takes OneLine) route.parts.toList (items.map ([·])) := by
  rw [List.forall₂_map_right_iff, List.forall₂_iff_get]
  refine ⟨hfills.length_eq, fun position hpart hitem => ?_⟩
  have hfill := hfills.get hpart hitem
  have hget := List.getElem?_eq_getElem hpart
  rw [List.get_eq_getElem] at hfill ⊢
  cases hp : route.parts.toList[position] with
  | literal text =>
      rw [hp] at hfill
      exact ⟨_, rfl, congrArg folded (String.toList_inj.mp (Option.some.inj hfill))⟩
  | wildcard =>
      rw [hp] at hfill
      cases hfill
  | named name kind =>
      rw [hp] at hfill hget
      obtain ⟨text, htext, heq⟩ := Option.map_eq_some_iff.mp hfill
      rw [← String.toList_inj.mp heq]
      exact ⟨List.cons_ne_nil _ _, List.forall_mem_singleton.mpr
        (hlines ⟨position, name, kind⟩ (mem_segments.mpr hget) text htext)⟩

/-- Where components that are written from texts can be cut for the template, the literals use
up all that hold newlines. -/
theorem Fills.oneLine_of_cut {items : List String}
    (hfills : Fills texts route.parts.toList items) {blocks : List (List String)}
    (hcut : Cut OneLine route.parts.toList blocks) (hflatten : blocks.flatten = items) :
    ∀ segment ∈ route.segments, ∀ text ∈ texts segment.name, OneLine text := by
  have hcount := hcut.countP_hasNewline
  rw [hflatten] at hcount
  have hbroken := forall₂_eq_of_countP_le (q := hasNewline) hfills ?_ (Nat.le_of_eq hcount)
  · intro segment hmem text htext
    have hpart := List.getElem?_eq_some_iff.mp (mem_segments.mp hmem)
    have hitem := List.getElem?_eq_some_iff.mp (hfills.getElem?_eq hmem htext)
    have hline := hbroken.get hpart.1 hitem.1
    rw [List.get_eq_getElem, List.get_eq_getElem, hpart.2, hitem.2] at hline
    exact hasNewline_eq_false_iff.mp hline
  · intro part item hfill
    cases part with
    | literal text =>
        obtain rfl : text = item := String.toList_inj.mp (Option.some.inj hfill)
        exact Bool.le_refl _
    | wildcard | named name kind => exact Bool.false_le _

theorem Carries.accepts (h : compile template = .ok route) (hcarries : route.Carries texts)
    {d : Delimited (List Char)}
    (hfills : Fills texts route.parts.toList (d.toList.map String.ofList)) :
    route.accepts (String.ofList d.write) ∧ ∀ segment ∈ route.segments,
      route.getText (String.ofList d.write) segment.name = texts segment.name := by
  have hcomponents := hfills.components_eq h hcarries.undivided hcarries.ends
  have hcut := Cut.of_forall₂ (List.cons_ne_nil _ _) (hfills.takes hcarries.oneLine)
  refine ⟨?_, fun segment hmem => ?_⟩
  · rw [Route.accepts, Bool.and_eq_true, fits_iff h, validates_iff h, hcomponents]
    refine ⟨⟨_, hcut, by rw [← List.flatMap_def, List.flatMap_singleton']⟩, ?_⟩
    intro position name kind hpart
    have hmem : (⟨position, name, kind⟩ : Segment) ∈ route.segments := mem_segments.mpr hpart
    obtain ⟨text, htext, hitem⟩ := hfills.getElem?_of_mem hmem
    exact ⟨text, hitem, hcarries.reads _ hmem text htext⟩
  · obtain ⟨text, htext, hitem⟩ := hfills.getElem?_of_mem hmem
    rw [getText_of_mem h hmem, hcomponents, hitem, htext]

theorem carries_of_accepts (h : compile template = .ok route) {d : Delimited (List Char)}
    (hfills : Fills texts route.parts.toList (d.toList.map String.ofList))
    (haccepts : route.accepts (String.ofList d.write))
    (hfound : ∀ segment ∈ route.segments,
      route.getText (String.ofList d.write) segment.name = texts segment.name) :
    route.Carries texts := by
  rw [Route.accepts, Bool.and_eq_true, fits_iff h, validates_iff h] at haccepts
  obtain ⟨⟨blocks, hcut, hflatten⟩, hread⟩ := haccepts
  have hat : ∀ segment ∈ route.segments, ∀ text ∈ texts segment.name,
      (components (String.ofList d.write))[segment.position]? = some text := by
    intro segment hmem text htext
    rw [← getText_of_mem h hmem, hfound segment hmem]
    exact htext
  have hundivided : ∀ segment ∈ route.segments, ∀ text ∈ texts segment.name,
      IsUndivided text.toList := fun segment hmem text htext =>
    undivided_of_mem_components (List.mem_of_getElem? (hat segment hmem text htext))
  have hends : ∀ segment ∈ route.segments, 0 < segment.position →
      segment.position + 1 = route.parts.toList.length → texts segment.name ≠ some "" := by
    intro segment hmem hpos hlast hempty
    have hprefix := components_write_prefix d fun item hitem => by
      simpa using hfills.undivided h hundivided _ (List.mem_map_of_mem hitem)
    have hget := hat segment hmem "" hempty
    have hlength : (components (String.ofList d.write)).length = segment.position + 1 := by
      have hlt := (List.getElem?_eq_some_iff.mp hget).1
      have hle := hprefix.length_le
      rw [← hfills.length_eq, ← hlast] at hle
      exact Nat.le_antisymm hle hlt
    have hsingle : components (String.ofList d.write) = [""] :=
      components_eq_of_getLast?_eq_empty (by
        rw [List.getLast?_eq_getElem?, hlength, Nat.add_sub_cancel, hget])
    rw [hsingle, List.length_singleton] at hlength
    omega
  have hcomponents := hfills.components_eq h hundivided hends
  refine ⟨hundivided, hfills.oneLine_of_cut hcut (hflatten.trans hcomponents), ?_, hends⟩
  intro segment hmem text htext
  obtain ⟨read, hget, hparse⟩ := hread _ _ _ (mem_segments.mp hmem)
  rwa [← Option.some.inj ((hat segment hmem text htext).symm.trans hget)] at hparse

theorem exists_values (h : compile template = .ok route) (haccepts : route.accepts path)
    (hfound : ∀ segment ∈ route.segments, route.getText path segment.name = texts segment.name) :
    ∃ values, route.values path = some values ∧
      List.Forall₂ (fun segment entry => entry.1 = segment.name ∧
        (texts segment.name).bind segment.kind.parse = some entry.2) route.segments values := by
  have hvalue : ∀ segment ∈ route.segments,
      route.value path segment.name = (texts segment.name).bind segment.kind.parse := by
    intro segment hmem
    rw [value_of_mem h hmem, ← getText_of_mem h hmem, hfound segment hmem]
  have hvalidates : route.validates path := (Bool.and_eq_true_iff.mp haccepts).2
  have hsome : (route.values path).isSome := by
    rw [values, if_pos haccepts, isSome_mapM_iff]
    intro segment hmem
    rw [Option.isSome_map]
    exact List.all_eq_true.mp hvalidates segment hmem
  obtain ⟨values, hvalues⟩ := Option.isSome_iff_exists.mp hsome
  refine ⟨values, hvalues, ?_⟩
  rw [Route.values, if_pos haccepts, mapM_eq_some_iff_forall₂, List.forall₂_iff_get] at hvalues
  rw [List.forall₂_iff_get]
  refine ⟨hvalues.1, fun position hsegment hentry => ?_⟩
  obtain ⟨value, hget, heq⟩ := Option.map_eq_some_iff.mp (hvalues.2 position hsegment hentry)
  rw [hvalue _ (List.get_mem _ _)] at hget
  rw [← heq]
  exact ⟨rfl, hget⟩

theorem isSome_fillPart_iff_forall_segments (h : compile template = .ok route) :
    (∀ part ∈ route.parts.toList, (fillPart texts part).isSome) ↔
      "*" ∉ components template ∧ ∀ segment ∈ route.segments, (texts segment.name).isSome := by
  have hreads := reads_of_compile h
  constructor
  · intro hall
    constructor
    · intro hstar
      obtain ⟨position, hcomponent⟩ := List.mem_iff_getElem?.mp hstar
      obtain ⟨hlt, hget⟩ := List.getElem?_eq_some_iff.mp hcomponent
      have hread := hreads.get hlt (hreads.length_eq ▸ hlt)
      rw [List.get_eq_getElem, hget, List.get_eq_getElem] at hread
      have hwildcard := Except.ok.inj (hread.symm.trans (Part.read_eq_wildcard_iff.mpr rfl))
      have hfill := hall _ (List.getElem_mem (hreads.length_eq ▸ hlt))
      rw [hwildcard] at hfill
      cases hfill
    · intro segment hmem
      have hfill := hall _ (List.mem_of_getElem? (mem_segments.mp hmem))
      exact (isSome_fillPart_iff.mp hfill).2 _ _ rfl
  · rintro ⟨hstar, htexts⟩ part hmem
    obtain ⟨position, hpart⟩ := List.mem_iff_getElem?.mp hmem
    refine isSome_fillPart_iff.mpr ⟨?_, ?_⟩
    · rintro rfl
      obtain ⟨component, hcomponent, hread⟩ := hreads.getElem? hpart
      rw [Part.read_eq_wildcard_iff.mp hread] at hcomponent
      exact hstar (List.mem_of_getElem? hcomponent)
    · rintro name kind rfl
      exact htexts ⟨position, name, kind⟩ (mem_segments.mpr hpart)

/-- A template without wildcards can be written with a text for each named segment, and no
other can. The path matches and has these texts exactly if they are fit to stand as
components, and then its values are their readings. -/
theorem reverse_reads_back_iff_carries (h : compile template = .ok route)
    (texts : String → Option String) :
    ((route.reverse texts).isSome ↔
      "*" ∉ components template ∧ ∀ segment ∈ route.segments, (texts segment.name).isSome) ∧
    ∀ path, route.reverse texts = some path →
      ((route.accepts path ∧
          ∀ segment ∈ route.segments, route.getText path segment.name = texts segment.name) ↔
        route.Carries texts) ∧
      (route.Carries texts → ∃ values, route.values path = some values ∧
        List.Forall₂ (fun segment entry => entry.1 = segment.name ∧
          (texts segment.name).bind segment.kind.parse = some entry.2) route.segments values) := by
  refine ⟨isSome_reverse_iff.trans (isSome_fillPart_iff_forall_segments h), ?_⟩
  intro path hpath
  obtain ⟨d, rfl, hfills⟩ := exists_fills_of_reverse hpath
  constructor
  · constructor
    · rintro ⟨haccepts, hfound⟩
      exact carries_of_accepts h hfills haccepts hfound
    · intro hcarries
      exact hcarries.accepts h hfills
  · intro hcarries
    obtain ⟨haccepts, hfound⟩ := hcarries.accepts h hfills
    exact exists_values h haccepts hfound

/-- The literal is a newline, and the text before it is empty. -/
theorem reverse_reads_back_iff_carries_newline :
    ∃ route, compile ":a/\n?:n:int" = .ok route ∧
      let texts := fun name => if name = "a" then some "" else some "+7"
      route.reverse texts = some "/\n?+7" ∧ route.Carries texts ∧
        (∃ values, route.values "/\n?+7" = some values ∧ values.length = 2) ∧
        ¬ route.Carries fun name => if name = "a" then some "\n" else some "+7" := by
  have hcompile : compile ":a/\n?:n:int" = .ok ⟨":a/\n?:n:int",
      ⟨.named "a" .text, [(.slash, .literal "\n"), (.question, .named "n" .integer)]⟩⟩ := by rfl
  refine ⟨_, hcompile, ?_⟩
  intro texts
  have hreverse := reverse_reads_back_iff_carries hcompile
  have hcarries := (((hreverse texts).2 "/\n?+7" (by rfl)).1).mp
    ⟨by decide +kernel, by decide +kernel⟩
  obtain ⟨values, hvalues, hentries⟩ := ((hreverse texts).2 "/\n?+7" (by rfl)).2 hcarries
  refine ⟨by rfl, hcarries, ⟨values, hvalues, hentries.length_eq.symm⟩, ?_⟩
  intro hnewline
  exact absurd (((hreverse _).2 "\n/\n?+7" (by rfl)).1.mpr hnewline).1 (by decide +kernel)

end Route

end Wayfinding
