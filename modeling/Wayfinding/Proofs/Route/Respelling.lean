import Mathlib.Logic.Relation
import Wayfinding.Proofs.Route.Grammar
import Wayfinding.Proofs.Route.Shape

/-!
Delimiters stand for one another. What a path or a template says is its components, and two
texts have the same ones exactly if delimiters are exchanged in one of them, and added or removed
at its end, until it becomes the other. Routes see nothing but the components of a path, and of a
template its delimiters only show where it is written out again.
-/

namespace Wayfinding

/-- A delimiter is replaced by another, or added or removed at the end. -/
inductive Respells : List Char → List Char → Prop where
  | replace (front back : List Char) (d d' : Delimiter) :
      Respells (front ++ d.toChar :: back) (front ++ d'.toChar :: back)
  | add (text : List Char) (d : Delimiter) : Respells text (text ++ [d.toChar])
  | remove (text : List Char) (d : Delimiter) : Respells (text ++ [d.toChar]) text

/-- One text becomes the other by steps of that kind. -/
abbrev Respells.Reaches : List Char → List Char → Prop := Relation.ReflTransGen Respells

def DelimiterEquivalent (text text' : String) : Prop :=
  Respells.Reaches text.toList text'.toList

namespace Delimited

theorem map_dropEmptyEnd_congr {items items' : List (Delimiter × List Char)}
    (h : items.map (·.2) = items'.map (·.2)) :
    (dropEmptyEnd items).map (·.2) = (dropEmptyEnd items').map (·.2) := by
  induction items generalizing items' with
  | nil =>
      obtain rfl := List.map_eq_nil_iff.mp h.symm
      rfl
  | cons item items ih =>
      obtain ⟨item', rest', rfl, hitem, hrest⟩ := List.map_eq_cons_iff.mp h.symm
      have hkept := ih hrest.symm
      have hempty := congrArg List.isEmpty hkept
      rw [List.isEmpty_map, List.isEmpty_map] at hempty
      rw [dropEmptyEnd_cons, dropEmptyEnd_cons, hempty, hitem]
      split
      · rfl
      · rw [List.map_cons, List.map_cons, hkept, hitem]

end Delimited

namespace Respells

variable {text text' : List Char}

instance : Std.Symm Respells where
  symm _ _ h := by
    cases h with
    | replace front back d d' => exact .replace front back d' d
    | add _ d => exact .remove _ d
    | remove _ d => exact .add _ d

theorem toList_split_eq (h : Respells text text') :
    (Delimited.split text).toList = (Delimited.split text').toList := by
  cases h with
  | replace front back d d' =>
      simp only [Delimited.split, Delimited.splitAll_append_cons, Delimited.toList]
      exact congrArg _ (Delimited.map_dropEmptyEnd_congr (by simp))
  | add _ d => exact congrArg Delimited.toList (Delimited.split_concat _ d).symm
  | remove _ d => exact congrArg Delimited.toList (Delimited.split_concat _ d)

theorem Reaches.toList_split_eq (h : Reaches text text') :
    (Delimited.split text).toList = (Delimited.split text').toList := by
  induction h with
  | refl => rfl
  | tail _ hstep ih => exact ih.trans hstep.toList_split_eq

/-- Slashes can take the place of all delimiters, without those that nothing follows. -/
theorem reaches_slashes (front : List Char) (items : List (Delimiter × List Char)) :
    Reaches (front ++ items.flatMap fun (d, item) => d.toChar :: item)
      (front ++ (Delimited.dropEmptyEnd items).flatMap fun (_, item) => '/' :: item) := by
  induction items generalizing front with
  | nil => exact .refl
  | cons piece items ih =>
      obtain ⟨d, item⟩ := piece
      have hslash := Respells.replace front
        (item ++ items.flatMap fun (d, item) => d.toChar :: item) d .slash
      have hrest := ih (front ++ '/' :: item)
      rw [List.append_assoc, List.append_assoc] at hrest
      refine (Relation.ReflTransGen.single hslash).trans (hrest.trans ?_)
      rw [Delimited.dropEmptyEnd_cons]
      split
      · rename_i hempty
        rw [Bool.and_eq_true, List.isEmpty_iff, List.isEmpty_iff] at hempty
        obtain ⟨hkept, rfl⟩ := hempty
        have hend := Respells.remove front .slash
        simpa [hkept, Delimiter.toChar] using Relation.ReflTransGen.single hend
      · exact .refl

end Respells

theorem delimiterEquivalent_joined (text : String) :
    DelimiterEquivalent text (joined (components text)) := by
  let all := Delimited.splitAll text.toList
  have hall : text.toList = all.first ++ all.rest.flatMap fun (d, item) => d.toChar :: item :=
    (Delimited.write_splitAll text.toList).symm
  have hjoined : (joined (components text)).toList =
      all.first ++ (Delimited.dropEmptyEnd all.rest).flatMap fun (_, item) => '/' :: item := by
    simp [joined, components_eq_map, Delimited.split, Delimited.toList, Delimited.write,
      List.flatMap_map, all, Delimiter.toChar]
  rw [DelimiterEquivalent, hall, hjoined]
  exact Respells.reaches_slashes all.first all.rest

theorem delimiterEquivalent_iff {text text' : String} :
    DelimiterEquivalent text text' ↔ components text = components text' := by
  constructor
  · intro h
    rw [components_eq_map, components_eq_map, h.toList_split_eq]
  · intro h
    have hthere := delimiterEquivalent_joined text
    rw [h] at hthere
    exact hthere.trans (symm (delimiterEquivalent_joined text'))

/-- The error as it is for another template. -/
def TemplateError.withTemplate (template : String) : TemplateError → TemplateError
  | malformed _ token fault => malformed template token fault
  | duplicate _ name => duplicate template name
  | tooLarge _ => tooLarge template

namespace Route

theorem readPart_withTemplate (template template' : String) (names : List String)
    (component : String) :
    readPart template' names component =
      (readPart template names component).mapError (·.withTemplate template') := by
  simp only [readPart]
  cases Part.read component with
  | error fault => rfl
  | ok part =>
      cases hname : part.name? with
      | none => simp only [hname, Except.mapError]
      | some name =>
          simp only [hname]
          by_cases hmem : names.contains name = true
          · rw [if_pos hmem, if_pos hmem]
            rfl
          · rw [if_neg hmem, if_neg hmem]
            rfl

theorem readAll_withTemplate (template template' : String) (names components : List String) :
    readAll template' names components =
      (readAll template names components).mapError (·.withTemplate template') := by
  induction components generalizing names with
  | nil => rfl
  | cons component components ih =>
      simp only [readAll, readPart_withTemplate template template']
      cases readPart template names component with
      | error error => rfl
      | ok part =>
          simp only [Except.mapError, ok_bind, ih]
          cases readAll template (part.name?.toList ++ names) components <;> rfl

theorem pattern_eq (route : Route) :
    route.pattern = partPattern route.parts.first ++
      (route.parts.rest.map (·.2)).flatMap (fun part => .char '/' :: partPattern part) ++
        [.optional '/'] := by
  rw [List.flatMap_map]
  rfl

theorem pattern_congr {route route' : Route} (h : route.parts.toList = route'.parts.toList) :
    route.pattern = route'.pattern := by
  obtain ⟨hfirst, hrest⟩ := List.cons_eq_cons.mp h
  rw [pattern_eq, pattern_eq, hfirst, hrest]

theorem segments_congr {route route' : Route} (h : route.parts.toList = route'.parts.toList) :
    route.segments = route'.segments := by
  rw [segments, segments, h]

/-- Templates with the same components compile alike. -/
theorem compile_congr {template template' : String}
    (h : components template = components template') :
    (∀ error, compile template = .error error →
      compile template' = .error (error.withTemplate template')) ∧
    ∀ route, compile template = .ok route → ∃ route', compile template' = .ok route' ∧
      route'.pattern = route.pattern ∧ route'.segments = route.segments := by
  have hreads := readAll_withTemplate template template' [] (components template')
  rcases compile_cases template with ⟨error, hread, hcompile⟩ | ⟨route, -, hread, hcompile⟩
  · rw [← h, hread] at hreads
    rcases compile_cases template' with ⟨error', hread', hcompile'⟩ | ⟨route', -, hread', -⟩
    · rw [← h, hreads] at hread'
      rw [hcompile, hcompile', ← Except.error.inj hread']
      exact ⟨fun _ herror => by rw [Except.error.inj herror], fun _ hroute => nomatch hroute⟩
    · cases hreads.symm.trans (h ▸ hread')
  · rw [← h, hread] at hreads
    rcases compile_cases template' with ⟨error', hread', -⟩ | ⟨route', -, hread', hcompile'⟩
    · cases hreads.symm.trans (h ▸ hread')
    · rw [← h, hreads] at hread'
      have hparts : route'.parts.toList = route.parts.toList := (Except.ok.inj hread').symm
      have hpattern := pattern_congr hparts
      rw [hcompile, hcompile', hpattern]
      split
      · refine ⟨(fun _ herror => nomatch herror), fun _ hroute => ?_⟩
        obtain rfl := Except.ok.inj hroute
        exact ⟨route', rfl, hpattern, segments_congr hparts⟩
      · refine ⟨fun _ herror => ?_, fun _ hroute => nomatch hroute⟩
        obtain rfl := Except.error.inj herror
        rfl

section

variable {route : Route} {path path' : String} (h : components path = components path')

include h

theorem slashed_congr : slashed path = slashed path' := by
  rw [slashed_eq_flatMap, slashed_eq_flatMap, ← map_toList_components, h, map_toList_components]

theorem getText_congr (name : String) : route.getText path name = route.getText path' name := by
  rw [getText, getText, h]

theorem value_congr (name : String) : route.value path name = route.value path' name := by
  simp only [value, getText_congr h]

theorem valueOfKind_congr (kind : Kind) (name : String) :
    route.valueOfKind kind path name = route.valueOfKind kind path' name := by
  simp only [valueOfKind, value_congr h]

theorem accepts_congr : route.accepts path = route.accepts path' := by
  simp only [accepts, fits, validates, slashed_congr h, value_congr h]

theorem values_congr : route.values path = route.values path' := by
  simp only [Route.values, accepts_congr h, value_congr h]

end

end Route

/-- Delimiters are interchangeable in paths and in templates, but for the template that an error
names. -/
theorem delimiters_are_interchangeable {text text' : String} (h : DelimiterEquivalent text text') :
    ((∀ error, Route.compile text = .error error →
        Route.compile text' = .error (error.withTemplate text')) ∧
      ∀ route, Route.compile text = .ok route → ∃ route', Route.compile text' = .ok route' ∧
        route'.pattern = route.pattern ∧ route'.segments = route.segments) ∧
    ∀ route : Route, route.accepts text = route.accepts text' ∧
      route.values text = route.values text' ∧
      ∀ name, route.value text name = route.value text' name ∧
        route.getText text name = route.getText text' name ∧
        route.getInteger text name = route.getInteger text' name ∧
        route.getDecimal text name = route.getDecimal text' name ∧
        route.getFlag text name = route.getFlag text' name := by
  have hcomponents := delimiterEquivalent_iff.mp h
  refine ⟨Route.compile_congr hcomponents, fun route => ⟨Route.accepts_congr hcomponents,
    Route.values_congr hcomponents, fun name => ⟨Route.value_congr hcomponents name,
    Route.getText_congr hcomponents name, ?_, ?_, ?_⟩⟩⟩
  · rw [Route.getInteger, Route.getInteger, Route.valueOfKind_congr hcomponents]
  · rw [Route.getDecimal, Route.getDecimal, Route.valueOfKind_congr hcomponents]
  · rw [Route.getFlag, Route.getFlag, Route.valueOfKind_congr hcomponents]

theorem delimiters_are_interchangeable_search :
    DelimiterEquivalent "find/:q:int" "find?:q:int&/" ∧
      DelimiterEquivalent "find/7" "find&7/" ∧ DelimiterEquivalent ":q/:q/x" ":q?:q&x" ∧
      ∃ route route', Route.compile "find/:q:int" = .ok route ∧
        Route.compile "find?:q:int&/" = .ok route' ∧ route'.segments = [⟨1, "q", .integer⟩] ∧
        route.getInteger "find&7/" "q" = some 7 ∧
        Route.compile ":q?:q&x" = .error (.duplicate ":q?:q&x" "q") := by
  have htemplates : DelimiterEquivalent "find/:q:int" "find?:q:int&/" :=
    delimiterEquivalent_iff.mpr (by decide +kernel)
  have hpaths : DelimiterEquivalent "find/7" "find&7/" :=
    delimiterEquivalent_iff.mpr (by decide +kernel)
  have hrepeated : DelimiterEquivalent ":q/:q/x" ":q?:q&x" :=
    delimiterEquivalent_iff.mpr (by decide +kernel)
  have hcompile : Route.compile "find/:q:int" = .ok ⟨"find/:q:int",
      ⟨.literal "find", [(.slash, .named "q" .integer)]⟩⟩ := by rfl
  obtain ⟨⟨-, hok⟩, -⟩ := delimiters_are_interchangeable htemplates
  obtain ⟨⟨herror, -⟩, -⟩ := delimiters_are_interchangeable hrepeated
  obtain ⟨route', hroute', -, hsegments⟩ := hok _ hcompile
  obtain ⟨-, -, haccessors⟩ := (delimiters_are_interchangeable hpaths).2
    ⟨"find/:q:int", ⟨.literal "find", [(.slash, .named "q" .integer)]⟩⟩
  obtain ⟨-, -, hinteger, -⟩ := haccessors "q"
  exact ⟨htemplates, hpaths, hrepeated, _, route', hcompile, hroute', hsegments.trans (by rfl),
    hinteger.symm.trans (by rfl), herror (.duplicate ":q/:q/x" "q") (by rfl)⟩

end Wayfinding
