import Mathlib.Data.List.Induction
import Wayfinding.Proofs.Route.Token
import Wayfinding.Proofs.Traversal

/-!
The grammar of templates. Components are read one after the other, and one can go wrong in
itself or by a name that a component before it has declared. So what counts is the leftmost
component that cannot follow those before it; a template without one compiles, and its segments
are what its components declare.
-/

namespace Wayfinding

def DeclaresName (component name : String) : Prop := ∃ suffix, Declares component name suffix

structure IsGrammatical (components : List String) : Prop where
  declares : ∀ token, ":" ++ token ∈ components → ∃ name, DeclaresName (":" ++ token) name
  distinct : components.Pairwise fun earlier later =>
    ∀ name, DeclaresName earlier name → ¬ DeclaresName later name

/-- Why a component cannot follow others. -/
inductive Offends (template : String) (earlier : List String) (component : String) :
    TemplateError → Prop where
  | malformed {fault : TokenFault} (h : Malformed component fault) :
      Offends template earlier component (.malformed template component fault)
  | duplicate {name : String} (h : DeclaresName component name)
      (hearlier : ∃ item ∈ earlier, DeclaresName item name) :
      Offends template earlier component (.duplicate template name)

theorem Offends.ne_tooLarge {template : String} {earlier : List String} {component : String}
    {error : TemplateError} (h : Offends template earlier component error) :
    error ≠ .tooLarge template := by
  cases h <;> simp

/-- The error is what is wrong with the first component that cannot follow those before it. -/
def LeftmostOffence (template : String) (components : List String) (error : TemplateError) :
    Prop :=
  ∃ earlier component later, components = earlier ++ component :: later ∧
    IsGrammatical earlier ∧ Offends template earlier component error

theorem IsGrammatical.nil : IsGrammatical [] where
  declares token h := by cases h
  distinct := .nil

theorem IsGrammatical.of_append {earlier later : List String}
    (h : IsGrammatical (earlier ++ later)) : IsGrammatical earlier where
  declares token htoken := h.declares token (List.mem_append_left _ htoken)
  distinct := (List.pairwise_append.mp h.distinct).1

theorem IsGrammatical.concat {earlier : List String} {component : String}
    (h : IsGrammatical earlier)
    (hdeclares : ∀ token, component = ":" ++ token → ∃ name, DeclaresName component name)
    (hnew : ∀ name, DeclaresName component name → ∀ item ∈ earlier, ¬ DeclaresName item name) :
    IsGrammatical (earlier ++ [component]) where
  declares token htoken := by
    rcases List.mem_append.mp htoken with hmem | hmem
    · exact h.declares token hmem
    · obtain rfl := List.mem_singleton.mp hmem
      exact hdeclares token rfl
  distinct := by
    refine List.pairwise_append.mpr ⟨h.distinct, List.pairwise_singleton _ _, ?_⟩
    intro item hitem _ hlast name hdeclared hname
    obtain rfl := List.mem_singleton.mp hlast
    exact hnew name hname item hitem hdeclared

theorem grammatical_or_offends (template : String) {earlier : List String}
    (h : IsGrammatical earlier) (component : String) :
    IsGrammatical (earlier ++ [component]) ∨
      ∃ error, Offends template earlier component error := by
  by_cases hoffends : ∃ error, Offends template earlier component error
  · exact .inr hoffends
  · refine .inl (h.concat ?_ ?_)
    · rintro token rfl
      rcases declares_or_malformed token with ⟨name, hname⟩ | ⟨fault, hfault⟩
      · exact ⟨name, hname⟩
      · exact absurd ⟨_, .malformed hfault⟩ hoffends
    · intro name hname item hitem hearlier
      exact hoffends ⟨_, .duplicate hname ⟨item, hitem, hearlier⟩⟩

theorem isGrammatical_or_leftmostOffence (template : String) (components : List String) :
    IsGrammatical components ∨ ∃ error, LeftmostOffence template components error := by
  induction components using List.reverseRecOn with
  | nil => exact .inl .nil
  | append_singleton earlier component ih =>
      rcases ih with hearlier | ⟨error, before, item, after, rfl, hbefore, hitem⟩
      · exact (grammatical_or_offends template hearlier component).imp_right fun ⟨error, h⟩ =>
          ⟨error, earlier, component, [], rfl, hearlier, h⟩
      · exact .inr ⟨error, before, item, after ++ [component], by simp, hbefore, hitem⟩

/-- The names are those that the components declare. -/
def AreNamesOf (names components : List String) : Prop :=
  ∀ name, name ∈ names ↔ ∃ item ∈ components, DeclaresName item name

theorem declaresName_iff {component name : String} {part : Part}
    (hread : Part.read component = .ok part) :
    DeclaresName component name ↔ name ∈ part.name?.toList := by
  constructor
  · rintro ⟨suffix, hdeclares⟩
    obtain rfl := Except.ok.inj (hread.symm.trans (Part.read_of_declares hdeclares))
    exact List.mem_singleton_self name
  · intro hname
    cases part with
    | literal text | wildcard => cases hname
    | named found kind =>
        obtain rfl := List.mem_singleton.mp hname
        obtain ⟨suffix, hdeclares, -⟩ := Part.read_eq_named_iff.mp hread
        exact ⟨suffix, hdeclares⟩

theorem AreNamesOf.concat {names components : List String} (h : AreNamesOf names components)
    {component : String} {part : Part} (hread : Part.read component = .ok part) :
    AreNamesOf (part.name?.toList ++ names) (components ++ [component]) := by
  intro name
  simp only [List.mem_append, h name, ← declaresName_iff hread, List.mem_singleton, or_and_right,
    exists_or, exists_eq_left]
  exact or_comm

theorem IsGrammatical.exists_read {components : List String} (h : IsGrammatical components)
    {component : String} (hmem : component ∈ components) :
    ∃ part, Part.read component = .ok part := by
  by_cases hcolon : ∃ token, component = ":" ++ token
  · obtain ⟨token, rfl⟩ := hcolon
    obtain ⟨name, suffix, hdeclares⟩ := h.declares token hmem
    exact ⟨_, Part.read_of_declares hdeclares⟩
  · obtain ⟨part, hread, -⟩ :=
      Part.read_of_no_colon fun token htoken => hcolon ⟨token, htoken⟩
    exact ⟨part, hread⟩

namespace Route

section

variable (template : String) {component : String} {names earlier : List String}
  (hnames : AreNamesOf names earlier)

include hnames

theorem readPart_of_offends {error : TemplateError}
    (h : Offends template earlier component error) :
    readPart template names component = .error error := by
  cases h with
  | malformed hfault => simp only [readPart, Part.read_of_malformed hfault]
  | duplicate hname hearlier =>
      obtain ⟨suffix, hdeclares⟩ := hname
      have hmem := (hnames _).mpr hearlier
      simp [readPart, Part.read_of_declares hdeclares, Part.name?, hmem]

theorem readPart_of_isGrammatical (h : IsGrammatical (earlier ++ [component])) :
    ∃ part, readPart template names component = .ok part ∧ Part.read component = .ok part := by
  obtain ⟨part, hread⟩ := h.exists_read (List.mem_append_right _ (List.mem_singleton_self _))
  refine ⟨part, ?_, hread⟩
  have hnew : ∀ name ∈ part.name?.toList, name ∉ names := by
    intro name hname hmem
    obtain ⟨item, hitem, hearlier⟩ := (hnames name).mp hmem
    exact (List.pairwise_append.mp h.distinct).2.2 item hitem component
      (List.mem_singleton_self _) name hearlier ((declaresName_iff hread).mpr hname)
  simp only [readPart, hread]
  cases hname : part.name? with
  | none => rfl
  | some name =>
      rw [hname] at hnew
      simp [hnew name (List.mem_singleton_self name)]

end

/-- Components read one after the other, as `readParts` does with those of a template. -/
def readAll (template : String) : List String → List String → Except TemplateError (List Part)
  | _, [] => .ok []
  | names, component :: rest => do
    let part ← readPart template names component
    let parts ← readAll template (part.name?.toList ++ names) rest
    pure (part :: parts)

theorem readRest_eq_readAll (template : String) (names : List String)
    (pieces : List (Delimiter × String)) :
    (readRest template names pieces).map (List.map (·.2)) =
      readAll template names (pieces.map (·.2)) := by
  induction pieces generalizing names with
  | nil => rfl
  | cons piece pieces ih =>
      obtain ⟨delimiter, component⟩ := piece
      simp only [readRest, List.map_cons, readAll]
      cases readPart template names component with
      | error error => rfl
      | ok part =>
          simp only [ok_bind, ← ih]
          cases readRest template (part.name?.toList ++ names) pieces <;> rfl

theorem readParts_eq_readAll (template : String) :
    (readParts template).map Delimited.toList = readAll template [] (components template) := by
  simp only [readParts, components, Delimited.toList, readAll]
  cases readPart template [] (Delimited.ofString template).first with
  | error error => rfl
  | ok first =>
      simp only [ok_bind, List.append_nil, ← readRest_eq_readAll]
      cases readRest template first.name?.toList (Delimited.ofString template).rest <;> rfl

theorem readAll_cons_of_ok {template component : String} {names : List String} {part : Part}
    (h : readPart template names component = .ok part) (rest : List String) :
    readAll template names (component :: rest) =
      (readAll template (part.name?.toList ++ names) rest).map (part :: ·) := by
  rw [readAll, h, ok_bind]
  cases readAll template (part.name?.toList ++ names) rest <;> rfl

/-- Reading gets past components that are grammatical, with the names that they declare. -/
theorem exists_readAll_append (template : String) {earlier : List String}
    (h : IsGrammatical earlier) :
    ∃ parts names, AreNamesOf names earlier ∧ ∀ rest,
      readAll template [] (earlier ++ rest) = (readAll template names rest).map (parts ++ ·) := by
  induction earlier using List.reverseRecOn with
  | nil =>
      refine ⟨[], [], fun name => by simp, fun rest => ?_⟩
      rw [List.nil_append]
      cases readAll template [] rest <;> rfl
  | append_singleton earlier component ih =>
      obtain ⟨parts, names, hnames, hreads⟩ := ih h.of_append
      obtain ⟨part, hpart, hread⟩ := readPart_of_isGrammatical template hnames h
      refine ⟨parts ++ [part], part.name?.toList ++ names, hnames.concat hread, fun rest => ?_⟩
      rw [List.append_assoc, List.singleton_append, hreads, readAll_cons_of_ok hpart]
      cases readAll template (part.name?.toList ++ names) rest <;> simp [Except.map]

theorem readAll_of_leftmostOffence {template : String} {components : List String}
    {error : TemplateError} (h : LeftmostOffence template components error) :
    readAll template [] components = .error error := by
  obtain ⟨earlier, component, later, rfl, hearlier, hoffends⟩ := h
  obtain ⟨parts, names, hnames, hreads⟩ := exists_readAll_append template hearlier
  rw [hreads, readAll, readPart_of_offends _ hnames hoffends]
  rfl

theorem exists_readAll_of_isGrammatical (template : String) {components : List String}
    (h : IsGrammatical components) : ∃ parts, readAll template [] components = .ok parts := by
  obtain ⟨parts, names, -, hreads⟩ := exists_readAll_append template h
  have hread := hreads []
  rw [List.append_nil] at hread
  exact ⟨_, hread⟩

theorem isOk_readAll_iff (template : String) {components : List String} :
    (readAll template [] components).isOk ↔ IsGrammatical components := by
  constructor
  · intro hok
    refine (isGrammatical_or_leftmostOffence template components).resolve_right ?_
    rintro ⟨error, hoffence⟩
    rw [readAll_of_leftmostOffence hoffence] at hok
    cases hok
  · intro h
    obtain ⟨parts, hread⟩ := exists_readAll_of_isGrammatical template h
    rw [hread]
    rfl

theorem readAll_eq_error_iff {template : String} {components : List String}
    {error : TemplateError} :
    readAll template [] components = .error error ↔
      LeftmostOffence template components error := by
  constructor
  · intro h
    rcases isGrammatical_or_leftmostOffence template components with hgrammatical | ⟨found, hfound⟩
    · obtain ⟨parts, hread⟩ := exists_readAll_of_isGrammatical template hgrammatical
      cases hread.symm.trans h
    · obtain rfl := Except.error.inj ((readAll_of_leftmostOffence hfound).symm.trans h)
      exact hfound
  · exact readAll_of_leftmostOffence

/-- Compiling fails as reading the components does, or by the size of the pattern. -/
theorem compile_cases (template : String) :
    (∃ error, readAll template [] (components template) = .error error ∧
        compile template = .error error) ∨
      ∃ route : Route, route.template = template ∧
        readAll template [] (components template) = .ok route.parts.toList ∧
        compile template = if route.pattern.size ≤ Pattern.sizeLimit then .ok route
          else .error (.tooLarge template) := by
  rw [← readParts_eq_readAll, compile]
  cases readParts template with
  | error error => exact .inl ⟨error, rfl, rfl⟩
  | ok parts => exact .inr ⟨⟨template, parts⟩, rfl, rfl, rfl⟩

theorem pairwise_segments (route : Route) :
    route.segments.Pairwise fun a b => a.position < b.position := by
  have hpositions : route.parts.toList.zipIdx.Pairwise fun a b => a.2 < b.2 := by
    rw [← List.pairwise_map, List.zipIdx_map_snd]
    exact List.pairwise_lt_range'
  refine hpositions.filterMap _ fun a b hab segment hsegment segment' hsegment' => ?_
  rw [← (Part.segment?_eq_some_iff.mp hsegment).1, ← (Part.segment?_eq_some_iff.mp hsegment').1]
  exact hab

theorem mem_segments_iff_declares {template : String} {route : Route}
    (h : compile template = .ok route) {segment : Segment} :
    segment ∈ route.segments ↔ ∃ component suffix,
      (components template)[segment.position]? = some component ∧
        Declares component segment.name suffix ∧ segment.kind.IsNamedBy suffix := by
  rw [mem_segments]
  constructor
  · intro hpart
    obtain ⟨component, hcomponent, hread⟩ := (reads_of_compile h).getElem? hpart
    obtain ⟨suffix, hdeclares⟩ := Part.read_eq_named_iff.mp hread
    exact ⟨component, suffix, hcomponent, hdeclares⟩
  · rintro ⟨component, suffix, hcomponent, hdeclares⟩
    obtain ⟨part, hpart, hread⟩ := (reads_of_compile h).exists_part hcomponent
    rw [hpart, ← Except.ok.inj ((Part.read_eq_named_iff.mpr ⟨suffix, hdeclares⟩).symm.trans hread)]

/-- Unless its pattern grows too large, a template compiles exactly if it is grammatical, and fails
with the leftmost offence else. Its segments are those that its components declare, one to a
component and in their order. -/
theorem compile_follows_grammar (template : String) :
    let items := components template
    let tooLarge := TemplateError.tooLarge template
    ((compile template).isOk ∨ compile template = .error tooLarge ↔ IsGrammatical items) ∧
    (∀ error, error ≠ tooLarge →
      (compile template = .error error ↔ LeftmostOffence template items error)) ∧
    ∀ route, compile template = .ok route →
      (route.segments.Pairwise fun a b => a.position < b.position) ∧
      ∀ segment, segment ∈ route.segments ↔ ∃ component suffix,
        items[segment.position]? = some component ∧
          Declares component segment.name suffix ∧ segment.kind.IsNamedBy suffix := by
  intro items tooLarge
  refine ⟨?_, ?_, fun route hroute => ⟨pairwise_segments route, fun segment =>
    mem_segments_iff_declares hroute⟩⟩
  · rcases compile_cases template with ⟨error, hread, hcompile⟩ | ⟨route, -, hread, hcompile⟩
    · obtain ⟨earlier, component, later, -, -, hoffends⟩ := readAll_eq_error_iff.mp hread
      rw [hcompile, ← isOk_readAll_iff template, hread]
      simp [Except.isOk, Except.toBool, tooLarge, hoffends.ne_tooLarge]
    · rw [hcompile, ← isOk_readAll_iff template, hread]
      split <;> simp [Except.isOk, Except.toBool, tooLarge]
  · intro error hsize
    rw [← readAll_eq_error_iff]
    rcases compile_cases template with ⟨found, hread, hcompile⟩ | ⟨route, -, hread, hcompile⟩
    · rw [hread, hcompile]
      simp
    · rw [hread, hcompile]
      split
      · simp
      · simpa using hsize.symm

/-- Another component in error stands behind the name that is declared twice. -/
theorem compile_follows_grammar_repeated :
    (∃ route, compile ":x/*?:y:int" = .ok route ∧ ⟨2, "y", .integer⟩ ∈ route.segments) ∧
      compile ":x/*?:y:int&:x:num/:" = .error (.duplicate ":x/*?:y:int&:x:num/:" "x") := by
  have hcompile : compile ":x/*?:y:int" = .ok ⟨":x/*?:y:int",
      ⟨.named "x" .text, [(.slash, .wildcard), (.question, .named "y" .integer)]⟩⟩ := by rfl
  have hcomponents : components ":x/*?:y:int" = [":x", "*", ":y:int"] := by decide +kernel
  have hx : DeclaresName ":x" "x" :=
    (declaresName_iff (show Part.read ":x" = .ok (.named "x" .text) from rfl)).mpr
      (List.mem_singleton_self _)
  have hx' : DeclaresName ":x:num" "x" :=
    (declaresName_iff (show Part.read ":x:num" = .ok (.named "x" .decimal) from rfl)).mpr
      (List.mem_singleton_self _)
  obtain ⟨hgrammatical, -, hroute⟩ := compile_follows_grammar ":x/*?:y:int"
  have hearlier : IsGrammatical [":x", "*", ":y:int"] := by
    rw [← hcomponents]
    exact hgrammatical.mp (.inl (by rw [hcompile]; rfl))
  refine ⟨⟨_, hcompile, ?_⟩, ?_⟩
  · obtain ⟨suffix, hy⟩ := Part.read_eq_named_iff.mp (show Part.read ":y:int" = _ from rfl)
    refine ((hroute _ hcompile).2 _).mpr ⟨":y:int", suffix, ?_, hy⟩
    rw [hcomponents]
    rfl
  · refine ((compile_follows_grammar _).2.1 _ (by simp)).mpr
      ⟨[":x", "*", ":y:int"], ":x:num", [":"], by decide +kernel, hearlier, ?_⟩
    exact .duplicate hx' ⟨":x", List.mem_cons_self, hx⟩

end Route
end Wayfinding
