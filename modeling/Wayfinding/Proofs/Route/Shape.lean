import Mathlib.Data.List.Basic
import Wayfinding.Proofs.Route.Cut

/-!
The shape of a template read component by component. A path fits a route when its components
can be cut for the route's parts; the pattern, which sees characters only and whose runs may
swallow slashes, accepts just these paths.
-/

namespace Wayfinding

namespace Pattern

theorem accepts_char_iff {c : Char} {rest : Pattern} {text : List Char} :
    Accepts (.char c :: rest) text ↔ ∃ tail, text = c :: tail ∧ Accepts rest tail := by
  constructor
  · intro h
    cases h with
    | char h => exact ⟨_, rfl, h⟩
  · rintro ⟨tail, rfl, h⟩
    exact .char h

theorem accepts_chars_iff {chars : List Char} {rest : Pattern} {text : List Char} :
    Accepts (chars.map .char ++ rest) text ↔
      ∃ tail, text = chars ++ tail ∧ Accepts rest tail := by
  induction chars generalizing text with
  | nil => simp
  | cons c chars ih =>
      rw [List.map_cons, List.cons_append, accepts_char_iff]
      simp only [ih]
      constructor
      · rintro ⟨_, rfl, tail, rfl, h⟩
        exact ⟨tail, rfl, h⟩
      · rintro ⟨tail, rfl, h⟩
        exact ⟨chars ++ tail, rfl, tail, rfl, h⟩

theorem accepts_anyRun_iff {rest : Pattern} {text : List Char} :
    Accepts (.anyRun :: rest) text ↔
      ∃ front tail, text = front ++ tail ∧ '\n' ∉ front ∧ Accepts rest tail := by
  constructor
  · intro h
    induction text with
    | nil =>
        cases h with
        | stop h => exact ⟨[], [], rfl, by simp, h⟩
    | cons c text ih =>
        cases h with
        | stop h => exact ⟨[], c :: text, rfl, by simp, h⟩
        | more h hc =>
            obtain ⟨front, tail, rfl, hfront, htail⟩ := ih h
            exact ⟨c :: front, tail, rfl, by simp [hfront, Ne.symm hc], htail⟩
  · rintro ⟨front, tail, rfl, hfront, h⟩
    induction front with
    | nil => exact .stop h
    | cons c front ih =>
        rw [List.mem_cons, not_or] at hfront
        exact .more (ih hfront.2) (Ne.symm hfront.1)

theorem accepts_optional_iff {c : Char} {text : List Char} :
    Accepts [.optional c] text ↔ text = [] ∨ text = [c] := by
  constructor
  · intro h
    cases h with
    | absent h => cases h; exact .inl rfl
    | present h => cases h; exact .inr rfl
  · rintro (rfl | rfl)
    · exact .absent .nil
    · exact .present .nil

end Pattern

/-- Folded components with a slash after each. -/
def ended (components : List String) : List Char :=
  components.flatMap fun component => folded component ++ ['/']

theorem ended_cons (component : String) (components : List String) :
    ended (component :: components) = folded component ++ '/' :: ended components := by
  simp [ended]

theorem ended_append (front back : List String) :
    ended (front ++ back) = ended front ++ ended back := by
  simp [ended]

/-- A slash in ended components is the end of one of them. -/
theorem exists_block_of_ended {components : List String} {front tail : List Char}
    (hplain : ∀ component ∈ components, '/' ∉ folded component)
    (h : ended components = front ++ '/' :: tail) :
    ∃ block rest, components = block ++ rest ∧ block ≠ [] ∧
      ended block = front ++ ['/'] ∧ ended rest = tail := by
  induction components generalizing front with
  | nil => simp [ended] at h
  | cons component components ih =>
      have hfirst := hplain component List.mem_cons_self
      rw [ended_cons, List.append_eq_append_iff] at h
      rcases h with ⟨between, hfront, hrest⟩ | ⟨between, hcomponent, hrest⟩
      · cases between with
        | nil =>
            obtain rfl : front = folded component := by simpa using hfront
            refine ⟨[component], components, rfl, by simp, by simp [ended], ?_⟩
            simpa using hrest
        | cons c between =>
            obtain ⟨rfl, hrest'⟩ := List.cons_eq_cons.mp hrest
            obtain ⟨block, rest, rfl, _, hblock, htail⟩ :=
              ih (fun x hx => hplain x (List.mem_cons_of_mem _ hx)) hrest'
            refine ⟨component :: block, rest, rfl, by simp, ?_, htail⟩
            rw [ended_cons, hblock, hfront, List.append_assoc, List.cons_append]
      · cases between with
        | nil =>
            obtain rfl : folded component = front := by simpa using hcomponent
            refine ⟨[component], components, rfl, by simp, by simp [ended], ?_⟩
            simpa using hrest.symm
        | cons c between =>
            obtain ⟨rfl, _⟩ := List.cons_eq_cons.mp hrest
            exact absurd (by simp [hcomponent]) hfirst

/-- Components of a path and of a template end before a slash, and so do their foldings. -/
theorem slash_notMem_folded {component : String} (h : IsUndivided component.toList) :
    '/' ∉ folded component := by
  intro hmem
  obtain ⟨c, hc, hfold⟩ := List.mem_map.mp hmem
  rw [Text.foldCase_eq_iff (by decide) (by decide)] at hfold
  exact h.slash_notMem (hfold ▸ hc)

theorem newline_mem_folded_iff (component : String) :
    '\n' ∈ folded component ↔ '\n' ∈ component.toList := by
  simp only [folded, List.mem_map,
    Text.foldCase_eq_iff (d := '\n') (by decide) (by decide), exists_eq_right]

theorem newline_notMem_ended_iff (components : List String) :
    '\n' ∉ ended components ↔ ∀ component ∈ components, OneLine component := by
  simp only [ended, List.mem_flatMap, List.mem_append, List.mem_singleton,
    newline_mem_folded_iff, OneLine]
  constructor
  · intro h component hmem hnewline
    exact h ⟨component, hmem, .inl hnewline⟩
  · rintro h ⟨component, hmem, hnewline | hnewline⟩
    · exact h component hmem hnewline
    · exact absurd hnewline (by decide)

theorem ended_eq_nil_iff {components : List String} : ended components = [] ↔ components = [] := by
  cases components with
  | nil => simp [ended]
  | cons component components => simp [ended_cons]

theorem exists_ended_eq {components : List String} (h : components ≠ []) :
    ∃ front, ended components = front ++ ['/'] := by
  refine ⟨ended (components.dropLast) ++ folded (components.getLast h), ?_⟩
  conv_lhs => rw [← List.dropLast_concat_getLast h]
  simp [ended]

/-- A text without slashes and one slash are a single component with its end. -/
theorem ended_eq_folded_iff {text : String} (htext : '/' ∉ folded text)
    {components : List String} (hplain : ∀ component ∈ components, '/' ∉ folded component) :
    ended components = folded text ++ ['/'] ↔
      ∃ component, components = [component] ∧ SameLetters text component := by
  constructor
  · intro h
    cases components with
    | nil => simp [ended] at h
    | cons component components =>
        rw [ended_cons, eq_comm, List.append_cons_inj_of_notMem htext (by simp)] at h
        obtain ⟨hfold, -, hrest⟩ := h
        rw [eq_comm, ended_eq_nil_iff] at hrest
        exact ⟨component, by rw [hrest], hfold⟩
  · rintro ⟨component, rfl, hletters⟩
    rw [ended_cons, ← hletters]
    rfl

namespace Part

variable {part : Part} {components : List String}

/-- A literal comes from a component of a template, which holds no delimiter. -/
def IsPlain : Part → Prop
  | literal text => '/' ∉ folded text
  | wildcard | named _ _ => True

def foldedPattern (part : Part) : Pattern :=
  (Route.partPattern part).map Atom.fold

theorem foldedPattern_literal (text : String) :
    foldedPattern (literal text) = (folded text).map .char := by
  simp [foldedPattern, Route.partPattern, folded, Atom.fold]

theorem foldedPattern_open (h : part.IsOpen) : part.foldedPattern = [.anyRun] := by
  cases part with
  | literal text => exact h.elim
  | wildcard | named name kind => rfl

/-- A part and a slash behind it pass over a block that the part takes. -/
theorem accepts_slash_iff (hpart : part.IsPlain)
    (hplain : ∀ component ∈ components, '/' ∉ folded component) (rest : Pattern) :
    Pattern.Accepts (part.foldedPattern ++ .char '/' :: rest) (ended components) ↔
      ∃ block tail, components = block ++ tail ∧ part.Takes OneLine block ∧
        Pattern.Accepts rest (ended tail) := by
  rcases part.isOpen_or_eq_literal with hopen | ⟨text, rfl⟩
  · rw [foldedPattern_open hopen, List.singleton_append, Pattern.accepts_anyRun_iff]
    simp only [Pattern.accepts_char_iff, takes_open_iff hopen]
    constructor
    · rintro ⟨front, _, hended, hfront, tail, rfl, hrest⟩
      obtain ⟨block, tail, rfl, hne, hblock, rfl⟩ := exists_block_of_ended hplain hended
      refine ⟨block, tail, rfl, ⟨hne, ?_⟩, hrest⟩
      rw [← newline_notMem_ended_iff, hblock]
      simpa using hfront
    · rintro ⟨block, tail, rfl, ⟨hne, hlines⟩, hrest⟩
      obtain ⟨front, hfront⟩ := exists_ended_eq hne
      refine ⟨front, '/' :: ended tail, ?_, ?_, ended tail, rfl, hrest⟩
      · rw [ended_append, hfront, List.append_assoc, List.singleton_append]
      · rw [← newline_notMem_ended_iff, hfront] at hlines
        exact fun hmem => hlines (List.mem_append_left _ hmem)
  · rw [foldedPattern_literal, Pattern.accepts_chars_iff]
    simp only [Pattern.accepts_char_iff]
    constructor
    · rintro ⟨_, hended, tail, rfl, hrest⟩
      obtain ⟨block, tail, rfl, hne, hblock, rfl⟩ := exists_block_of_ended hplain hended
      refine ⟨block, tail, rfl, (ended_eq_folded_iff hpart ?_).mp hblock, hrest⟩
      exact fun component hmem => hplain component (List.mem_append_left _ hmem)
    · rintro ⟨block, tail, rfl, ⟨component, rfl, hletters⟩, hrest⟩
      refine ⟨_, ?_, ended tail, rfl, hrest⟩
      rw [List.singleton_append, ended_cons, ← hletters]

/-- The last part passes over all that is left, which may be nothing if the part is open. -/
theorem accepts_end_iff (hpart : part.IsPlain)
    (hplain : ∀ component ∈ components, '/' ∉ folded component)
    (hblank : part = literal "" → components ≠ []) :
    Pattern.Accepts (part.foldedPattern ++ [.optional '/']) (ended components) ↔
      part.Takes OneLine components ∨ part.IsOpen ∧ components = [] := by
  rcases part.isOpen_or_eq_literal with hopen | ⟨text, rfl⟩
  · rw [foldedPattern_open hopen, List.singleton_append, Pattern.accepts_anyRun_iff]
    simp only [Pattern.accepts_optional_iff, takes_open_iff hopen, hopen, true_and]
    constructor
    · rintro ⟨front, tail, hended, hfront, htail⟩
      by_cases hne : components = []
      · exact .inr hne
      · refine .inl ⟨hne, ?_⟩
        rw [← newline_notMem_ended_iff, hended]
        rcases htail with rfl | rfl <;> simpa using hfront
    · intro h
      refine ⟨ended components, [], by simp, ?_, .inl rfl⟩
      rw [newline_notMem_ended_iff]
      rcases h with ⟨-, hlines⟩ | rfl
      · exact hlines
      · simp
  · rw [foldedPattern_literal, Pattern.accepts_chars_iff]
    simp only [Pattern.accepts_optional_iff, IsOpen, false_and, or_false]
    constructor
    · rintro ⟨tail, hended, rfl | rfl⟩
      · -- without its slash the text of a literal ends no component
        rw [List.append_nil] at hended
        cases components with
        | nil =>
            have htext : text = "" := by simpa [ended, folded] using hended
            exact absurd rfl (hblank (by rw [htext]))
        | cons component components =>
            rw [ended_cons] at hended
            exact absurd (by simp [← hended]) hpart
      · exact (ended_eq_folded_iff hpart hplain).mp hended
    · intro h
      exact ⟨['/'], (ended_eq_folded_iff hpart hplain).mpr h, .inr rfl⟩

end Part

namespace Route

theorem pattern_single (template : String) (part : Part) :
    pattern ⟨template, ⟨part, []⟩⟩ = partPattern part ++ [.optional '/'] := by
  simp [pattern]

theorem pattern_cons (template : String) (part next : Part) (d : Delimiter)
    (rest : List (Delimiter × Part)) :
    pattern ⟨template, ⟨part, (d, next) :: rest⟩⟩ =
      partPattern part ++ .char '/' :: pattern ⟨template, ⟨next, rest⟩⟩ := by
  simp [pattern]

theorem slashed_eq_flatMap (path : String) :
    slashed path = (Delimited.split path.toList).toList.flatMap (· ++ ['/']) := by
  rw [slashed]
  obtain ⟨first, rest⟩ := Delimited.split path.toList
  induction rest generalizing first with
  | nil => simp [Delimited.toList]
  | cons piece rest ih => simpa [Delimited.toList] using ih piece.2

theorem map_foldCase_slashed (path : String) :
    (slashed path).map Text.foldCase = ended (components path) := by
  have hslash : Text.foldCase '/' = '/' := by decide
  simp [slashed_eq_flatMap, ended, components_eq_map, List.map_flatMap, List.flatMap_map,
    folded, hslash]

/-- Blocks for the parts that are still to come, which a single open part may do without. -/
def Remains (parts : List Part) (blocks : List (List String)) : Prop :=
  Cut OneLine parts blocks ∨ ∃ last : Part, last.IsOpen ∧ parts = [last] ∧ blocks = [[]]

theorem remains_single_iff {part : Part} {components : List String} :
    (∃ blocks, Remains [part] blocks ∧ blocks.flatten = components) ↔
      part.Takes OneLine components ∨ part.IsOpen ∧ components = [] := by
  constructor
  · rintro ⟨blocks, hcut | ⟨last, hopen, hparts, rfl⟩, rfl⟩
    · cases hcut with
      | single h => exact .inl (by simpa using h)
      | cons h rest => cases rest
    · cases hparts
      exact .inr ⟨hopen, rfl⟩
  · rintro (h | ⟨hopen, rfl⟩)
    · exact ⟨[components], .inl (.single h), by simp⟩
    · exact ⟨[[]], .inr ⟨part, hopen, rfl, rfl⟩, rfl⟩

theorem remains_cons_iff {part next : Part} {parts : List Part} {components : List String} :
    (∃ blocks, Remains (part :: next :: parts) blocks ∧ blocks.flatten = components) ↔
      ∃ block tail, components = block ++ tail ∧ part.Takes OneLine block ∧
        ∃ blocks, Remains (next :: parts) blocks ∧ blocks.flatten = tail := by
  constructor
  · rintro ⟨blocks, hcut | ⟨last, _, hparts, _⟩, rfl⟩
    · cases hcut with
      | spent h hlast =>
          exact ⟨_, [], by simp, h, [[]], .inr ⟨next, hlast, rfl, rfl⟩, rfl⟩
      | cons h rest => exact ⟨_, _, rfl, h, _, .inl rest, rfl⟩
    · cases hparts
  · rintro ⟨block, _, rfl, h, blocks, hcut | ⟨last, hopen, hparts, rfl⟩, rfl⟩
    · exact ⟨block :: blocks, .inl (.cons h hcut), rfl⟩
    · cases hparts
      exact ⟨[block, []], .inl (.spent h hopen), by simp⟩

/-- The pattern passes over components just when they can be cut for its parts. -/
theorem accepts_pattern_iff (template : String) (parts : Delimited Part)
    {components : List String}
    (hparts : ∀ part ∈ parts.toList, part.IsPlain)
    (hplain : ∀ component ∈ components, '/' ∉ folded component)
    (hblank : parts.toList.getLast? = some (.literal "") →
      parts.rest = [] ∧ components ≠ []) :
    Pattern.Accepts ((pattern ⟨template, parts⟩).map Atom.fold) (ended components) ↔
      ∃ blocks, Remains parts.toList blocks ∧ blocks.flatten = components := by
  have hslash : Text.foldCase '/' = '/' := by decide
  obtain ⟨part, rest⟩ := parts
  induction rest generalizing part components with
  | nil =>
      rw [pattern_single, List.map_append]
      simp only [List.map_cons, List.map_nil, Atom.fold, hslash]
      refine Iff.trans ?_ remains_single_iff.symm
      apply Part.accepts_end_iff (hparts part List.mem_cons_self) hplain
      rintro rfl
      exact (hblank rfl).2
  | cons piece rest ih =>
      obtain ⟨delimiter, next⟩ := piece
      have hlast : (Delimited.toList ⟨next, rest⟩).getLast? ≠ some (.literal "") := by
        intro h
        exact absurd (hblank (by simpa [Delimited.toList] using h)).1 (by simp)
      have htail : ∀ tail ⊆ components,
          (Pattern.Accepts ((pattern ⟨template, ⟨next, rest⟩⟩).map Atom.fold) (ended tail) ↔
            ∃ blocks, Remains (Delimited.toList ⟨next, rest⟩) blocks ∧
              blocks.flatten = tail) :=
        fun tail hsub => ih (fun component hmem => hplain component (hsub hmem)) next
          (fun part hmem => hparts part (List.mem_cons_of_mem _ hmem))
          (fun h => absurd h hlast)
      rw [pattern_cons, List.map_append]
      simp only [List.map_cons, Atom.fold, hslash]
      refine Iff.trans (Part.accepts_slash_iff (hparts part List.mem_cons_self) hplain _) ?_
      refine Iff.trans ?_ remains_cons_iff.symm
      constructor
      · rintro ⟨block, tail, rfl, htakes, haccepts⟩
        exact ⟨block, tail, rfl, htakes,
          (htail tail (List.subset_append_right _ _)).mp haccepts⟩
      · rintro ⟨block, tail, rfl, htakes, hremains⟩
        exact ⟨block, tail, rfl, htakes,
          (htail tail (List.subset_append_right _ _)).mpr hremains⟩

variable {template : String} {route : Route}

theorem isPlain_of_compile (h : compile template = .ok route) :
    ∀ part ∈ route.parts.toList, part.IsPlain := by
  intro part hmem
  obtain ⟨position, hpart⟩ := List.mem_iff_getElem?.mp hmem
  cases part with
  | literal text =>
      have htext := List.mem_of_getElem? (getElem?_of_literal h hpart)
      exact slash_notMem_folded (undivided_of_mem_components htext)
  | wildcard | named name kind => trivial

/-- Only the single part of an empty template is blank at the end. -/
theorem rest_eq_nil_of_getLast? (h : compile template = .ok route)
    (hlast : route.parts.toList.getLast? = some (.literal "")) : route.parts.rest = [] := by
  have hlength := (reads_of_compile h).length_eq
  rw [List.getLast?_eq_getElem?] at hlast
  have hcomponent := getElem?_of_literal h hlast
  rw [← hlength, ← List.getLast?_eq_getElem?] at hcomponent
  rw [components_eq_of_getLast?_eq_empty hcomponent] at hlength
  simpa [Delimited.toList] using hlength.symm

/-- A path has the shape of a template just when its components can be cut for it. -/
theorem fits_iff (h : compile template = .ok route) (path : String) :
    route.fits path ↔
      ∃ blocks, Cut OneLine route.parts.toList blocks ∧ blocks.flatten = components path := by
  have hplain : ∀ component ∈ components path, '/' ∉ folded component :=
    fun component hmem => slash_notMem_folded (undivided_of_mem_components hmem)
  rw [fits, Pattern.acceptsFolded, Pattern.accepts_iff, map_foldCase_slashed]
  refine Iff.trans (accepts_pattern_iff route.template route.parts (isPlain_of_compile h)
    hplain fun hlast => ⟨rest_eq_nil_of_getLast? h hlast, components_ne_nil path⟩) ?_
  constructor
  · rintro ⟨blocks, hcut | ⟨last, _, _, rfl⟩, hflatten⟩
    · exact ⟨blocks, hcut, hflatten⟩
    · exact absurd hflatten.symm (components_ne_nil path)
  · rintro ⟨blocks, hcut, hflatten⟩
    exact ⟨blocks, .inl hcut, hflatten⟩

end Route
end Wayfinding
