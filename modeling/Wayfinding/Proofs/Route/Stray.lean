import Wayfinding.Proofs.Route.Cut
import Wayfinding.Proofs.Segment

/-!
Paths that lead extraction astray. Where a literal stands behind an open part, that part can
take so many components that a named segment behind the literal finds none of its own at its
position, but filler that every kind reads.
-/

namespace Wayfinding
open Number

/-- A text that every kind reads. -/
def zeros (count : Nat) : String :=
  String.ofList (List.replicate (count + 1) '0')

theorem mem_zeros {count : Nat} {c : Char} (h : c ∈ (zeros count).toList) : c = '0' := by
  rw [zeros, String.toList_ofList] at h
  exact List.eq_of_mem_replicate h

theorem isWhole_zeros (count : Nat) : IsWhole (zeros count).toList := by
  refine ⟨by simp [zeros], ?_⟩
  intro c hc
  rw [mem_zeros hc]
  rfl

theorem digitsValue_zeros (count : Nat) : digitsValue (zeros count).toList = 0 := by
  have hzeros : (zeros count).toList = Decimal.zeros (count + 1) ++ [] := by
    rw [List.append_nil, zeros, String.toList_ofList, Decimal.zeros]
  rw [hzeros, Decimal.digitsValue_zeros_append]
  rfl

/-- The filler as a numeral. -/
def zerosNumeral (count : Nat) : Decimal.Numeral :=
  ⟨.absent, (zeros count).toList, none, none, by simpa using isWhole_zeros count⟩

theorem text_zerosNumeral (count : Nat) : (zerosNumeral count).text = zeros count := by
  simp [zerosNumeral, Decimal.Numeral.text, Decimal.Numeral.base, Decimal.Numeral.tail,
    Sign.chars]

theorem isSome_parse_zeros (kind : Kind) (count : Nat) : (kind.parse (zeros count)).isSome := by
  have hpower : Fits longWordBound 0 := by decide
  have hscale : Fits wordBound 0 := by decide
  cases kind with
  | text | flag => rfl
  | integer =>
      have hbound : 0 < wordBound := by decide
      have hread : readInteger wordBound (zeros count).toList = .ok 0 := by
        refine (readInteger_eq_ok_iff hbound).mpr
          ⟨.absent, (zeros count).toList, rfl, isWhole_zeros count, ?_, hscale⟩
        rw [digitsValue_zeros]
        rfl
      rw [Kind.parse_integer_eq_some_iff.mpr ⟨0, hread, rfl⟩]
      rfl
  | decimal =>
      have hread := (zerosNumeral count).read_text_eq_ok_iff.mpr ⟨⟨hpower, hscale⟩, rfl⟩
      rw [text_zerosNumeral] at hread
      rw [Kind.parse_decimal_eq_some_iff.mpr ⟨_, hread, rfl⟩]
      rfl

namespace Part

/-- A component that a part takes: the text of a literal, and otherwise the filler. -/
def sample (filler : String) : Part → String
  | literal text => text
  | wildcard | named _ _ => filler

theorem takes_sample {filler : String} (h : OneLine filler) (part : Part) :
    part.Takes OneLine [part.sample filler] := by
  cases part with
  | literal text => exact ⟨text, rfl, rfl⟩
  | wildcard | named name kind => exact ⟨by simp, by simpa [sample] using h⟩

end Part

theorem oneLine_zeros (count : Nat) : OneLine (zeros count) := by
  intro hmem
  exact absurd (mem_zeros hmem) (by decide)

theorem undivided_zeros (count : Nat) : IsUndivided (zeros count).toList := by
  intro c hc
  rw [mem_zeros hc]
  rfl

theorem length_toList_zeros (count : Nat) : (zeros count).toList.length = count + 1 := by
  simp [zeros]

section Stray

variable (front back : List Part) (size : Nat)

/-- Blocks for the parts `front`, an open part and the parts `back`. The open part takes so
many components that one of them, the same text for all, stands at every later position. -/
def strayBlocks : List (List String) :=
  front.map (fun part => [part.sample (zeros size)]) ++
    List.replicate (front.length + back.length + 1) (zeros size) ::
      back.map (fun part => [part.sample (zeros (size + 1))])

theorem cut_strayBlocks {part : Part} (hopen : part.IsOpen) :
    Cut OneLine (front ++ part :: back) (strayBlocks front back size) := by
  have hsamples : ∀ (count : Nat) (parts : List Part),
      List.Forall₂ (Part.Takes OneLine) parts
        (parts.map fun part => [part.sample (zeros count)]) := by
    intro count parts
    rw [List.forall₂_map_right_iff, List.forall₂_same]
    exact fun part _ => part.takes_sample (oneLine_zeros count)
  apply Cut.of_forall₂ (by simp)
  apply List.rel_append (hsamples size front)
  refine .cons ((Part.takes_open_iff hopen).mpr ⟨by simp, ?_⟩) (hsamples (size + 1) back)
  intro component hmem
  rw [List.eq_of_mem_replicate hmem]
  exact oneLine_zeros size

theorem flatten_strayBlocks :
    (strayBlocks front back size).flatten =
      front.map (Part.sample (zeros size)) ++
        (List.replicate (front.length + back.length + 1) (zeros size) ++
          back.map (Part.sample (zeros (size + 1)))) := by
  simp [strayBlocks, ← List.flatMap_def, ← List.map_eq_flatMap]

/-- From the open part's own position on, filler stands at every position of the template. -/
theorem getElem?_strayBlocks {position : Nat} (hle : front.length ≤ position)
    (hlt : position < front.length + (front.length + back.length + 1)) :
    (strayBlocks front back size).flatten[position]? = some (zeros size) := by
  rw [flatten_strayBlocks, List.getElem?_append_right (by simpa using hle),
    List.getElem?_append_left (by simp; omega), List.getElem?_replicate]
  simp only [List.length_map, Option.ite_none_right_eq_some, and_true]
  omega

/-- Behind the open part's block every component comes from a later part. -/
theorem sample_of_getElem?_strayBlocks {position : Nat} {component : String}
    (hle : front.length + (front.length + back.length + 1) ≤ position)
    (h : (strayBlocks front back size).flatten[position]? = some component) :
    ∃ part ∈ back, part.sample (zeros (size + 1)) = component := by
  rw [flatten_strayBlocks, List.getElem?_append_right (by simp; omega),
    List.getElem?_append_right (by simp; omega)] at h
  exact List.mem_map.mp (List.mem_of_getElem? h)

theorem sample_of_mem_strayBlocks {part : Part} (hopen : part.IsOpen) {component : String}
    (h : component ∈ (strayBlocks front back size).flatten) :
    ∃ part' ∈ front ++ part :: back, ∃ count, part'.sample (zeros count) = component := by
  simp only [flatten_strayBlocks, List.mem_append, List.mem_map] at h
  rcases h with ⟨part', hmem, hsample⟩ | hmem | ⟨part', hmem, hsample⟩
  · exact ⟨part', List.mem_append_left _ hmem, size, hsample⟩
  · refine ⟨part, by simp, size, ?_⟩
    rw [List.eq_of_mem_replicate hmem]
    cases part with
    | literal text => exact hopen.elim
    | wildcard | named name kind => rfl
  · exact ⟨part', by simp [hmem], size + 1, hsample⟩

theorem getLast?_strayBlocks {last : Part} (h : back.getLast? = some last) :
    (strayBlocks front back size).flatten.getLast? =
      some (last.sample (zeros (size + 1))) := by
  simp [flatten_strayBlocks, List.getLast?_append, h]

theorem getElem?_strayBlocks_of_open {part : Part} {position : Nat} {opening : Part}
    (hpart : (front ++ part :: back)[position]? = some opening) (hopen : opening.IsOpen) :
    (strayBlocks front back size).flatten[position]? = some (zeros size) := by
  have hlength := (List.getElem?_eq_some_iff.mp hpart).1
  rw [List.length_append, List.length_cons] at hlength
  by_cases hfront : position < front.length
  · rw [List.getElem?_append_left hfront] at hpart
    rw [flatten_strayBlocks, List.getElem?_append_left (by simpa using hfront),
      List.getElem?_map, hpart]
    cases opening with
    | literal text => exact hopen.elim
    | wildcard | named name kind => rfl
  · exact getElem?_strayBlocks front back size (by omega) (by omega)

/-- No cut of the stray components begins at the positions where a literal comes between the
open part and a named segment: the literal finds its own text behind the filler only, and
filler stands at the position of the segment. -/
theorem not_beginsAtPositions_stray {part : Part} {text name : String} {kind : Kind}
    {admits : String → Prop} {blocks : List (List String)} {index later : Nat}
    (hbound : ∀ text, .literal text ∈ front ++ part :: back → text.toList.length ≤ size)
    (hliteral : back[index]? = some (.literal text))
    (hnamed : back[later]? = some (.named name kind)) (hlt : index < later)
    (hcut : Cut admits (front ++ part :: back) blocks)
    (hflatten : blocks.flatten = (strayBlocks front back size).flatten) :
    ¬ BeginsAtPositions (front ++ part :: back) (strayBlocks front back size).flatten
      blocks := by
  intro hbegins
  have hparts : ∀ {k : Nat} {p : Part}, back[k]? = some p →
      (front ++ part :: back)[front.length + (k + 1)]? = some p := by
    intro k p hk
    rw [List.getElem?_append_right (Nat.le_add_right _ _), Nat.add_sub_cancel_left]
    simpa using hk
  have hfiller : ∀ {p : Part}, p ∈ back → p.sample (zeros (size + 1)) ≠ zeros size := by
    intro p hp heq
    have hlengths := congrArg (·.toList.length) heq
    simp only [length_toList_zeros] at hlengths
    cases p with
    | literal text =>
        have := hbound text (by simp [hp])
        simp only [Part.sample] at hlengths
        omega
    | wildcard | named name kind =>
        simp only [Part.sample, length_toList_zeros] at hlengths
        omega
  obtain ⟨component, hblock, hletters⟩ := hcut.exists_block_of_literal (hparts hliteral)
  obtain ⟨first, rest, hlater, hfirst⟩ := hbegins _ name kind (hparts hnamed)
  rw [getElem?_strayBlocks_of_open front back size (hparts hnamed) trivial,
    Option.some.injEq] at hfirst
  subst hfirst
  have hstart := hcut.le_start (List.getElem?_eq_some_iff.mp hblock).1
  have hstarts : start blocks (front.length + (index + 1)) + 1 ≤
      start blocks (front.length + (later + 1)) :=
    start_add_length_le hblock (by omega)
  have hcomponent := getElem?_start hblock
  have hlater := getElem?_start hlater
  rw [hflatten] at hcomponent hlater
  by_cases hinside : start blocks (front.length + (index + 1)) <
      front.length + (front.length + back.length + 1)
  · -- inside the filler the literal would have to be filler itself
    rw [getElem?_strayBlocks front back size (by omega) hinside, Option.some.injEq]
      at hcomponent
    have hlength := congrArg List.length hletters
    have := hbound text (List.mem_of_getElem? (hparts hliteral))
    simp only [folded, List.length_map, ← hcomponent, length_toList_zeros] at hlength
    omega
  · obtain ⟨p, hp, hsample⟩ :=
      sample_of_getElem?_strayBlocks front back size (by omega) hlater
    exact hfiller hp hsample

end Stray

end Wayfinding
