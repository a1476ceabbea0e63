import Mathlib.Data.Set.List
import Wayfinding.Proofs.Path
import Wayfinding.Proofs.Traversal

/-!
The pieces of a text: its components, each but the first with the delimiter before it. Splitting
loses nothing but the delimiters that a text ends in. No other pieces write the text up to these:
what may stand in a piece and in the last one leaves no choice. So what is written from the pieces,
with their own delimiters or with slashes, splits into the same components again.
-/

namespace Wayfinding

def delimiterChars : List Char := ['/', '?', '&']

/-- Pieces one after the other, each with its delimiter in front. -/
def writePieces (pieces : List (Option Char × String)) : List Char :=
  pieces.flatMap fun (delimiter, component) => delimiter.toList ++ component.toList

/-- What pieces have to be in order to be those of a text. -/
structure IsSplitting (text : String) (pieces : List (Option Char × String)) : Prop where
  ne_nil : pieces ≠ []
  head : ∀ piece ∈ pieces.head?, piece.1 = none
  tail : ∀ piece ∈ pieces.tail, ∃ c ∈ delimiterChars, piece.1 = some c
  undivided : ∀ piece ∈ pieces, ∀ c ∈ piece.2.toList, c ∉ delimiterChars
  getLast : pieces.length ≠ 1 → ∀ piece ∈ pieces.getLast?, piece.2 ≠ ""
  written : ∃ rest, text.toList = writePieces pieces ++ rest ∧ ∀ c ∈ rest, c ∈ delimiterChars

namespace Delimiter

theorem mem_delimiterChars_iff {c : Char} : c ∈ delimiterChars ↔ ∃ d : Delimiter, d.toChar = c := by
  constructor
  · intro h
    simp only [delimiterChars, List.mem_cons, List.not_mem_nil, or_false] at h
    rcases h with rfl | rfl | rfl
    · exact ⟨.slash, rfl⟩
    · exact ⟨.question, rfl⟩
    · exact ⟨.ampersand, rfl⟩
  · rintro ⟨d, rfl⟩
    cases d <;> decide

theorem ofChar?_eq_none_iff {c : Char} : ofChar? c = none ↔ c ∉ delimiterChars := by
  rw [Option.eq_none_iff_forall_ne_some, mem_delimiterChars_iff, not_exists]
  exact forall_congr' fun d => not_congr (ofChar?_eq_some_iff.trans eq_comm)

end Delimiter

namespace Delimited

/-- What is dropped has no component. -/
theorem exists_eq_dropEmptyEnd_append (items : List (Delimiter × List Char)) :
    ∃ dropped, items = dropEmptyEnd items ++ dropped ∧ ∀ item ∈ dropped, item.2 = [] := by
  induction items with
  | nil => exact ⟨[], rfl, nofun⟩
  | cons item items ih =>
      obtain ⟨dropped, hitems, hdropped⟩ := ih
      rw [dropEmptyEnd_cons]
      split
      · rename_i hempty
        rw [Bool.and_eq_true, List.isEmpty_iff, List.isEmpty_iff] at hempty
        obtain ⟨hkept, hitem⟩ := hempty
        rw [hkept, List.nil_append] at hitems
        refine ⟨item :: items, rfl, List.forall_mem_cons.mpr ⟨hitem, ?_⟩⟩
        rwa [hitems]
      · exact ⟨dropped, congrArg (item :: ·) hitems, hdropped⟩

theorem write_eq_write_append (first : List Char) (kept dropped : List (Delimiter × List Char)) :
    write ⟨first, kept ++ dropped⟩ = write ⟨first, kept⟩ ++ write ⟨[], dropped⟩ := by
  simp [write]

theorem mem_delimiterChars_of_mem_write {items : List (Delimiter × List Char)}
    (h : ∀ item ∈ items, item.2 = []) {c : Char} (hc : c ∈ write ⟨[], items⟩) :
    c ∈ delimiterChars := by
  obtain ⟨⟨d, item⟩, hmem, hc⟩ := List.mem_flatMap.mp hc
  obtain rfl : item = [] := h _ hmem
  obtain rfl : c = d.toChar := List.mem_singleton.mp hc
  exact Delimiter.mem_delimiterChars_iff.mpr ⟨d, rfl⟩

theorem exists_eq_write_split_append (text : List Char) :
    ∃ rest, text = (split text).write ++ rest ∧ ∀ c ∈ rest, c ∈ delimiterChars := by
  obtain ⟨dropped, hitems, hdropped⟩ := exists_eq_dropEmptyEnd_append (splitAll text).rest
  refine ⟨write ⟨[], dropped⟩, ?_, fun c => mem_delimiterChars_of_mem_write hdropped⟩
  calc
    text = write ⟨(splitAll text).first, (splitAll text).rest⟩ := (write_splitAll text).symm
    _ = (split text).write ++ write ⟨[], dropped⟩ := by rw [hitems, write_eq_write_append]; rfl

theorem split_append_delimiters {rest : List Char} (h : ∀ c ∈ rest, c ∈ delimiterChars)
    (text : List Char) : split (text ++ rest) = split text := by
  induction rest generalizing text with
  | nil => rw [List.append_nil]
  | cons c rest ih =>
      obtain ⟨hc, hrest⟩ := List.forall_mem_cons.mp h
      obtain ⟨d, rfl⟩ := Delimiter.mem_delimiterChars_iff.mp hc
      rw [List.append_cons, ih hrest, split_concat]

/-- A text splits into whatever of this form writes it, up to delimiters at its end. -/
theorem split_eq_iff {text : List Char} {d : Delimited (List Char)} :
    split text = d ↔ (∀ item ∈ d.toList, IsUndivided item) ∧
      (∀ item ∈ d.rest.getLast?, item.2 ≠ []) ∧
      ∃ rest, text = d.write ++ rest ∧ ∀ c ∈ rest, c ∈ delimiterChars := by
  constructor
  · rintro rfl
    exact ⟨undivided_split text, getLast?_dropEmptyEnd _, exists_eq_write_split_append text⟩
  · rintro ⟨hundivided, hlast, rest, rfl, hrest⟩
    rw [split_append_delimiters hrest, split_write d hundivided hlast]

/-- The components with their delimiters. -/
def pieces (d : Delimited String) : List (Option Char × String) :=
  (none, d.first) :: d.rest.map fun (delimiter, item) => (some delimiter.toChar, item)

theorem map_snd_pieces (d : Delimited String) : d.pieces.map (·.2) = d.toList := by
  simp [pieces, toList]

theorem writePieces_pieces (d : Delimited String) :
    writePieces d.pieces = (d.map String.toList).write := by
  simp [writePieces, pieces, write, map, List.flatMap_map]

theorem ofString_eq_iff {text : String} {d : Delimited String} :
    ofString text = d ↔ split text.toList = d.map String.toList := by
  rw [ofString]
  constructor
  · rintro rfl
    simp [map, Function.comp_def]
  · intro h
    rw [h]
    simp [map, Function.comp_def]

theorem undivided_iff {d : Delimited String} :
    (∀ item ∈ (d.map String.toList).toList, IsUndivided item) ↔
      ∀ piece ∈ d.pieces, ∀ c ∈ piece.2.toList, c ∉ delimiterChars := by
  rw [toList_map, ← map_snd_pieces, List.map_map, List.forall_mem_map]
  simp only [IsUndivided, Delimiter.ofChar?_eq_none_iff, Function.comp_apply]

theorem getLast_iff {d : Delimited String} :
    (∀ item ∈ (d.map String.toList).rest.getLast?, item.2 ≠ []) ↔
      (d.pieces.length ≠ 1 → ∀ piece ∈ d.pieces.getLast?, piece.2 ≠ "") := by
  obtain ⟨first, rest⟩ := d
  cases rest with
  | nil => simp [pieces, map]
  | cons item rest =>
      have hlength : (pieces ⟨first, item :: rest⟩).length ≠ 1 := by simp [pieces]
      have hlast : (pieces ⟨first, item :: rest⟩).getLast? =
          (item :: rest).getLast?.map fun (d, component) => (some d.toChar, component) := by
        rw [← List.getLast?_map]
        exact List.getLast?_cons_cons
      rw [hlast, map, List.getLast?_map, Option.forall_mem_map, Option.forall_mem_map]
      simp [hlength]

theorem isSplitting_pieces_iff {text : String} {d : Delimited String} :
    IsSplitting text d.pieces ↔ ofString text = d := by
  rw [ofString_eq_iff, split_eq_iff, undivided_iff, getLast_iff, ← writePieces_pieces]
  constructor
  · intro h
    exact ⟨h.undivided, h.getLast, h.written⟩
  · rintro ⟨hundivided, hlast, hwritten⟩
    refine ⟨List.cons_ne_nil _ _, ?_, ?_, hundivided, hlast, hwritten⟩
    · rintro _ ⟨⟩
      rfl
    · intro piece hpiece
      obtain ⟨⟨delimiter, item⟩, -, rfl⟩ := List.mem_map.mp hpiece
      exact ⟨_, Delimiter.mem_delimiterChars_iff.mpr ⟨delimiter, rfl⟩, rfl⟩

end Delimited

namespace IsSplitting

variable {text : String} {pieces : List (Option Char × String)}

theorem exists_pieces_eq (h : IsSplitting text pieces) :
    ∃ d : Delimited String, d.pieces = pieces := by
  cases pieces with
  | nil => exact absurd rfl h.ne_nil
  | cons piece rest =>
      obtain ⟨delimiter, first⟩ := piece
      obtain rfl : delimiter = none := h.head _ rfl
      have hrest : rest ∈ Set.range (List.map fun (item : Delimiter × String) =>
          (some item.1.toChar, item.2)) := by
        rw [Set.range_list_map]
        rintro ⟨delimiter, component⟩ hmem
        obtain ⟨c, hc, rfl⟩ := h.tail _ hmem
        obtain ⟨d, rfl⟩ := Delimiter.mem_delimiterChars_iff.mp hc
        exact ⟨(d, component), rfl⟩
      obtain ⟨items, rfl⟩ := hrest
      exact ⟨⟨first, items⟩, rfl⟩

theorem iff_eq_pieces : IsSplitting text pieces ↔ pieces = (Delimited.ofString text).pieces := by
  constructor
  · intro h
    obtain ⟨d, rfl⟩ := h.exists_pieces_eq
    rw [Delimited.isSplitting_pieces_iff.mp h]
  · rintro rfl
    exact Delimited.isSplitting_pieces_iff.mpr rfl

/-- Pieces are also those of what they write. -/
theorem rewritten (h : IsSplitting text pieces) :
    IsSplitting (String.ofList (writePieces pieces)) pieces :=
  { h with written := ⟨[], by simp, nofun⟩ }

end IsSplitting

theorem components_joined_components (text : String) :
    components (joined (components text)) = components text := by
  by_cases h : (components text).getLast? = some ""
  · -- an empty last component is the only one, and nothing is written for it
    rw [components_eq_of_getLast?_eq_empty h]
    rfl
  · exact components_joined (components_ne_nil text) (fun _ => undivided_of_mem_components) h

theorem joined_eq_intercalate (items : List String) : joined items = "/".intercalate items := by
  cases items with
  | nil => rfl
  | cons first rest =>
      rw [← String.toList_inj, toList_intercalate_cons]
      simp [joined, Delimited.write, List.flatMap_map, Delimiter.toChar]

/-- Splitting gives the only pieces that a text can have. -/
theorem splitting_is_lossless (text : String) :
    (∀ pieces, IsSplitting text pieces ↔ pieces = (Delimited.ofString text).pieces) ∧
      components (String.ofList (writePieces (Delimited.ofString text).pieces)) =
        components text ∧
      components ("/".intercalate (components text)) = components text := by
  refine ⟨fun _ => IsSplitting.iff_eq_pieces, ?_, ?_⟩
  · have hsplitting : IsSplitting text (Delimited.ofString text).pieces :=
      IsSplitting.iff_eq_pieces.mpr rfl
    have hpieces := IsSplitting.iff_eq_pieces.mp hsplitting.rewritten
    rw [components, components, ← Delimited.map_snd_pieces, ← hpieces, Delimited.map_snd_pieces]
  · rw [← joined_eq_intercalate, components_joined_components]

example : (Delimited.ofString "/find?é&/&").pieces =
    [(none, ""), (some '/', "find"), (some '?', "é")] := by rfl

end Wayfinding
