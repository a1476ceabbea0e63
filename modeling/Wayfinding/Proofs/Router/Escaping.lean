import Wayfinding.Proofs.Path
import Wayfinding.Proofs.Router.Address

/-!
What escaping does to a path. An escaped path is made of characters that neither end a URL nor a
quoted text, and its percent signs are those of escapes. Delimiters are never escaped and no
escape holds one, so an escaped path splits into its components, each of them escaped.
-/

namespace Wayfinding
namespace Text.Percent

def IsUpperHexDigit (c : Char) : Prop :=
  '0' ≤ c ∧ c ≤ '9' ∨ 'A' ≤ c ∧ c ≤ 'F'

instance (c : Char) : Decidable (IsUpperHexDigit c) :=
  inferInstanceAs (Decidable (_ ∨ _))

/-- A character that shows and that neither quotes nor breaks off an address. -/
def IsAddressChar (c : Char) : Prop :=
  0x21 ≤ c.toNat ∧ c.toNat ≤ 0x7E ∧ c ∉ ['"', '\'', '\\', '<', '>', '\x60']

instance (c : Char) : Decidable (IsAddressChar c) :=
  inferInstanceAs (Decidable (_ ∧ _))

/-- Every percent sign has two digits behind it. -/
def EscapesOctets (cs : List Char) : Prop :=
  ∀ ahead rest, cs = ahead ++ '%' :: rest →
    ∃ high low later, rest = high :: low :: later ∧ IsUpperHexDigit high ∧ IsUpperHexDigit low

/-- How a path stands in an address. -/
structure IsAddressForm (path form : String) : Prop where
  spells : Spells path.toList form.toList
  safe : ∀ c ∈ form.toList, IsAddressChar c
  escapes : EscapesOctets form.toList

theorem upperHexDigit_spec {n : Nat} (h : n < 16) :
    IsUpperHexDigit (upperHexDigit n) ∧ IsAddressChar (upperHexDigit n) ∧
      Delimiter.ofChar? (upperHexDigit n) = none := by
  revert n
  decide

/-- A character is left as it is or becomes percent signs and digits. -/
theorem mem_encodeChar {c d : Char} (h : d ∈ encodeChar c) :
    isEscaped c = false ∧ d = c ∨ d = '%' ∨ ∃ n < 16, d = upperHexDigit n := by
  rw [encodeChar] at h
  split at h
  · obtain ⟨octet, -, hd⟩ := List.mem_flatMap.mp h
    obtain ⟨hhigh, hlow⟩ := halves_lt octet
    simp only [escapeOctet, List.mem_cons, List.not_mem_nil, or_false] at hd
    obtain hd | hd | hd := hd
    · exact .inr (.inl hd)
    · exact .inr (.inr ⟨_, hhigh, hd⟩)
    · exact .inr (.inr ⟨_, hlow, hd⟩)
  · rename_i hplain
    exact .inl ⟨Bool.eq_false_iff.mpr hplain, List.mem_singleton.mp h⟩

theorem isAddressChar_of_not_isEscaped {c : Char} (h : isEscaped c = false) :
    IsAddressChar c := by
  simp only [isEscaped, Bool.or_eq_false_iff, decide_eq_false_iff_not, List.contains_eq_mem,
    List.mem_cons, List.not_mem_nil, or_false, not_or, Nat.not_lt, Nat.not_le] at h
  obtain ⟨⟨hlow, hhigh⟩, -, hspace, hquotes⟩ := h
  have hcode : c.toNat ≠ 0x20 := fun hcode => hspace (Char.toNat_inj.mp hcode)
  exact ⟨by omega, by omega, by simpa using hquotes⟩

theorem isAddressChar_of_mem_encodeChar {c d : Char} (h : d ∈ encodeChar c) :
    IsAddressChar d := by
  obtain ⟨hplain, rfl⟩ | rfl | ⟨n, hn, rfl⟩ := mem_encodeChar h
  · exact isAddressChar_of_not_isEscaped hplain
  · decide
  · exact (upperHexDigit_spec hn).2.1

theorem undivided_encodeChar {c : Char} (h : Delimiter.ofChar? c = none) :
    IsUndivided (encodeChar c) := by
  intro d hd
  obtain ⟨-, rfl⟩ | rfl | ⟨n, hn, rfl⟩ := mem_encodeChar hd
  · exact h
  · rfl
  · exact (upperHexDigit_spec hn).2.2

theorem encodeChar_of_delimiter {c : Char} {d : Delimiter} (h : Delimiter.ofChar? c = some d) :
    encodeChar c = [c] := by
  rw [Delimiter.eq_toChar_of_ofChar? h]
  cases d <;> rfl

theorem encodeChar_ne_nil (c : Char) : encodeChar c ≠ [] := by
  rw [encodeChar]
  split
  · intro hnone
    cases hoctets : String.utf8EncodeChar c with
    | nil => exact String.utf8EncodeChar_ne_nil hoctets
    | cons octet octets =>
        rw [hoctets] at hnone
        cases hnone
  · exact List.cons_ne_nil c []

namespace EscapesOctets

variable {cs : List Char}

theorem cons {c : Char} (hc : c ≠ '%') (h : EscapesOctets cs) : EscapesOctets (c :: cs) := by
  intro ahead rest heq
  cases ahead with
  | nil => exact absurd (List.cons.inj heq).1 hc
  | cons _ ahead => exact h ahead rest (List.cons.inj heq).2

theorem escape {high low : Char} (hhigh : IsUpperHexDigit high) (hlow : IsUpperHexDigit low)
    (h : EscapesOctets cs) : EscapesOctets ('%' :: high :: low :: cs) := by
  have hdigit {c : Char} (hc : IsUpperHexDigit c) : c ≠ '%' := by
    rintro rfl
    exact absurd hc (by decide)
  intro ahead rest heq
  cases ahead with
  | nil => exact ⟨high, low, cs, (List.cons.inj heq).2.symm, hhigh, hlow⟩
  | cons _ ahead =>
      exact ((h.cons (hdigit hlow)).cons (hdigit hhigh)) ahead rest (List.cons.inj heq).2

theorem flatMap_escapeOctet (h : EscapesOctets cs) (bytes : List UInt8) :
    EscapesOctets (bytes.flatMap escapeOctet ++ cs) := by
  induction bytes with
  | nil => exact h
  | cons octet bytes ih =>
      obtain ⟨hhigh, hlow⟩ := halves_lt octet
      exact .escape (upperHexDigit_spec hhigh).1 (upperHexDigit_spec hlow).1 ih

theorem encodeChar_append (h : EscapesOctets cs) (c : Char) :
    EscapesOctets (encodeChar c ++ cs) := by
  rw [encodeChar]
  split
  · exact h.flatMap_escapeOctet _
  · rename_i hplain
    refine h.cons ?_
    rintro rfl
    exact hplain (by decide)

end EscapesOctets

theorem escapesOctets_flatMap_encodeChar (text : List Char) :
    EscapesOctets (text.flatMap encodeChar) := by
  induction text with
  | nil =>
      intro ahead rest heq
      simp at heq
  | cons c text ih =>
      rw [List.flatMap_cons]
      exact ih.encodeChar_append c

theorem isAddressForm_encode (path : String) : IsAddressForm path (encode path) := by
  refine ⟨spells_encode path, ?_, ?_⟩
  · intro d hd
    rw [encode, String.toList_ofList] at hd
    obtain ⟨c, -, hd⟩ := List.mem_flatMap.mp hd
    exact isAddressChar_of_mem_encodeChar hd
  · rw [encode, String.toList_ofList]
    exact escapesOctets_flatMap_encodeChar path.toList

theorem isEmpty_flatMap_encodeChar (text : List Char) :
    (text.flatMap encodeChar).isEmpty = text.isEmpty := by
  cases text with
  | nil => rfl
  | cons c text => simp [encodeChar_ne_nil c]

theorem encode_eq_empty_iff (text : String) : encode text = "" ↔ text = "" := by
  rw [← String.toList_eq_nil_iff, ← String.toList_eq_nil_iff, encode, String.toList_ofList,
    ← List.isEmpty_iff, isEmpty_flatMap_encodeChar, List.isEmpty_iff]

theorem splitAll_flatMap_encodeChar (text : List Char) :
    Delimited.splitAll (text.flatMap encodeChar) =
      (Delimited.splitAll text).map (List.flatMap encodeChar) := by
  induction text with
  | nil => rfl
  | cons c text ih =>
      rw [List.flatMap_cons, Delimited.splitAll_cons]
      cases hc : Delimiter.ofChar? c with
      | none =>
          rw [Delimited.splitAll_append (undivided_encodeChar hc), ih]
          rfl
      | some d =>
          rw [encodeChar_of_delimiter hc, List.singleton_append, Delimited.splitAll_cons, hc, ih]
          rfl

theorem split_flatMap_encodeChar (text : List Char) :
    Delimited.split (text.flatMap encodeChar) =
      (Delimited.split text).map (List.flatMap encodeChar) := by
  simp only [Delimited.split, splitAll_flatMap_encodeChar]
  exact congrArg (Delimited.mk _) (Delimited.dropEmptyEnd_map isEmpty_flatMap_encodeChar _)

theorem ofString_encode (path : String) :
    Delimited.ofString (encode path) = (Delimited.ofString path).map encode := by
  have hcompose : encode ∘ String.ofList = String.ofList ∘ List.flatMap encodeChar := by
    funext text
    simp [encode]
  rw [Delimited.ofString, Delimited.ofString, Delimited.map_map, hcompose, encode,
    String.toList_ofList, split_flatMap_encodeChar, Delimited.map_map]

theorem filterMap_ofChar?_encode (path : String) :
    (encode path).toList.filterMap Delimiter.ofChar? =
      path.toList.filterMap Delimiter.ofChar? := by
  rw [encode, String.toList_ofList]
  induction path.toList with
  | nil => rfl
  | cons c text ih =>
      rw [List.flatMap_cons, List.filterMap_append, ih]
      cases hc : Delimiter.ofChar? c with
      | none =>
          rw [List.filterMap_cons_none hc,
            List.filterMap_eq_nil_iff.mpr (undivided_encodeChar hc), List.nil_append]
      | some d =>
          rw [encodeChar_of_delimiter hc, List.filterMap_cons_some hc,
            List.filterMap_cons_some hc, List.filterMap_nil, List.singleton_append]

end Text.Percent

open Text.Percent (encode IsAddressForm)
open Run (unrulySite)

/-- Escaping neither makes nor hides a delimiter, so the address of a path has the components of
the path, and the same ones of them are empty. -/
theorem addressFor_keeps_structure {σ : Type} (router : Router σ) (path : String) :
    router.addressFor path = router.baseUrl ++ "/" ++ encode path ∧
      IsAddressForm path (encode path) ∧
      components (encode path) = (components path).map encode ∧
      Delimited.ofString (encode path) = (Delimited.ofString path).map encode ∧
      (encode path).toList.filterMap Delimiter.ofChar? =
        path.toList.filterMap Delimiter.ofChar? ∧
      ∀ text, encode text = "" ↔ text = "" := by
  refine ⟨rfl, Text.Percent.isAddressForm_encode path, ?_, Text.Percent.ofString_encode path,
    Text.Percent.filterMap_ofChar?_encode path, Text.Percent.encode_eq_empty_iff⟩
  rw [components, components, Text.Percent.ofString_encode, Delimited.toList_map]

/-- Escapes that stand in the path already are escaped once more. -/
theorem addressFor_keeps_structure_again :
    encode "é/%2F?'//" = "%C3%A9/%252F?%27//" ∧
      IsAddressForm "é/%2F?'//" "%C3%A9/%252F?%27//" ∧
      components "%C3%A9/%252F?%27//" = ["%C3%A9", "%252F", "%27"] := by
  obtain ⟨-, hform, hcomponents, -⟩ := addressFor_keeps_structure unrulySite.router "é/%2F?'//"
  have hencode : encode "é/%2F?'//" = "%C3%A9/%252F?%27//" := by decide +kernel
  rw [hencode] at hform hcomponents
  refine ⟨hencode, hform, ?_⟩
  rw [hcomponents]
  decide +kernel

end Wayfinding
