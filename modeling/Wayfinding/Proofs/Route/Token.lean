import Wayfinding.Proofs.Route.Compiled
import Wayfinding.Proofs.Traversal

/-!
The grammar of the components that start with a colon. Such a component declares a segment or is
malformed in just one way: what comes first in it counts, so a fault of the suffix shows only
behind a name, and a second suffix only behind a first. Reading follows this grammar.
-/

namespace Wayfinding

/-- What the name and the suffix of a segment may be. -/
def IsWord (text : String) : Prop := text ≠ "" ∧ ':' ∉ text.toList

/-- Nothing, or a colon and anything behind it. -/
def EndsWord (text : String) : Prop := text = "" ∨ ∃ rest, text = ":" ++ rest

/-- The components that declare a segment, with its name and its suffix. -/
inductive Declares : (component name : String) → (suffix : Option String) → Prop where
  | plain {name : String} (hname : IsWord name) : Declares (":" ++ name) name none
  | typed {name suffix : String} (hname : IsWord name) (hsuffix : IsWord suffix) :
      Declares (":" ++ name ++ ":" ++ suffix) name (some suffix)

/-- The components that start with a colon and declare nothing. -/
inductive Malformed : (component : String) → TokenFault → Prop where
  | emptyName {rest : String} (hrest : EndsWord rest) : Malformed (":" ++ rest) .emptyName
  | emptySuffix {name rest : String} (hname : IsWord name) (hrest : EndsWord rest) :
      Malformed (":" ++ name ++ ":" ++ rest) .emptySuffix
  | manySuffixes {name suffix : String} (hname : IsWord name) (hsuffix : IsWord suffix)
      (rest : String) : Malformed (":" ++ name ++ ":" ++ suffix ++ ":" ++ rest) .manySuffixes

/-- A component that stands for itself. -/
def IsLiteral (component : String) : Prop :=
  component ≠ "*" ∧ ∀ token, component ≠ ":" ++ token

/-- The kind that a suffix stands for: text if there is none or no kind has it. -/
def Kind.IsNamedBy (kind : Kind) (suffix : Option String) : Prop :=
  suffix = some kind.suffix ∨ kind = .text ∧ ∀ other : Kind, suffix ≠ some other.suffix

theorem Kind.ofSuffix_eq_text {suffix : Option String}
    (h : ∀ other : Kind, suffix ≠ some other.suffix) : ofSuffix suffix = .text := by
  simp only [ofSuffix]
  split
  · exact absurd rfl (h .integer)
  · exact absurd rfl (h .decimal)
  · exact absurd rfl (h .flag)
  · rfl

theorem Kind.isNamedBy_iff {kind : Kind} {suffix : Option String} :
    kind.IsNamedBy suffix ↔ kind = ofSuffix suffix := by
  constructor
  · rintro (rfl | ⟨rfl, hother⟩)
    · exact (ofSuffix_suffix kind).symm
    · exact (ofSuffix_eq_text hother).symm
  · rintro rfl
    by_cases hknown : ∃ other : Kind, suffix = some other.suffix
    · obtain ⟨other, rfl⟩ := hknown
      rw [ofSuffix_suffix]
      exact .inl rfl
    · have hother : ∀ other : Kind, suffix ≠ some other.suffix := not_exists.mp hknown
      exact .inr ⟨ofSuffix_eq_text hother, hother⟩

theorem EndsWord.head?_toList {text : String} (h : EndsWord text) :
    ∀ c ∈ text.toList.head?, c = ':' := by
  rcases h with rfl | ⟨rest, rfl⟩ <;> simp

/-- A text is a word with what ends it, unless it has no word at its start. -/
theorem endsWord_or_exists_word (text : String) :
    EndsWord text ∨ ∃ word rest, text = word ++ rest ∧ IsWord word ∧ EndsWord rest := by
  by_cases hcolon : ':' ∈ text.toList
  · obtain ⟨word, rest, htext, hword⟩ := List.eq_append_cons_of_mem hcolon
    obtain rfl : text = String.ofList word ++ (":" ++ String.ofList rest) := by
      rw [← String.toList_inj, htext]
      simp
    by_cases hempty : word = []
    · subst hempty
      exact .inl (.inr ⟨String.ofList rest, by simp⟩)
    · exact .inr ⟨_, _, rfl, ⟨by simpa using hempty, by simpa using hword⟩, .inr ⟨_, rfl⟩⟩
  · by_cases hempty : text = ""
    · exact .inl (.inl hempty)
    · exact .inr ⟨text, "", by simp, ⟨hempty, hcolon⟩, .inl rfl⟩

theorem declares_or_malformed (token : String) :
    (∃ name suffix, Declares (":" ++ token) name suffix) ∨
      ∃ fault, Malformed (":" ++ token) fault := by
  rcases endsWord_or_exists_word token with hends | ⟨name, _, rfl, hname, rfl | ⟨rest, rfl⟩⟩
  · exact .inr ⟨_, .emptyName hends⟩
  · rw [String.append_empty]
    exact .inl ⟨_, _, .plain hname⟩
  · rw [← String.append_assoc, ← String.append_assoc]
    rcases endsWord_or_exists_word rest with hends | ⟨suffix, _, rfl, hsuffix, rfl | ⟨more, rfl⟩⟩
    · exact .inr ⟨_, .emptySuffix hname hends⟩
    · rw [String.append_empty]
      exact .inl ⟨_, _, .typed hname hsuffix⟩
    · rw [← String.append_assoc, ← String.append_assoc]
      exact .inr ⟨_, .manySuffixes hname hsuffix more⟩

namespace Part

section

variable (word rest : List Char) (hword : ':' ∉ word) (hrest : ∀ c ∈ rest.head?, c = ':')

include hword hrest

theorem takeWhile_word : (word ++ rest).takeWhile (· != ':') = word :=
  takeWhile_append_stop (fun _ hc => bne_iff_ne.mpr (ne_of_mem_of_not_mem hc hword))
    fun c hc => by simpa using hrest c hc

theorem dropWhile_word : (word ++ rest).dropWhile (· != ':') = rest :=
  dropWhile_append_stop (fun _ hc => bne_iff_ne.mpr (ne_of_mem_of_not_mem hc hword))
    fun c hc => by simpa using hrest c hc

end

theorem readToken_word {name : String} (hname : IsWord name) :
    readToken name.toList = .ok (.named name (Kind.ofSuffix none)) := by
  have htake := takeWhile_word _ [] hname.2 (by simp)
  have hdrop := dropWhile_word _ [] hname.2 (by simp)
  rw [List.append_nil] at htake hdrop
  simp [readToken, htake, hdrop, hname.1]

theorem readToken_word_colon {name : String} (hname : IsWord name) (rest : List Char) :
    readToken (name.toList ++ ':' :: rest) =
      if (rest.takeWhile (· != ':')).isEmpty then .error .emptySuffix
      else if rest.contains ':' then .error .manySuffixes
      else .ok (.named name (Kind.ofSuffix (some (String.ofList rest)))) := by
  have hcolon : ∀ c ∈ (':' :: rest).head?, c = ':' := by simp
  simp [readToken, takeWhile_word _ _ hname.2 hcolon, dropWhile_word _ _ hname.2 hcolon, hname.1]

theorem read_of_declares {component name : String} {suffix : Option String}
    (h : Declares component name suffix) :
    read component = .ok (.named name (Kind.ofSuffix suffix)) := by
  cases h with
  | plain hname => simp [read, readToken_word hname]
  | typed hname hsuffix =>
      have htake := takeWhile_word _ [] hsuffix.2 (by simp)
      rw [List.append_nil] at htake
      simp [read, readToken_word_colon hname, htake, hsuffix.1, hsuffix.2]

theorem read_of_malformed {component : String} {fault : TokenFault}
    (h : Malformed component fault) : read component = .error fault := by
  cases h with
  | emptyName hrest =>
      have htake := takeWhile_word [] _ (by simp) hrest.head?_toList
      rw [List.nil_append] at htake
      simp [read, readToken, htake]
  | emptySuffix hname hrest =>
      have htake := takeWhile_word [] _ (by simp) hrest.head?_toList
      rw [List.nil_append] at htake
      simp [read, readToken_word_colon hname, htake]
  | manySuffixes hname hsuffix rest =>
      have htake := takeWhile_word _ (':' :: rest.toList) hsuffix.2 (by simp)
      simp [read, readToken_word_colon hname, htake, hsuffix.1]

theorem read_of_isLiteral {component : String} (h : IsLiteral component) :
    read component = .ok (.literal component) := by
  obtain ⟨hstar, hcolon⟩ := h
  simp only [read]
  split
  · rename_i hread
    exact absurd (String.toList_inj.mp hread) hstar
  · rename_i token hread
    refine absurd ?_ (hcolon (String.ofList token))
    rw [← String.toList_inj, hread]
    simp
  · rfl

theorem read_eq_literal_iff {component text : String} :
    read component = .ok (.literal text) ↔ IsLiteral component ∧ text = component := by
  constructor
  · intro h
    refine ⟨⟨?_, ?_⟩, eq_of_read_literal h⟩
    · rintro rfl
      cases h
    · rintro token rfl
      rcases declares_or_malformed token with ⟨name, suffix, hdeclares⟩ | ⟨fault, hmalformed⟩
      · rw [read_of_declares hdeclares] at h
        cases h
      · rw [read_of_malformed hmalformed] at h
        cases h
  · rintro ⟨hliteral, rfl⟩
    exact read_of_isLiteral hliteral

/-- A component without a colon at its start is a wildcard or a literal. -/
theorem read_of_no_colon {component : String} (h : ∀ token, component ≠ ":" ++ token) :
    ∃ part, read component = .ok part ∧ part.name? = none := by
  by_cases hstar : component = "*"
  · subst hstar
    exact ⟨.wildcard, rfl, rfl⟩
  · exact ⟨.literal component, read_of_isLiteral ⟨hstar, h⟩, rfl⟩

theorem read_cases (component : String) :
    (∃ part, read component = .ok part ∧ part.name? = none) ∨
      (∃ name suffix, Declares component name suffix) ∨ ∃ fault, Malformed component fault := by
  by_cases hcolon : ∃ token, component = ":" ++ token
  · obtain ⟨token, rfl⟩ := hcolon
    exact .inr (declares_or_malformed token)
  · exact .inl (read_of_no_colon fun token htoken => hcolon ⟨token, htoken⟩)

theorem read_eq_named_iff {component name : String} {kind : Kind} :
    read component = .ok (.named name kind) ↔
      ∃ suffix, Declares component name suffix ∧ kind.IsNamedBy suffix := by
  simp only [Kind.isNamedBy_iff]
  constructor
  · intro h
    rcases read_cases component with ⟨part, hread, hname⟩ | ⟨found, suffix, hfound⟩ | ⟨fault, hfault⟩
    · obtain rfl := Except.ok.inj (hread.symm.trans h)
      cases hname
    · obtain ⟨rfl, rfl⟩ := Part.named.inj (Except.ok.inj ((read_of_declares hfound).symm.trans h))
      exact ⟨suffix, hfound, rfl⟩
    · rw [read_of_malformed hfault] at h
      cases h
  · rintro ⟨suffix, hdeclares, rfl⟩
    exact read_of_declares hdeclares

end Part
end Wayfinding
