/-!
Paths and templates are components separated by `/`, `?` or `&`. Splitting keeps each
separator with the component after it, so that a template can be written out again, and
drops empty components at the end. At least one component remains.
-/

namespace Wayfinding

inductive Delimiter where
  | slash
  | question
  | ampersand
  deriving DecidableEq, Repr

namespace Delimiter

def toChar : Delimiter → Char
  | slash => '/'
  | question => '?'
  | ampersand => '&'

def ofChar? : Char → Option Delimiter
  | '/' => some slash
  | '?' => some question
  | '&' => some ampersand
  | _ => none

theorem ofChar?_toChar (d : Delimiter) : ofChar? d.toChar = some d := by
  cases d <;> rfl

theorem eq_toChar_of_ofChar? {c : Char} {d : Delimiter} (h : ofChar? c = some d) :
    c = d.toChar := by
  unfold ofChar? at h
  split at h <;> cases h <;> rfl

end Delimiter

/-- Items in a row, each but the first with the delimiter before it. -/
structure Delimited (α : Type) where
  first : α
  rest : List (Delimiter × α)
  deriving DecidableEq, Repr

namespace Delimited

def toList (d : Delimited α) : List α :=
  d.first :: d.rest.map (·.2)

def map (f : α → β) (d : Delimited α) : Delimited β :=
  ⟨f d.first, d.rest.map fun (delimiter, item) => (delimiter, f item)⟩

/-- Every item and its delimiter written one after the other. -/
def write (d : Delimited (List Char)) : List Char :=
  d.first ++ d.rest.flatMap fun (delimiter, item) => delimiter.toChar :: item

/-- Splits at every delimiter. -/
def splitAll (text : List Char) : Delimited (List Char) :=
  text.foldr
    (fun c d =>
      match Delimiter.ofChar? c with
      | some delimiter => ⟨[], (delimiter, d.first) :: d.rest⟩
      | none => ⟨c :: d.first, d.rest⟩)
    ⟨[], []⟩

theorem splitAll_cons (c : Char) (text : List Char) :
    splitAll (c :: text) =
      match Delimiter.ofChar? c with
      | some delimiter => ⟨[], (delimiter, (splitAll text).first) :: (splitAll text).rest⟩
      | none => ⟨c :: (splitAll text).first, (splitAll text).rest⟩ := rfl

/-- Splitting loses nothing. -/
theorem write_splitAll (text : List Char) : (splitAll text).write = text := by
  induction text with
  | nil => rfl
  | cons c text ih =>
    rw [splitAll_cons]
    cases h : Delimiter.ofChar? c with
    | none => simpa [write] using ih
    | some d => simpa [write, Delimiter.eq_toChar_of_ofChar? h] using ih

/-- The items up to the last one that is not empty. -/
def dropEmptyEnd (items : List (Delimiter × List Char)) : List (Delimiter × List Char) :=
  items.foldr
    (fun item kept => if kept.isEmpty && item.2.isEmpty then [] else item :: kept)
    []

def split (text : List Char) : Delimited (List Char) :=
  let all := splitAll text
  ⟨all.first, dropEmptyEnd all.rest⟩

def ofString (text : String) : Delimited String :=
  (split text.toList).map String.ofList

end Delimited

/-- The components of a path or template. -/
def components (path : String) : List String :=
  (Delimited.ofString path).toList

end Wayfinding
