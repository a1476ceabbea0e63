import Wayfinding.Json.Value
import Wayfinding.Proofs.Json.Grammar
import Wayfinding.Proofs.Number.Integer
import Wayfinding.Proofs.Traversal

/-!
What writing makes of a value is a document that spells it, on one line or over several. A text is
written with short escapes and codes in lower case, an integer by its digits, and the items of a
bracket one after another with commas between them. The layout over several lines only adds blanks
between the tokens, and no line break can come from a text, which is written with its breaks
escaped.
-/

namespace Wayfinding.Json

theorem spellsCode_control {n : Nat} (h : n < 0x20) :
    SpellsCode n (['\\', 'u', '0', '0', Nat.digitChar (n / 16), Nat.digitChar (n % 16)]) := by
  have hdigits : ∀ n < 0x20, Text.hexValue? (Nat.digitChar (n / 16)) = some (n / 16) ∧
      Text.hexValue? (Nat.digitChar (n % 16)) = some (n % 16) := by decide
  have hcode : SpellsCode (0 * 0x1000 + 0 * 0x100 + n / 16 * 0x10 + n % 16)
      ['\\', 'u', '0', '0', Nat.digitChar (n / 16), Nat.digitChar (n % 16)] :=
    .digits rfl rfl (hdigits n h).1 (hdigits n h).2
  have hn : 0 * 0x1000 + 0 * 0x100 + n / 16 * 0x10 + n % 16 = n := by omega
  rwa [hn] at hcode

theorem spellsChar_escapeChar (c : Char) : SpellsChar c (escapeChar c) := by
  rw [escapeChar.eq_def]
  split
  iterate 7 exact .short (by decide)
  rename_i hquote hbackslash _ _ _ _ _
  split
  · rename_i hcode
    have hlow : c.toNat < 0x20 := by omega
    have hzero : c.toNat / 16 = 0 := by omega
    have hrest : c.toNat % 16 = c.toNat := by omega
    have hspells := spellsCode_control hlow
    rw [hzero, hrest] at hspells
    rw [Text.lowerHex, Nat.toDigits_of_lt_base hcode]
    exact .code hspells
  · split
    · rename_i hlow hcode
      have hone : c.toNat / 16 = 1 := by omega
      have hspells := spellsCode_control hcode
      rw [hone] at hspells
      rw [Text.lowerHex, Nat.toDigits_of_base_le (by decide) (by omega), hone,
        Nat.toDigits_of_lt_base (by decide)]
      exact .code hspells
    · exact .plain hquote hbackslash (by omega)

theorem spellsText_escape (text : List Char) : SpellsText text (text.flatMap escapeChar) := by
  induction text with
  | nil => exact .nil
  | cons c text ih => exact .cons (spellsChar_escapeChar c) ih

theorem spellsToken_writeText (s : String) : SpellsToken (.ofText s) (writeText s).toList := by
  rw [writeText, String.toList_ofList]
  exact .literal (spellsText_escape s.toList)

/-- The first digit is zero only if there is no other. -/
theorem wholePart_toDigits (n : Nat) : WholePart (Nat.toDigits 10 n) := by
  have hdigit : ∀ d < 10, (Nat.digitChar d).isDigit = true ∧
      (d ≠ 0 → Nat.digitChar d ≠ '0') := by decide
  induction n using Nat.strongRecOn with
  | ind n ih =>
      by_cases hlow : n < 10
      · rw [Nat.toDigits_of_lt_base hlow]
        by_cases hzero : n = 0
        · rw [hzero]
          exact .zero
        · exact .digits (hdigit n hlow).1 ((hdigit n hlow).2 hzero) nofun
      · have hlast := (hdigit (n % 10) (Nat.mod_lt n (by decide))).1
        have hvalue := Number.digitsValue_toDigits (n / 10)
        have hfront := ih (n / 10) (by omega)
        rw [Nat.toDigits_of_base_le (by decide) (by omega)]
        generalize Nat.toDigits 10 (n / 10) = digits at hvalue hfront
        cases hfront with
        | zero =>
            have hpos : 0 < n / 10 := by omega
            exact absurd hvalue (Nat.ne_of_lt hpos)
        | digits hfirst hzero hdigits =>
            exact .digits hfirst hzero
              (List.forall_mem_append.mpr ⟨hdigits, List.forall_mem_singleton.mpr hlast⟩)

theorem isNumeral_toString (n : Int) : IsNumeral (toString n).toList := by
  have hsign : (Number.Sign.ofInt n).chars ∈ [[], ['-']] := by
    rw [Number.Sign.ofInt]
    split <;> decide
  have hparts : IsNumeral ((Number.Sign.ofInt n).chars ++
      (Nat.toDigits 10 n.natAbs ++ ([] ++ []))) :=
    .parts hsign (wholePart_toDigits n.natAbs) .absent .absent
  rwa [List.append_nil, List.append_nil, ← Number.toList_toString_int] at hparts

section

variable {c : Char} {n : Nat} {text cs : List Char}

theorem newline_notMem_of_spellsCode (h : SpellsCode n cs) : '\n' ∉ cs := by
  obtain ⟨ha, hb, hc, hd⟩ := h
  have hdigit : ∀ {c : Char} {value : Nat}, Text.hexValue? c = some value → '\n' ≠ c := by
    rintro c value hvalue rfl
    cases hvalue
  simp [hdigit ha, hdigit hb, hdigit hc, hdigit hd]

/-- A line break can only be escaped, and no escape has one in it. -/
theorem newline_notMem_of_spellsChar (h : SpellsChar c cs) : '\n' ∉ cs := by
  cases h with
  | plain _ _ hcode =>
      rw [List.mem_singleton]
      rintro rfl
      exact absurd hcode (by decide)
  | short hshort =>
      have hletters : ∀ pair ∈ shortEscapes, '\n' ∉ ['\\', pair.2] := by decide
      exact hletters _ hshort
  | code hcode => exact newline_notMem_of_spellsCode hcode
  | surrogates _ hhigh hlow =>
      rw [List.mem_append, not_or]
      exact ⟨newline_notMem_of_spellsCode hhigh, newline_notMem_of_spellsCode hlow⟩

theorem newline_notMem_of_spellsText (h : SpellsText text cs) : '\n' ∉ cs := by
  induction h with
  | nil => exact List.not_mem_nil
  | cons hchar _ ih =>
      rw [List.mem_append, not_or]
      exact ⟨newline_notMem_of_spellsChar hchar, ih⟩

theorem newline_notMem_writeText (s : String) : '\n' ∉ (writeText s).toList := by
  have htext := newline_notMem_of_spellsText (spellsText_escape s.toList)
  simpa [writeText] using htext

theorem newline_notMem_toString (n : Int) : '\n' ∉ (toString n).toList := by
  rw [Number.toList_toString_int, List.mem_append, not_or]
  refine ⟨?_, fun hdigit => absurd ((Number.isWhole_toDigits n.natAbs).2 _ hdigit) (by decide)⟩
  rw [Number.Sign.ofInt]
  split <;> decide

end

abbrev AreBlanks (cs : List Char) : Prop := ∀ c ∈ cs, c ∈ [' ', '\n', '\t', '\r']

namespace SpellsTokens

variable {first rest : List Token} {cs text : List Char}

theorem append (hfirst : SpellsTokens first cs) (hrest : SpellsTokens rest text) :
    SpellsTokens (first ++ rest) (cs ++ text) := by
  induction hfirst with
  | nil => exact hrest
  | blank hblank _ ih => exact .blank hblank ih
  | token htoken _ ih =>
      rw [List.append_assoc]
      exact .token htoken ih

theorem single {token : Token} (h : SpellsToken token cs) : SpellsTokens [token] cs := by
  have htoken := SpellsTokens.token h .nil
  rwa [List.append_nil] at htoken

theorem blanks {gap : List Char} (hgap : AreBlanks gap) (h : SpellsTokens rest cs) :
    SpellsTokens rest (gap ++ cs) := by
  induction gap with
  | nil => exact h
  | cons c gap ih =>
      obtain ⟨hblank, hgap⟩ := List.forall_mem_cons.mp hgap
      exact .blank hblank (ih hgap)

end SpellsTokens

/-- Rows of tokens between brackets, with commas between the rows. -/
def bracketed (opening closing : Token) : List (List Token) → List Token
  | [] => [opening, closing]
  | first :: rows => opening :: (first ++ (rows.flatMap (.comma :: ·) ++ [closing]))

/-- Each line spells one row of tokens. -/
abbrev SpellRows (rows : List (List Token)) (lines : List String) : Prop :=
  List.Forall₂ (fun tokens line => SpellsTokens tokens line.toList) rows lines

section

variable {opening closing : Token} {rows : List (List Token)} {lines : List String}
  {separator : String} {before after : List Char}

theorem spells_laterRows (hclosing : SpellsTokens [closing] after)
    (hseparator : SpellsTokens [.comma] separator.toList) (h : SpellRows rows lines) :
    SpellsTokens (rows.flatMap (.comma :: ·) ++ [closing])
      (lines.flatMap (separator.toList ++ ·.toList) ++ after) := by
  induction h with
  | nil => exact hclosing
  | cons hline _ ih =>
      simp only [List.flatMap_cons, List.append_assoc]
      exact hseparator.append (hline.append ih)

/-- There may be blanks around the commas and the brackets. -/
theorem spells_bracketed (hopening : SpellsTokens [opening] before)
    (hclosing : SpellsTokens [closing] after)
    (hseparator : SpellsTokens [.comma] separator.toList) (h : SpellRows rows lines) :
    SpellsTokens (bracketed opening closing rows)
      (before ++ ((separator.intercalate lines).toList ++ after)) := by
  cases h with
  | nil =>
      rw [String.intercalate_nil, String.toList_empty, List.nil_append]
      exact hopening.append hclosing
  | cons hline hlines =>
      rw [toList_intercalate_cons, List.append_assoc]
      exact hopening.append (hline.append (spells_laterRows hclosing hseparator hlines))

end

namespace Datum

def memberTokens (member : String × Datum) : List Token :=
  .ofText member.1 :: .colon :: member.2.tokens

theorem laterItems_eq (items : List Datum) :
    laterItems items = (items.map tokens).flatMap (.comma :: ·) ++ [.closeBracket] := by
  induction items with
  | nil => rfl
  | cons item items ih =>
      rw [laterItems, ih, List.map_cons, List.flatMap_cons, List.append_assoc]
      rfl

theorem laterMembers_eq (members : List (String × Datum)) :
    laterMembers members = (members.map memberTokens).flatMap (.comma :: ·) ++ [.closeBrace] := by
  induction members with
  | nil => rfl
  | cons member members ih =>
      rw [laterMembers, ih, List.map_cons, List.flatMap_cons, List.append_assoc]
      rfl

theorem tokens_list (items : List Datum) :
    (list items).tokens = bracketed .openBracket .closeBracket (items.map tokens) := by
  cases items with
  | nil => rfl
  | cons item items => rw [tokens, laterItems_eq, List.map_cons, bracketed]

theorem tokens_object (members : List (String × Datum)) :
    (object members).tokens = bracketed .openBrace .closeBrace (members.map memberTokens) := by
  cases members with
  | nil => rfl
  | cons member members =>
      rw [tokens, laterMembers_eq, List.map_cons, bracketed, memberTokens]
      rfl

end Datum

namespace Value

mutual

/-- What a document that spells the value says. -/
def datum : Value → Datum
  | null => .null
  | boolean b => .boolean b
  | integer n => .number (toString n).toList
  | text s => .text s
  | list items => .list (datumItems items)
  | object members => .object (datumMembers members)

def datumItems : List Value → List Datum
  | [] => []
  | item :: rest => item.datum :: datumItems rest

def datumMembers : List (String × Value) → List (String × Datum)
  | [] => []
  | (name, value) :: rest => (name, value.datum) :: datumMembers rest

end

theorem datumItems_eq (items : List Value) : datumItems items = items.map datum := by
  induction items with
  | nil => rfl
  | cons item items ih => rw [datumItems, ih, List.map_cons]

theorem datumMembers_eq (members : List (String × Value)) :
    datumMembers members = members.map fun member => (member.1, member.2.datum) := by
  induction members with
  | nil => rfl
  | cons member members ih => rw [datumMembers, ih, List.map_cons]

theorem spells_member (name : String) {value : Datum} {colon text : String}
    (hcolon : SpellsTokens [.colon] colon.toList) (h : SpellsTokens value.tokens text.toList) :
    SpellsTokens (Datum.memberTokens (name, value)) (writeText name ++ colon ++ text).toList := by
  simp only [String.toList_append, List.append_assoc]
  exact .token (spellsToken_writeText name) (hcolon.append h)

mutual

/-- What is written on one line spells the value. -/
theorem spells_compact (value : Value) : SpellsTokens value.datum.tokens value.compact.toList := by
  cases value with
  | null => exact .single .null
  | boolean b =>
      cases b with
      | false => exact .single .false
      | true => exact .single .true
  | integer n => exact .single (.numeral (isNumeral_toString n))
  | text s => exact .single (spellsToken_writeText s)
  | list items =>
      have hitems := spells_compactItems items
      rw [datum, Datum.tokens_list, compact]
      simp only [String.toList_append, List.append_assoc]
      exact spells_bracketed (.single .openBracket) (.single .closeBracket) (.single .comma) hitems
  | object members =>
      have hmembers := spells_compactMembers members
      rw [datum, Datum.tokens_object, compact]
      simp only [String.toList_append, List.append_assoc]
      exact spells_bracketed (.single .openBrace) (.single .closeBrace) (.single .comma) hmembers

theorem spells_compactItems (items : List Value) :
    SpellRows ((datumItems items).map Datum.tokens) (compactItems items) := by
  cases items with
  | nil => exact .nil
  | cons item items => exact .cons (spells_compact item) (spells_compactItems items)

theorem spells_compactMembers (members : List (String × Value)) :
    SpellRows ((datumMembers members).map Datum.memberTokens) (compactMembers members) := by
  cases members with
  | nil => exact .nil
  | cons member members =>
      obtain ⟨name, value⟩ := member
      exact .cons (spells_member name (.single .colon) (spells_compact value))
        (spells_compactMembers members)

end

theorem newline_notMem_comma : '\n' ∉ ",".toList := by decide

mutual

theorem newline_notMem_compact (value : Value) : '\n' ∉ value.compact.toList := by
  cases value with
  | null => decide
  | boolean b => cases b <;> decide
  | integer n => exact newline_notMem_toString n
  | text s => exact newline_notMem_writeText s
  | list items =>
      have hitems := notMem_intercalate newline_notMem_comma (newline_notMem_compactItems items)
      simpa [compact] using hitems
  | object members =>
      have hmembers :=
        notMem_intercalate newline_notMem_comma (newline_notMem_compactMembers members)
      simpa [compact] using hmembers

theorem newline_notMem_compactItems (items : List Value) :
    ∀ line ∈ compactItems items, '\n' ∉ line.toList := by
  cases items with
  | nil => exact List.forall_mem_nil _
  | cons item items =>
      exact List.forall_mem_cons.mpr
        ⟨newline_notMem_compact item, newline_notMem_compactItems items⟩

theorem newline_notMem_compactMembers (members : List (String × Value)) :
    ∀ line ∈ compactMembers members, '\n' ∉ line.toList := by
  cases members with
  | nil => exact List.forall_mem_nil _
  | cons member members =>
      obtain ⟨name, value⟩ := member
      have hname := newline_notMem_writeText name
      have hvalue := newline_notMem_compact value
      refine List.forall_mem_cons.mpr ⟨?_, newline_notMem_compactMembers members⟩
      simp [hname, hvalue]

end

/-- One more step of indentation is still blanks. -/
theorem areBlanks_indent {indent : String} (h : AreBlanks indent.toList) :
    AreBlanks (indent ++ "  ").toList := by
  rw [String.toList_append]
  exact List.forall_mem_append.mpr ⟨h, by simp⟩

/-- Over several lines there are blanks before each row and before the closing bracket. -/
theorem spells_block {opening closing : Token} {left right indent : String}
    {rows : List (List Token)} {lines : List String} (hindent : AreBlanks indent.toList)
    (hopening : SpellsToken opening left.toList) (hclosing : SpellsToken closing right.toList)
    (h : SpellRows rows lines) :
    SpellsTokens (bracketed opening closing rows) (block left right indent lines).toList := by
  have hindented : SpellRows rows (lines.map ((indent ++ "  ") ++ ·)) := by
    rw [SpellRows, List.forall₂_map_right_iff]
    refine h.imp fun tokens line hline => ?_
    rw [String.toList_append]
    exact .blanks (areBlanks_indent hindent) hline
  cases lines with
  | nil =>
      obtain rfl := List.forall₂_nil_right_iff.mp h
      rw [block, List.isEmpty_nil, if_pos rfl, String.toList_append]
      exact (SpellsTokens.single hopening).append (.single hclosing)
  | cons line lines =>
      have hleft : SpellsTokens [opening] (left.toList ++ ['\n']) :=
        .token hopening (.blank (by decide) .nil)
      have hright : SpellsTokens [closing] ('\n' :: (indent.toList ++ right.toList)) :=
        .blank (by decide) (.blanks hindent (.single hclosing))
      have hseparator : SpellsTokens [.comma] ",\n".toList :=
        .token .comma (.blank (by decide) .nil)
      have hspells := spells_bracketed hleft hright hseparator hindented
      rw [block, if_neg (by simp)]
      simpa using hspells

mutual

/-- What is written over several lines spells the value too, at any indentation. -/
theorem spells_pretty (value : Value) {indent : String} (h : AreBlanks indent.toList) :
    SpellsTokens value.datum.tokens (value.pretty indent).toList := by
  cases value with
  | null => exact spells_compact null
  | boolean b => exact spells_compact (boolean b)
  | integer n => exact spells_compact (integer n)
  | text s => exact spells_compact (text s)
  | list items =>
      rw [datum, Datum.tokens_list, pretty]
      exact spells_block h .openBracket .closeBracket
        (spells_prettyItems items (areBlanks_indent h))
  | object members =>
      rw [datum, Datum.tokens_object, pretty]
      exact spells_block h .openBrace .closeBrace
        (spells_prettyMembers members (areBlanks_indent h))

theorem spells_prettyItems (items : List Value) {indent : String}
    (h : AreBlanks indent.toList) :
    SpellRows ((datumItems items).map Datum.tokens) (prettyItems indent items) := by
  cases items with
  | nil => exact .nil
  | cons item items => exact .cons (spells_pretty item h) (spells_prettyItems items h)

theorem spells_prettyMembers (members : List (String × Value)) {indent : String}
    (h : AreBlanks indent.toList) :
    SpellRows ((datumMembers members).map Datum.memberTokens) (prettyMembers indent members) := by
  cases members with
  | nil => exact .nil
  | cons member members =>
      obtain ⟨name, value⟩ := member
      have hcolon : SpellsTokens [.colon] ": ".toList := .token .colon (.blank (by decide) .nil)
      exact .cons (spells_member name hcolon (spells_pretty value h))
        (spells_prettyMembers members h)

end

end Value

end Wayfinding.Json
