import Wayfinding.Json.Token

/-!
The grammar of JSON documents as a relation between a value and the characters that spell it,
apart from any way of reading them. A value fixes its tokens, and blanks may stand around each
token. A numeral stands as it is written; a character of a text may be written as itself, by a
short escape, or by the codes of its UTF-16 form. Escapes without a character (lone surrogates)
spell nothing.
-/

namespace Wayfinding.Json

inductive Datum where
  | null
  | boolean (b : Bool)
  | number (numeral : List Char)
  | text (s : String)
  | list (items : List Datum)
  | object (members : List (String × Datum))

namespace Token

/-- A well-formed literal. -/
def ofText (s : String) : Token := .literal (.ok ()) (.ok s.toList)

end Token

namespace Datum

mutual

def tokens : Datum → List Token
  | null => [.word (.ok .null)]
  | boolean true => [.word (.ok .true)]
  | boolean false => [.word (.ok .false)]
  | number numeral => [.numeral (.ok numeral)]
  | text s => [.ofText s]
  | list [] => [.openBracket, .closeBracket]
  | list (item :: items) => .openBracket :: (item.tokens ++ laterItems items)
  | object [] => [.openBrace, .closeBrace]
  | object ((name, value) :: members) =>
    .openBrace :: .ofText name :: .colon :: (value.tokens ++ laterMembers members)

/-- The items after the first one, with the closing bracket. -/
def laterItems : List Datum → List Token
  | [] => [.closeBracket]
  | item :: items => .comma :: (item.tokens ++ laterItems items)

/-- The members after the first one, with the closing brace. -/
def laterMembers : List (String × Datum) → List Token
  | [] => [.closeBrace]
  | (name, value) :: members =>
    .comma :: .ofText name :: .colon :: (value.tokens ++ laterMembers members)

end

end Datum

def IsDigits (cs : List Char) : Prop := ∀ c ∈ cs, c.isDigit = true

inductive WholePart : List Char → Prop
  | zero : WholePart ['0']
  | digits {c : Char} {cs : List Char} : c.isDigit = true → c ≠ '0' → IsDigits cs →
      WholePart (c :: cs)

inductive FractionPart : List Char → Prop
  | absent : FractionPart []
  | digits {c : Char} {cs : List Char} : IsDigits (c :: cs) → FractionPart ('.' :: c :: cs)

inductive ExponentPart : List Char → Prop
  | absent : ExponentPart []
  | digits {mark c : Char} {sign cs : List Char} : mark ∈ ['e', 'E'] →
      sign ∈ [[], ['+'], ['-']] → IsDigits (c :: cs) → ExponentPart (mark :: (sign ++ c :: cs))

/-- The characters of a numeral. -/
inductive IsNumeral : List Char → Prop
  | parts {sign whole fraction exponent : List Char} : sign ∈ [[], ['-']] → WholePart whole →
      FractionPart fraction → ExponentPart exponent →
      IsNumeral (sign ++ (whole ++ (fraction ++ exponent)))

/-- What a short escape writes and the character after its backslash. -/
def shortEscapes : List (Char × Char) :=
  [('"', '"'), ('\\', '\\'), ('/', '/'), ('\x08', 'b'), ('\x0c', 'f'), ('\n', 'n'),
    ('\r', 'r'), ('\t', 't')]

/-- An escape by four hexadecimal digits of either case. -/
inductive SpellsCode : Nat → List Char → Prop
  | digits {a b c d : Char} {p q r s : Nat} : Text.hexValue? a = some p →
      Text.hexValue? b = some q → Text.hexValue? c = some r → Text.hexValue? d = some s →
      SpellsCode (p * 0x1000 + q * 0x100 + r * 0x10 + s) ['\\', 'u', a, b, c, d]

inductive SpellsChar : Char → List Char → Prop
  | plain {c : Char} : c ≠ '"' → c ≠ '\\' → 0x20 ≤ c.toNat → SpellsChar c [c]
  | short {c letter : Char} : (c, letter) ∈ shortEscapes → SpellsChar c ['\\', letter]
  | code {c : Char} {cs : List Char} : SpellsCode c.toNat cs → SpellsChar c cs
  | surrogates {c : Char} {high low : List Char} : 0x10000 ≤ c.toNat →
      SpellsCode (0xD800 + (c.toNat - 0x10000) / 0x400) high →
      SpellsCode (0xDC00 + (c.toNat - 0x10000) % 0x400) low → SpellsChar c (high ++ low)

inductive SpellsText : List Char → List Char → Prop
  | nil : SpellsText [] []
  | cons {c : Char} {text spelling cs : List Char} : SpellsChar c spelling →
      SpellsText text cs → SpellsText (c :: text) (spelling ++ cs)

/-- Whether a character may stand for itself. -/
def isPlain (c : Char) : Bool :=
  c != '"' && c != '\\' && 0x20 ≤ c.toNat

theorem SpellsText.plain {cs : List Char} (h : cs.all isPlain = true) : SpellsText cs cs := by
  induction cs with
  | nil => exact .nil
  | cons c cs ih =>
      simp only [List.all_cons, isPlain, Bool.and_eq_true, bne_iff_ne, decide_eq_true_eq] at h
      obtain ⟨⟨⟨hquote, hbackslash⟩, hcontrol⟩, hrest⟩ := h
      exact .cons (.plain hquote hbackslash hcontrol) (ih hrest)

inductive SpellsToken : Token → List Char → Prop
  | openBrace : SpellsToken .openBrace ['\x7b']
  | closeBrace : SpellsToken .closeBrace ['\x7d']
  | openBracket : SpellsToken .openBracket ['[']
  | closeBracket : SpellsToken .closeBracket [']']
  | colon : SpellsToken .colon [':']
  | comma : SpellsToken .comma [',']
  | null : SpellsToken (.word (.ok .null)) ['n', 'u', 'l', 'l']
  | true : SpellsToken (.word (.ok .true)) ['t', 'r', 'u', 'e']
  | false : SpellsToken (.word (.ok .false)) ['f', 'a', 'l', 's', 'e']
  | numeral {cs : List Char} : IsNumeral cs → SpellsToken (.numeral (.ok cs)) cs
  | literal {text cs : List Char} : SpellsText text cs →
      SpellsToken (.literal (.ok ()) (.ok text)) ('"' :: (cs ++ ['"']))

/-- Tokens in a row, with blanks around each of them. -/
inductive SpellsTokens : List Token → List Char → Prop
  | nil : SpellsTokens [] []
  | blank {c : Char} {tokens : List Token} {cs : List Char} : c ∈ [' ', '\n', '\t', '\r'] →
      SpellsTokens tokens cs → SpellsTokens tokens (c :: cs)
  | token {token : Token} {tokens : List Token} {spelling cs : List Char} :
      SpellsToken token spelling → SpellsTokens tokens cs →
      SpellsTokens (token :: tokens) (spelling ++ cs)

/-- A document that spells a value, blanks around it included. -/
def Spells (value : Datum) (document : String) : Prop :=
  SpellsTokens value.tokens document.toList

end Wayfinding.Json
