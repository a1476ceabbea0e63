import Wayfinding.Json.Literal
import Wayfinding.Json.Numeral

/-!
The tokens of a JSON document. Whether a malformed token is a fault, and which one, depends
on what is wanted where it stands, so the token itself carries what is wrong with it. It is
the last token then: nobody reads past it.
-/

namespace Wayfinding.Json

inductive Word where
  | null
  | true
  | false
  deriving DecidableEq, Repr

inductive Token where
  | openBrace
  | closeBrace
  | openBracket
  | closeBracket
  | colon
  | comma
  | word (word : Except Fault Word)
  /-- The characters of a complete numeral, or what is wrong with it. -/
  | numeral (numeral : Except Fault (List Char))
  /-- Whether the literal is well formed, and the text that it spells. -/
  | literal (wellFormed : Except Fault Unit) (text : Except Fault (List Char))
  /-- A character that starts no token. -/
  | stray

/-- What the scanner is in the middle of. -/
inductive Scanning where
  | between
  | word (word : Word) (next : Char) (due : List Char)
  /-- The characters of the numeral so far come last one first. -/
  | numeral (phase : NumeralPhase) (chars : List Char)
  | literal (literal : Literal)
  | stopped

structure Scanner where
  /-- The tokens found, the last one first. -/
  found : List Token
  state : Scanning

namespace Scanner

def start : Scanner := ⟨[], .between⟩

def emit (found : List Token) (token : Token) : Scanner := ⟨token :: found, .between⟩

def stop (found : List Token) (token : Token) : Scanner := ⟨token :: found, .stopped⟩

def isBlank (c : Char) : Bool :=
  c == ' ' || c == '\n' || c == '\t' || c == '\r'

/-- A character between tokens. -/
def begin (found : List Token) (c : Char) : Scanner :=
  if isBlank c then ⟨found, .between⟩
  else
    match c with
    | '\x7b' => emit found .openBrace
    | '\x7d' => emit found .closeBrace
    | '[' => emit found .openBracket
    | ']' => emit found .closeBracket
    | ':' => emit found .colon
    | ',' => emit found .comma
    | '"' => ⟨found, .literal .start⟩
    | 'n' => ⟨found, .word .null 'u' ['l', 'l']⟩
    | 't' => ⟨found, .word .true 'r' ['u', 'e']⟩
    | 'f' => ⟨found, .word .false 'a' ['l', 's', 'e']⟩
    | c =>
      match NumeralPhase.start? c with
      | some phase => ⟨found, .numeral phase [c]⟩
      | none => stop found .stray

def step (scanner : Scanner) (c : Char) : Scanner :=
  let found := scanner.found
  match scanner.state with
  | .stopped => scanner
  | .between => begin found c
  | .word word next due =>
    if c = next then
      match due with
      | [] => emit found (.word (.ok word))
      | next :: due => ⟨found, .word word next due⟩
    else stop found (.word (.error .expectedWord))
  | .numeral phase chars =>
    match phase.next? c with
    | some phase => ⟨found, .numeral phase (c :: chars)⟩
    | none =>
      if phase.mayEndBefore c then begin (.numeral (.ok chars.reverse) :: found) c
      else stop found (.numeral (.error .invalidNumber))
  | .literal literal =>
    match literal.step c with
    | .more literal => ⟨found, .literal literal⟩
    | .closed text => emit found (.literal (.ok ()) text)
    | .broken fault textFault => stop found (.literal (.error fault) (.error textFault))

/-- The token that the end of the document cuts off, if any. -/
def finish (scanner : Scanner) : List Token :=
  let found := scanner.found
  match scanner.state with
  | .stopped | .between => found
  | .word _ _ _ => .word (.error .endOfValue) :: found
  | .numeral phase chars =>
    if phase.isComplete then .numeral (.ok chars.reverse) :: found
    else .numeral (.error .endOfValue) :: found
  | .literal literal =>
    match literal.atEnd with
    | .broken fault textFault => .literal (.error fault) (.error textFault) :: found
    | .more _ | .closed _ => found

end Scanner

/-- The tokens of a document, up to the first malformed one. -/
def Token.scan (document : List Char) : List Token :=
  (document.foldl Scanner.step .start).finish.reverse

end Wayfinding.Json
