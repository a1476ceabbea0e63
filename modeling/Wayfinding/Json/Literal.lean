import Wayfinding.Json.Fault
import Wayfinding.Text.Hex

/-!
JSON string literals, read one character at a time. A literal may be well formed and still
spell no text, namely where a surrogate escape has no partner; reading goes on to the closing
quote and keeps the first such fault.
-/

namespace Wayfinding.Json

inductive LiteralPhase where
  | plain
  | escape
  /-- After `\u`, with the characters since then, the last one first. -/
  | code (digits : List Char)

/-- A literal whose opening quote has been read. -/
structure Literal where
  phase : LiteralPhase
  /-- The text so far, its last character first. -/
  text : Except Fault (List Char)
  /-- A high surrogate that still lacks its partner. -/
  high : Option Nat

inductive LiteralStep where
  | more (literal : Literal)
  | closed (text : Except Fault (List Char))
  /-- The literal is malformed here. Whoever wants its text may have met a fault earlier. -/
  | broken (fault textFault : Fault)

namespace Literal

def start : Literal := ⟨.plain, .ok [], none⟩

def push (literal : Literal) (c : Char) : Literal :=
  { literal with phase := .plain, text := literal.text.map (c :: ·), high := none }

/-- Records a fault of the text unless there is one already. -/
def blame (literal : Literal) (fault : Fault) : Literal :=
  { literal with text := literal.text.bind fun _ => .error fault, high := none }

/-- Whatever is no second escape leaves a high surrogate without its partner. -/
def interrupt (literal : Literal) : Literal :=
  if literal.high.isSome then literal.blame .unfinishedSurrogates else literal

def fail (literal : Literal) (fault : Fault) : LiteralStep :=
  .broken fault <|
    match literal.text with
    | .error earlier => earlier
    | .ok _ => fault

def shortEscape? : Char → Option Char
  | '"' => some '"'
  | '\\' => some '\\'
  | '/' => some '/'
  | 'b' => some '\x08'
  | 'f' => some '\x0c'
  | 'n' => some '\n'
  | 'r' => some '\r'
  | 't' => some '\t'
  | _ => none

def isHigh (code : Nat) : Bool := 0xD800 ≤ code && code ≤ 0xDBFF

def isLow (code : Nat) : Bool := 0xDC00 ≤ code && code ≤ 0xDFFF

def joinSurrogates (high low : Nat) : Char :=
  Char.ofNat (0x10000 + (high - 0xD800) * 0x400 + (low - 0xDC00))

/-- Takes the code of a `\u` escape. -/
def pushCode (literal : Literal) (code : Nat) : Literal :=
  let literal := { literal with phase := .plain }
  match literal.high with
  | some high =>
    if isLow code then literal.push (joinSurrogates high code) else literal.blame .loneSurrogate
  | none =>
    if isLow code then literal.blame .loneSurrogate
    else if isHigh code then { literal with high := some code }
    else literal.push (Char.ofNat code)

/-- The number that four hexadecimal digits denote, the last one coming first. -/
def codeOf? : List Char → Option Nat
  | [d, c, b, a] => do
    let high := 16 * (← Text.hexValue? a) + (← Text.hexValue? b)
    let low := 16 * (← Text.hexValue? c) + (← Text.hexValue? d)
    pure (256 * high + low)
  | _ => none

def octetCount (chars : List Char) : Nat :=
  chars.foldl (fun n c => n + c.utf8Size) 0

def step (literal : Literal) (c : Char) : LiteralStep :=
  match literal.phase with
  | .plain =>
    if c = '"' then .closed (literal.interrupt.text.map List.reverse)
    else if c = '\\' then .more { literal with phase := .escape }
    else if c.toNat < 0x20 then literal.interrupt.fail .controlCharacter
    else .more (literal.interrupt.push c)
  | .escape =>
    if c = 'u' then .more { literal with phase := .code [] }
    else
      match shortEscape? c with
      | some x => .more (literal.interrupt.push x)
      | none => literal.interrupt.fail .invalidEscape
  | .code digits =>
    let digits := c :: digits
    -- An escape is judged once four octets are there, be they digits or not.
    if octetCount digits < 4 then .more { literal with phase := .code digits }
    else
      match codeOf? digits with
      | some code => .more (literal.pushCode code)
      | none => literal.fail .invalidEscape

/-- What a literal is found to be where the document ends inside it. -/
def atEnd (literal : Literal) : LiteralStep :=
  literal.fail .endOfString

end Literal
end Wayfinding.Json
