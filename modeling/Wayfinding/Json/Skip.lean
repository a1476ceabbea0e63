import Wayfinding.Json.Token

/-!
Passing over a JSON value of any depth without reading it. Only the form of the value
matters: numbers may be too large, and literals may hold lone surrogates.
-/

namespace Wayfinding.Json

inductive Bracket where
  | list
  | object
  deriving DecidableEq, Repr

/-- What may come next in the innermost open bracket. -/
inductive Due where
  | value
  | firstItem
  | firstKey
  | key
  | colon
  | separator
  deriving DecidableEq, Repr

/-- A value being passed over, with its open brackets from the inside out. -/
structure Skipping where
  due : Due
  brackets : List Bracket

namespace Skipping

def start : Skipping := ⟨.value, []⟩

/-- After a value there is a separator, unless the value is the one to pass over. -/
def afterValue (brackets : List Bracket) : Option Skipping :=
  if brackets.isEmpty then none else some ⟨.separator, brackets⟩

/-- A token where a value is due. -/
def value (brackets : List Bracket) : Token → Except Fault (Option Skipping)
  | .openBracket => .ok (some ⟨.firstItem, .list :: brackets⟩)
  | .openBrace => .ok (some ⟨.firstKey, .object :: brackets⟩)
  | .word (.error fault) => .error fault
  | .numeral (.error _) => .error .invalidNumber
  | .literal (.error fault) _ => .error fault
  | .word (.ok _) | .numeral (.ok _) | .literal (.ok ()) _ => .ok (afterValue brackets)
  | .closeBrace | .closeBracket | .colon | .comma | .stray => .error .expectedValue

def key (brackets : List Bracket) : Token → Except Fault (Option Skipping)
  | .literal (.error fault) _ => .error fault
  | .literal (.ok ()) _ => .ok (some ⟨.colon, brackets⟩)
  | _ => .error .keyNotString

/-- One token more: what is due next, or nothing if the value ends here. -/
def step (skipping : Skipping) (token : Token) : Except Fault (Option Skipping) :=
  match skipping.due, skipping.brackets, token with
  | .value, brackets, token => value brackets token
  | .firstItem, _ :: brackets, .closeBracket => .ok (afterValue brackets)
  | .firstItem, brackets, token => value brackets token
  | .firstKey, _ :: brackets, .closeBrace => .ok (afterValue brackets)
  | .firstKey, brackets, token | .key, brackets, token => key brackets token
  | .colon, brackets, .colon => .ok (some ⟨.value, brackets⟩)
  | .colon, _, _ => .error .expectedColon
  | .separator, .list :: brackets, .comma => .ok (some ⟨.value, .list :: brackets⟩)
  | .separator, .list :: brackets, .closeBracket => .ok (afterValue brackets)
  | .separator, .list :: _, _ => .error .expectedItem
  | .separator, .object :: brackets, .comma => .ok (some ⟨.key, .object :: brackets⟩)
  | .separator, .object :: brackets, .closeBrace => .ok (afterValue brackets)
  | .separator, .object :: _, _ => .error .expectedMember
  | .separator, [], _ => .error .expectedValue

/-- The fault of a document that ends here. -/
def atEnd (skipping : Skipping) : Fault :=
  match skipping.due, skipping.brackets with
  | .value, _ => .endOfValue
  | .firstItem, _ | .separator, .list :: _ => .endOfList
  | .firstKey, _ | .key, _ | .colon, _ | .separator, _ => .endOfObject

/-- Passes over the rest of a value and returns the tokens after it. -/
def run (skipping : Skipping) : List Token → Except Fault (List Token)
  | [] => .error skipping.atEnd
  | token :: rest =>
    match skipping.step token with
    | .error fault => .error fault
    | .ok none => .ok rest
    | .ok (some next) => next.run rest

theorem length_lt_of_run {skipping : Skipping} {tokens rest : List Token}
    (h : skipping.run tokens = .ok rest) : rest.length < tokens.length := by
  induction tokens generalizing skipping with
  | nil => simp [run] at h
  | cons token tokens ih =>
    simp only [run] at h
    split at h
    · simp at h
    · cases h; simp
    · exact Nat.lt_succ_of_lt (ih h)

end Skipping

/-- Passes over a value. -/
def skipValue (tokens : List Token) : Except Fault (List Token) :=
  Skipping.start.run tokens

end Wayfinding.Json
