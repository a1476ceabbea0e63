import Wayfinding.Text.Hex

/-!
JSON values to be written, on one line or with every member on a line of its own. Members
stand in the order given.
-/

namespace Wayfinding.Json

inductive Value where
  | null
  | boolean (b : Bool)
  | integer (n : Int)
  | text (s : String)
  | list (items : List Value)
  | object (members : List (String × Value))

def escapeChar (c : Char) : List Char :=
  match c with
  | '"' => ['\\', '"']
  | '\\' => ['\\', '\\']
  | '\x08' => ['\\', 'b']
  | '\x0c' => ['\\', 'f']
  | '\n' => ['\\', 'n']
  | '\r' => ['\\', 'r']
  | '\t' => ['\\', 't']
  | c =>
    if c.toNat < 0x10 then ['\\', 'u', '0', '0', '0'] ++ Text.lowerHex c.toNat
    else if c.toNat < 0x20 then ['\\', 'u', '0', '0'] ++ Text.lowerHex c.toNat
    else [c]

def writeText (s : String) : String :=
  String.ofList ('"' :: s.toList.flatMap escapeChar ++ ['"'])

namespace Value

def ofOption : Option Value → Value
  | some value => value
  | none => null

mutual

/-- The value on one line without blanks. -/
def compact : Value → String
  | null => "null"
  | boolean b => if b then "true" else "false"
  | integer n => toString n
  | text s => writeText s
  | list items => "[" ++ String.intercalate "," (compactItems items) ++ "]"
  | object members => "\x7b" ++ String.intercalate "," (compactMembers members) ++ "\x7d"

def compactItems : List Value → List String
  | [] => []
  | item :: rest => item.compact :: compactItems rest

def compactMembers : List (String × Value) → List String
  | [] => []
  | (name, value) :: rest => (writeText name ++ ":" ++ value.compact) :: compactMembers rest

end

/-- Lines between brackets, indented by two more columns than the brackets. -/
def block (opening closing indent : String) (lines : List String) : String :=
  if lines.isEmpty then opening ++ closing
  else
    opening ++ "\n" ++ String.intercalate ",\n" (lines.map ((indent ++ "  ") ++ ·)) ++ "\n" ++
      indent ++ closing

mutual

/-- The value over several lines, starting in a line indented by `indent`. -/
def pretty (indent : String) : Value → String
  | list items => block "[" "]" indent (prettyItems (indent ++ "  ") items)
  | object members => block "\x7b" "\x7d" indent (prettyMembers (indent ++ "  ") members)
  | null => compact null
  | boolean b => compact (boolean b)
  | integer n => compact (integer n)
  | text s => compact (text s)

def prettyItems (indent : String) : List Value → List String
  | [] => []
  | item :: rest => item.pretty indent :: prettyItems indent rest

def prettyMembers (indent : String) : List (String × Value) → List String
  | [] => []
  | (name, value) :: rest =>
    (writeText name ++ ": " ++ value.pretty indent) :: prettyMembers indent rest

end

end Value
end Wayfinding.Json
