import Wayfinding.Text.Hex
import Wayfinding.Text.Visibility

/-!
Text in double quotes for people to read. Quotes and backslashes get a backslash, the usual
control characters their letter, and whatever does not show by itself its code.
-/

namespace Wayfinding.Text

def quoteChar (c : Char) : List Char :=
  match c with
  | '\x00' => ['\\', '0']
  | '\t' => ['\\', 't']
  | '\n' => ['\\', 'n']
  | '\r' => ['\\', 'r']
  | '\\' => ['\\', '\\']
  | '"' => ['\\', '"']
  | c =>
    if isVisible c && !isExtending c then [c]
    else ['\\', 'u', '\x7b'] ++ lowerHex c.toNat ++ ['\x7d']

def quoted (s : String) : String :=
  String.ofList ('"' :: s.toList.flatMap quoteChar ++ ['"'])

/-- A list of quoted texts in brackets. -/
def quotedList (items : List String) : String :=
  "[" ++ String.intercalate ", " (items.map quoted) ++ "]"

end Wayfinding.Text
