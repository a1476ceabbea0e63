import Wayfinding.Text.Hex
import Wayfinding.Text.Octets

/-!
Paths inside addresses. Writing escapes every octet of a character that may not stand in an
address; reading turns each percent sign with two hexadecimal digits back into an octet and
leaves all else as it is, a percent sign without digits included.
-/

namespace Wayfinding.Text.Percent

/-- Whether a character is escaped: controls, everything outside ASCII, the percent sign,
the space, quotes, the backslash and angle brackets. -/
def isEscaped (c : Char) : Bool :=
  c.toNat < 0x20 || 0x7F ≤ c.toNat ||
    ['%', ' ', '"', '\'', '\\', '<', '>', '\x60'].contains c

def escapeOctet (octet : UInt8) : List Char :=
  ['%', upperHexDigit (octet.toNat / 16), upperHexDigit (octet.toNat % 16)]

def encodeChar (c : Char) : List Char :=
  if isEscaped c then (String.utf8EncodeChar c).flatMap escapeOctet else [c]

def encode (path : String) : String :=
  String.ofList (path.toList.flatMap encodeChar)

/-- The octets that a spelling stands for. -/
def octets : List Char → List UInt8
  | [] => []
  | '%' :: high :: low :: rest =>
    match hexValue? high, hexValue? low with
    | some h, some l => UInt8.ofNat (16 * h + l) :: octets rest
    | _, _ => 0x25 :: octets (high :: low :: rest)
  | c :: rest => String.utf8EncodeChar c ++ octets rest

def decode (spelling : String) : String :=
  String.ofList (readOctets (octets spelling.toList))

end Wayfinding.Text.Percent
