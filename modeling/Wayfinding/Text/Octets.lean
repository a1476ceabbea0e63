/-!
Octets read as UTF-8 text. A maximal run of octets that begins a character but does not
finish it reads as one replacement character, and so does an octet that begins none.
-/

namespace Wayfinding.Text

/-- A character that has begun: the bits so far, how many octets follow the next one, and
the least and the greatest that the next one may be. -/
structure Begun where
  bits : Nat
  further : Nat
  least : Nat
  greatest : Nat

def replacement : Char := '\uFFFD'

/-- What an octet between characters yields, and what it begins. The bounds on a second
octet keep out overlong forms, surrogates and codes above the last character. -/
def startOctet (octet : Nat) : List Char × Option Begun :=
  if octet < 0x80 then ([Char.ofNat octet], none)
  else if octet < 0xC2 then ([replacement], none)
  else if octet < 0xE0 then ([], some ⟨octet - 0xC0, 0, 0x80, 0xBF⟩)
  else if octet = 0xE0 then ([], some ⟨0, 1, 0xA0, 0xBF⟩)
  else if octet = 0xED then ([], some ⟨0xD, 1, 0x80, 0x9F⟩)
  else if octet < 0xF0 then ([], some ⟨octet - 0xE0, 1, 0x80, 0xBF⟩)
  else if octet = 0xF0 then ([], some ⟨0, 2, 0x90, 0xBF⟩)
  else if octet < 0xF4 then ([], some ⟨octet - 0xF0, 2, 0x80, 0xBF⟩)
  else if octet = 0xF4 then ([], some ⟨4, 2, 0x80, 0x8F⟩)
  else ([replacement], none)

/-- One octet more. One that does not continue the character begun before it may still
begin another. -/
def nextOctet : Option Begun → Nat → List Char × Option Begun
  | none, octet => startOctet octet
  | some b, octet =>
    if b.least ≤ octet ∧ octet ≤ b.greatest then
      let bits := b.bits * 64 + (octet - 0x80)
      match b.further with
      | 0 => ([Char.ofNat bits], none)
      | k + 1 => ([], some ⟨bits, k, 0x80, 0xBF⟩)
    else
      let (read, begun) := startOctet octet
      (replacement :: read, begun)

def readOctetsFrom : Option Begun → List UInt8 → List Char
  | none, [] => []
  | some _, [] => [replacement]
  | begun, octet :: rest =>
    let (read, begun) := nextOctet begun octet.toNat
    read ++ readOctetsFrom begun rest

def readOctets (octets : List UInt8) : List Char :=
  readOctetsFrom none octets

end Wayfinding.Text
