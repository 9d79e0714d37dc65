import Tether.Text.Numeral

/-!
Percent encoding. A byte is written as `%` and two upper-case hexadecimal digits when its set says
so; reading turns every `%` before two hexadecimal digits of either case back into the byte, and
leaves any other `%` alone. Bytes outside ASCII and control bytes are in every set; each part of a
URL adds the characters that would end it or be mistaken for another part.
-/

namespace Tether.Url

open Tether.Text

/-- Bytes that every part encodes: control bytes and those outside ASCII. -/
def inControlSet (b : UInt8) : Bool := b < 0x20 || 0x7E < b

/-- The byte is one of these ASCII characters. -/
def isOneOf (cs : String) (b : UInt8) : Bool := cs.toList.any fun c => c.toNat == b.toNat

/-- Bytes that a fragment encodes. -/
def inFragmentSet (b : UInt8) : Bool := inControlSet b || isOneOf " \"<>`" b

/-- Bytes that a query encodes; a query of a known scheme encodes the single quote too. -/
def inQuerySet (known : Bool) (b : UInt8) : Bool :=
  inControlSet b || isOneOf " \"#<>" b || (known && b == 0x27)

/-- Bytes that a path segment encodes. -/
def inPathSet (b : UInt8) : Bool := inControlSet b || isOneOf " \"#<>?^`\x7b\x7d" b

/-- Bytes that the user's name and password encode. -/
def inUserSet (b : UInt8) : Bool := inPathSet b || isOneOf "/:;=@[\\]|" b

/-- One upper-case hexadecimal digit. -/
def upperHexDigit (n : Nat) : Char :=
  if n < 10 then Char.ofNat (0x30 + n) else Char.ofNat (0x37 + n)

/-- The encoded form of one byte. -/
def percentByte (b : UInt8) : List Char :=
  ['%', upperHexDigit (b.toNat / 16), upperHexDigit (b.toNat % 16)]

/-- The text with every byte of the set encoded. -/
def percentEncode (set : UInt8 → Bool) (cs : List Char) : String :=
  String.ofList ((String.ofList cs).toUTF8.toList.flatMap fun b =>
    if set b then percentByte b else [Char.ofNat b.toNat])

/-- The value of a byte that is a hexadecimal digit. -/
def hexValue? (b : UInt8) : Option Nat := digitValue? 16 (Char.ofNat b.toNat)

/-- The bytes with every encoded byte read back. -/
def percentDecode : List UInt8 → List UInt8
  | 0x25 :: h :: l :: rest =>
    match hexValue? h, hexValue? l with
    | some x, some y => (16 * x + y).toUInt8 :: percentDecode rest
    | _, _ => 0x25 :: percentDecode (h :: l :: rest)
  | b :: rest => b :: percentDecode rest
  | [] => []

end Tether.Url
