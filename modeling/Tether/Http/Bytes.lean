/-!
Classes of bytes in messages of HTTP, and texts as bytes.
-/

namespace Tether.Http

/-- The bytes of a text. -/
def bytesOf (s : String) : List UInt8 := s.toUTF8.toList

/-- The byte of an ASCII character. -/
def byte (c : Char) : UInt8 := c.toNat.toUInt8

/-- A byte among the characters of a text. -/
def isOneOf (s : String) (b : UInt8) : Bool := s.toList.any fun c => byte c == b

/-- An ASCII digit. -/
def isDigit (b : UInt8) : Bool := byte '0' ≤ b && b ≤ byte '9'

/-- An ASCII letter. -/
def isLetter (b : UInt8) : Bool :=
  (byte 'a' ≤ b && b ≤ byte 'z') || (byte 'A' ≤ b && b ≤ byte 'Z')

/-- A byte of a method or of the name of a header. -/
def isToken (b : UInt8) : Bool := isDigit b || isLetter b || isOneOf "!#$%&'*+-.^_|~\x60" b

/-- A byte of the value of a header. -/
def isValue (b : UInt8) : Bool := b == 9 || (32 ≤ b && b ≠ 127)

/-- A blank inside a line. -/
def isSpace (b : UInt8) : Bool := b == 32 || b == 9

/-- The byte with a capital letter made small. -/
def lower (b : UInt8) : UInt8 := if byte 'A' ≤ b && b ≤ byte 'Z' then b + 32 else b

/-- The bytes without the blanks that end them. -/
def dropLastSpaces (bs : List UInt8) : List UInt8 := (bs.reverse.dropWhile isSpace).reverse

/-- The value of a hexadecimal digit. -/
def hexValue? (b : UInt8) : Option Nat :=
  if isDigit b then some (b.toNat - (byte '0').toNat)
  else if byte 'a' ≤ b && b ≤ byte 'f' then some (b.toNat - (byte 'a').toNat + 10)
  else if byte 'A' ≤ b && b ≤ byte 'F' then some (b.toNat - (byte 'A').toNat + 10)
  else none

/-- The pieces between the occurrences of a byte. -/
def splitAt (sep : UInt8) : List UInt8 → List (List UInt8)
  | [] => [[]]
  | b :: rest =>
    if b == sep then [] :: splitAt sep rest
    else
      match splitAt sep rest with
      | [] => [[b]]
      | piece :: pieces => (b :: piece) :: pieces

end Tether.Http
