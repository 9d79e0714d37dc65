import Tether.Http.Bytes

/-!
The targets that a request may name: a path with or without a query, a star, an authority, or a
full URI. The reader only tells whether a target is sound.
-/

namespace Tether.Http

/-- The longest target. -/
def maxTarget : Nat := 65534

/-- A byte that may stand in a path. -/
def isPathByte (b : UInt8) : Bool :=
  b == 0x21 || (0x24 ≤ b && b ≤ 0x3B) || b == 0x3D || (0x40 ≤ b && b ≤ 0x5F) ||
    (0x61 ≤ b && b ≤ 0x7E) || b == 0x22 || 0x7F ≤ b

/-- A byte that may stand in a query. -/
def isQueryByte (b : UInt8) : Bool :=
  b == 0x21 || (0x24 ≤ b && b ≤ 0x3B) || b == 0x3D || 0x3F ≤ b

/-- A byte that may stand in an authority, apart from those with a meaning of their own. -/
def isAuthorityByte (b : UInt8) : Bool :=
  isDigit b || isLetter b || isOneOf "!$&'()*+,-.;=_~" b

/-- The bytes are a text in UTF-8. -/
def isText (bs : List UInt8) : Bool := (String.fromUTF8? (ByteArray.mk bs.toArray)).isSome

/-- A path, perhaps with a query and a fragment. -/
def isPathAndQuery (bs : List UInt8) : Bool :=
  let path := bs.takeWhile fun b => b ≠ byte '?' && b ≠ byte '#'
  let query := ((bs.drop path.length).drop 1).takeWhile (· ≠ byte '#')
  let asked := (bs.drop path.length).head? == some (byte '?')
  path.all isPathByte && (!asked || query.all isQueryByte) && isText bs

/-- What was seen of an authority so far. -/
structure AuthorityScan where
  colons : Nat := 0
  bracketOpen : Bool := false
  bracketClosed : Bool := false
  percent : Bool := false
  endsWithAt : Bool := false

/-- The state after one more byte of an authority, unless the byte may not stand there. -/
def AuthorityScan.step (s : AuthorityScan) (b : UInt8) : Option AuthorityScan :=
  let s' := { s with endsWithAt := false }
  if b == byte ':' then if 8 ≤ s.colons then none else some { s' with colons := s.colons + 1 }
  else if b == byte '[' then
    if s.percent || s.bracketOpen then none else some { s' with bracketOpen := true }
  else if b == byte ']' then
    if !s.bracketOpen || s.bracketClosed then none
    else some { s' with bracketClosed := true, colons := 0, percent := false }
  else if b == byte '@' then some { s' with endsWithAt := true, colons := 0, percent := false }
  else if b == byte '%' then some { s' with percent := true }
  else if isAuthorityByte b then some s'
  else none

/-- The bytes before the first slash, question mark or hash, if they make an authority. -/
def readAuthority (bs : List UInt8) : Option (List UInt8 × List UInt8) := do
  let front := bs.takeWhile fun b => !isOneOf "/?#" b
  let s ← front.foldlM AuthorityScan.step {}
  if s.bracketOpen != s.bracketClosed || 1 < s.colons || s.endsWithAt || s.percent then none
  return (front, bs.drop front.length)

/-- A byte of a scheme. -/
def isSchemeByte (b : UInt8) : Bool := isDigit b || isLetter b || isOneOf "+-." b

/-- What follows the scheme of a full URI, if the bytes begin with one; `none` within stands for a
scheme that is too long. -/
def readScheme (bs : List UInt8) : Option (Option (List UInt8)) :=
  let name := bs.takeWhile isSchemeByte
  match bs.drop name.length with
  | c :: a :: b :: rest =>
    if c == byte ':' && a == byte '/' && b == byte '/' then
      some (if 64 < name.length then none else some rest)
    else none
  | _ => none

/-- A sound target. -/
def isTarget (bs : List UInt8) : Bool :=
  match bs with
  | [] => false
  | [b] => b == byte '/' || b == byte '*' || (readAuthority [b]).any (·.2.isEmpty)
  | b :: _ =>
    if b == byte '/' then isPathAndQuery bs
    else
      match readScheme bs with
      | some none => false
      | some (some rest) =>
        (readAuthority rest).any fun r => !r.1.isEmpty && isPathAndQuery r.2
      | none => (readAuthority bs).any (·.2.isEmpty)

end Tether.Http
