import Tether.Yaml.Fault

/-!
Characters with their places. Indentation decides the structure of a text, so every character
carries its line and column. The ends of lines are brought to one form first: a carriage return, a
line feed, the two together and U+0085 count as one line feed; the separators U+2028 and U+2029
end a line too but stay what they are.
-/

namespace Tether.Yaml

/-- A character at its place. -/
structure Spot where
  char : Char
  line : Nat
  column : Nat
  /-- The number of characters before it. -/
  index : Nat
  deriving DecidableEq, Repr

/-- A character may stand in a text. -/
def isTextChar (c : Char) : Bool :=
  let n := c.toNat
  n == 0x09 || n == 0x0A || n == 0x0D || (0x20 ≤ n && n ≤ 0x7E) || n == 0x85 ||
    (0xA0 ≤ n && n ≤ 0xFFFD && n ≠ 0xFEFF) || 0x10000 ≤ n

/-- The character ends a line and counts as a line feed. -/
def isLineFeed (c : Char) : Bool := c = '\n' || c = '\r' || c.toNat == 0x85

/-- The character ends a line and stays what it is. -/
def isSeparator (c : Char) : Bool := c.toNat == 0x2028 || c.toNat == 0x2029

/-- The characters from a place on, ends of lines in their one form. -/
def placed (line column index : Nat) : List Char → List Spot
  | [] => []
  | '\r' :: '\n' :: rest => ⟨'\n', line, column, index⟩ :: placed (line + 1) 0 (index + 2) rest
  | c :: rest =>
    if isLineFeed c then ⟨'\n', line, column, index⟩ :: placed (line + 1) 0 (index + 1) rest
    else if isSeparator c then ⟨c, line, column, index⟩ :: placed (line + 1) 0 (index + 1) rest
    else ⟨c, line, column, index⟩ :: placed line (column + 1) (index + 1) rest

/-- The characters of a text at their places, a byte order mark in front left out. -/
def spots (s : String) : Except Fault (List Spot) :=
  let cs := if s.toList.head? = some '\ufeff' then s.toList.drop 1 else s.toList
  if cs.all isTextChar then .ok (placed 0 0 0 cs) else .error .controlChar

namespace Spot

/-- The character ends its line. -/
def isBreak (s : Spot) : Bool := s.char = '\n' || isSeparator s.char

/-- A space or a tab. -/
def isBlank (s : Spot) : Bool := s.char = ' ' || s.char = '\t'

/-- A letter, digit, hyphen or underscore. -/
def isWord (s : Spot) : Bool := s.char.isAlphanum || s.char = '-' || s.char = '_'

end Spot

/-- The text of some characters. -/
def textOf (ss : List Spot) : String := String.ofList (ss.map Spot.char)

/-- Nothing, a blank or the end of the line comes next. -/
def atGap : List Spot → Bool
  | [] => true
  | s :: _ => s.isBlank || s.isBreak

/-- The end of the line or of the text comes next. -/
def atLineEnd : List Spot → Bool
  | [] => true
  | s :: _ => s.isBreak

/-- The next character is this one. -/
def startsWith (c : Char) : List Spot → Bool
  | [] => false
  | s :: _ => s.char = c

/-- The next character is one of these. -/
def startsWithOneOf (cs : String) : List Spot → Bool
  | [] => false
  | s :: _ => cs.toList.contains s.char

/-- A line begins with these three characters and a gap. -/
def atMark (mark : String) (ss : List Spot) : Bool :=
  (ss.head?.any fun s => s.column = 0) && textOf (ss.take 3) = mark && atGap (ss.drop 3)

/-- A line begins that starts or ends a document. -/
def atDocumentMark (ss : List Spot) : Bool := atMark "---" ss || atMark "..." ss

/-- The rest without the blanks in front. -/
def skipBlanks (ss : List Spot) : List Spot := ss.dropWhile Spot.isBlank

end Tether.Yaml
