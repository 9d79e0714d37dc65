/-!
Blank characters and trimming. A character is blank when Unicode gives it the property
`White_Space`; blank-width characters without that property (U+200B, U+FEFF) count as ink.
`trim` removes the blanks at both ends and nothing else, and a text is blank exactly when
trimming leaves nothing of it.
-/

namespace Tether.Text

/-- The characters with the Unicode property `White_Space`. -/
def isBlankChar (c : Char) : Bool :=
  let n := c.toNat
  (0x09 ≤ n && n ≤ 0x0D) || n == 0x20 || n == 0x85 || n == 0xA0 || n == 0x1680 ||
    (0x2000 ≤ n && n ≤ 0x200A) || n == 0x2028 || n == 0x2029 || n == 0x202F || n == 0x205F ||
    n == 0x3000

/-- The characters without the blanks in front. -/
def trimFront (cs : List Char) : List Char := cs.dropWhile isBlankChar

/-- The characters without the blanks at either end. -/
def trimChars (cs : List Char) : List Char := (trimFront (trimFront cs).reverse).reverse

/-- The text without the blanks at either end. -/
def trim (s : String) : String := String.ofList (trimChars s.toList)

/-- The text holds nothing but blanks. -/
def isBlank (s : String) : Bool := s.toList.all isBlankChar

end Tether.Text
