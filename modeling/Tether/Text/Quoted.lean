import Tether.Text.Unseen
import Tether.Text.Numeral

/-!
Texts in double quotes. The quote and the backslash are written behind a backslash, the line
ends, the tab and the null character by their letters, and every other character that shows
nothing of its own by its number in braces.
-/

namespace Tether.Text

/-- One character as it stands between double quotes. -/
def quotedChar (c : Char) : String :=
  match c with
  | '\x00' => "\\0"
  | '\t' => "\\t"
  | '\r' => "\\r"
  | '\n' => "\\n"
  | '"' => "\\\""
  | '\\' => "\\\\"
  | c =>
    if 0x20 ≤ c.toNat ∧ c.toNat < 0x7F then String.singleton c
    else if isUnseen c then "\\u\x7b" ++ hexText c.toNat ++ "\x7d"
    else String.singleton c

/-- The text in double quotes. -/
def quoted (s : String) : String := "\"" ++ String.join (s.toList.map quotedChar) ++ "\""

/-- The path in double quotes: here the single quote stands behind a backslash too. -/
def quotedPath (s : String) : String :=
  "\"" ++ String.join (s.toList.map fun c => if c = '\x27' then "\\'" else quotedChar c) ++ "\""

end Tether.Text
