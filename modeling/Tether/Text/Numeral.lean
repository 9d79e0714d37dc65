/-!
Unsigned numerals with a limit. A numeral is an optional plus sign and at least one digit; any
number of leading zeros is allowed. Reading goes from the left and stops at the first character
at fault, so a wrong character is reported when the value before it still fits, and an overflow
when the value stops fitting first.
-/

namespace Tether.Text

/-- Why a text is no numeral. -/
inductive NumeralFault
  | empty
  | wrongDigit
  | tooLarge
  deriving DecidableEq, Repr

/-- The wording of a numeral fault. -/
def NumeralFault.message : NumeralFault → String
  | .empty => "cannot parse integer from empty string"
  | .wrongDigit => "invalid digit found in string"
  | .tooLarge => "number too large to fit in target type"

/-- The value of an ASCII digit or letter as a digit of the base, if it is one. -/
def digitValue? (base : Nat) (c : Char) : Option Nat :=
  let v :=
    if c.isDigit then some (c.toNat - '0'.toNat)
    else if 'a' ≤ c ∧ c ≤ 'z' then some (c.toNat - 'a'.toNat + 10)
    else if 'A' ≤ c ∧ c ≤ 'Z' then some (c.toNat - 'A'.toNat + 10)
    else none
  v.filter (· < base)

/-- Reads digits from the left on top of the value read so far. -/
def readDigits (base limit : Nat) (value : Nat) : List Char → Except NumeralFault Nat
  | [] => .ok value
  | c :: rest =>
    match digitValue? base c with
    | none => .error .wrongDigit
    | some d =>
      if base * value + d ≤ limit then readDigits base limit (base * value + d) rest
      else .error .tooLarge

/-- Reads a whole text as a numeral of the base that is at most the limit. -/
def readNumeral (base limit : Nat) : List Char → Except NumeralFault Nat
  | [] => .error .empty
  | ['+'] => .error .wrongDigit
  | '+' :: rest => readDigits base limit 0 rest
  | cs => readDigits base limit 0 cs

/-- The largest port number. -/
def maxPort : Nat := 65535

/-- The largest number of 64 bits. -/
def maxWord : Nat := 18446744073709551615

/-- Reads a decimal port number. -/
def readPort (s : String) : Except NumeralFault Nat := readNumeral 10 maxPort s.toList

/-- Reads a decimal number of 64 bits. -/
def readWord (s : String) : Except NumeralFault Nat := readNumeral 10 maxWord s.toList

/-- The lower-case hexadecimal digits of a number. -/
def hexText (n : Nat) : String := String.ofList (Nat.toDigits 16 n)

end Tether.Text
