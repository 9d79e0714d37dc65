import Tether.Text.Numeral

/-!
JSON: the tree of a text, and its strict reader. An object keeps all its members in order, also
those of one name. Numbers are checked and not kept. A string whose escapes name only one half of a
character outside the first plane has no text, and it is left to the reader of the tree whether
that matters.
-/

namespace Tether.Json

open Tether.Text

/-- A JSON value. -/
inductive Value
  | null
  | bool (b : Bool)
  | number
  | string (text : Option String)
  | array (items : List Value)
  | object (members : List (Option String × Value))

/-- Why a text is no JSON. -/
inductive Fault
  /-- It ends too early. -/
  | early
  /-- A value is expected and something else stands there. -/
  | noValue
  /-- A word that is none of JSON's. -/
  | badWord
  | badNumber
  /-- A control character in a string. -/
  | controlChar
  | badEscape
  /-- A comma or the end of the list is expected. -/
  | noComma
  | noColon
  /-- A member must begin with a name. -/
  | noName
  | lastComma
  /-- Something follows the value. -/
  | trailing
  deriving DecidableEq, Repr

/-- The wording of a fault. -/
def Fault.message : Fault → String
  | .early => "EOF while parsing a value"
  | .noValue => "expected value"
  | .badWord => "expected ident"
  | .badNumber => "invalid number"
  | .controlChar => "control character (\\u0000-\\u001F) found while parsing a string"
  | .badEscape => "invalid escape"
  | .noComma => "expected `,` or `]`"
  | .noColon => "expected `:`"
  | .noName => "key must be a string"
  | .lastComma => "trailing comma"
  | .trailing => "trailing characters"

/-- A character that may stand between tokens. -/
def isSpace (c : Char) : Bool := c = ' ' || c = '\n' || c = '\t' || c = '\r'

/-- The rest without the space in front. -/
def skipSpace (cs : List Char) : List Char := cs.dropWhile isSpace

/-! ## Strings -/

/-- Reads four hexadecimal digits. -/
def readHex4 : List Char → Option (Nat × List Char)
  | a :: b :: c :: d :: rest => do
    let a ← digitValue? 16 a
    let b ← digitValue? 16 b
    let c ← digitValue? 16 c
    let d ← digitValue? 16 d
    return (a * 4096 + b * 256 + c * 16 + d, rest)
  | _ => none

/-- A unit of a string: a character, or one half of a pair that stands for one. -/
inductive Part
  | char (c : Char)
  | high (n : Nat)
  | low (n : Nat)

/-- The unit of a number that an escape gives. -/
def Part.ofNat (n : Nat) : Part :=
  if 0xD800 ≤ n ∧ n < 0xDC00 then .high (n - 0xD800)
  else if 0xDC00 ≤ n ∧ n < 0xE000 then .low (n - 0xDC00)
  else .char (Char.ofNat n)

/-- The characters that units stand for, unless a half stands alone. -/
def joinParts : List Part → Option (List Char)
  | [] => some []
  | .char c :: rest => (c :: ·) <$> joinParts rest
  | .high h :: .low l :: rest => (Char.ofNat (0x10000 + h * 0x400 + l) :: ·) <$> joinParts rest
  | _ => none

/-- The character that an escape of one letter stands for. -/
def shortEscape? : Char → Option Char
  | '"' => some '"'
  | '\\' => some '\\'
  | '/' => some '/'
  | 'b' => some '\x08'
  | 'f' => some '\x0c'
  | 'n' => some '\n'
  | 'r' => some '\r'
  | 't' => some '\t'
  | _ => none

/-- Reads the units of a string up to its closing quote. -/
def readParts (fuel : Nat) (cs : List Char) : Except Fault (List Part × List Char) :=
  match fuel, cs with
  | 0, _ | _, [] => .error .early
  | _, '"' :: rest => .ok ([], rest)
  | _, ['\\'] => .error .early
  | fuel + 1, '\\' :: 'u' :: rest =>
    match readHex4 rest with
    | none => .error .badEscape
    | some (n, rest) => do
      let (parts, rest) ← readParts fuel rest
      return (.ofNat n :: parts, rest)
  | fuel + 1, '\\' :: c :: rest =>
    match shortEscape? c with
    | none => .error .badEscape
    | some c => do
      let (parts, rest) ← readParts fuel rest
      return (.char c :: parts, rest)
  | fuel + 1, c :: rest =>
    if c.toNat < 0x20 then .error .controlChar
    else do
      let (parts, rest) ← readParts fuel rest
      return (.char c :: parts, rest)

/-- Reads a string behind its opening quote. -/
def readString (cs : List Char) : Except Fault (Option String × List Char) := do
  let (parts, rest) ← readParts cs.length cs
  return ((joinParts parts).map String.ofList, rest)

/-! ## Numbers -/

/-- Passes over at least one digit. -/
def skipDigits (cs : List Char) : Except Fault (List Char) :=
  match cs.dropWhile Char.isDigit, cs with
  | rest, c :: _ => if c.isDigit then .ok rest else .error .badNumber
  | _, [] => .error .early

/-- Passes over the whole part of a number: one zero, or digits that begin with another. -/
def skipWhole (cs : List Char) : Except Fault (List Char) :=
  match cs with
  | '0' :: rest => if rest.head?.any Char.isDigit then .error .badNumber else .ok rest
  | _ => skipDigits cs

/-- Passes over a fraction, if there is one. -/
def skipFraction (cs : List Char) : Except Fault (List Char) :=
  match cs with
  | '.' :: rest => skipDigits rest
  | _ => .ok cs

/-- Passes over an exponent, if there is one. -/
def skipExponent (cs : List Char) : Except Fault (List Char) :=
  match cs with
  | e :: rest =>
    if e = 'e' ∨ e = 'E' then
      match rest with
      | '+' :: rest => skipDigits rest
      | '-' :: rest => skipDigits rest
      | _ => skipDigits rest
    else .ok cs
  | [] => .ok cs

/-- Passes over a number. -/
def skipNumber (cs : List Char) : Except Fault (List Char) := do
  let cs := match cs with
    | '-' :: rest => rest
    | _ => cs
  skipExponent (← skipFraction (← skipWhole cs))

/-! ## Values -/

/-- Passes over the rest of a word. -/
def readWord (word : String) (value : Value) (cs : List Char) : Except Fault (Value × List Char) :=
  let letters := word.toList
  if letters.isPrefixOf cs then .ok (value, cs.drop letters.length)
  else if cs.isPrefixOf letters then .error .early
  else .error .badWord

/-- Reads a series up to the bracket that closes it, behind the opening bracket (`first`) or behind
one of the series; `one` reads the next of them and all after it. -/
def readSeries {α : Type} (closer : Char) (one : List Char → Except Fault (List α × List Char))
    (first : Bool) (cs : List Char) : Except Fault (List α × List Char) :=
  match skipSpace cs with
  | [] => .error .early
  | c :: rest =>
    if c = closer then .ok ([], rest)
    else if first then one (c :: rest)
    else if c = ',' then
      if (skipSpace rest).head? = some closer then .error .lastComma else one (skipSpace rest)
    else .error .noComma

mutual

/-- Reads a value. -/
def readValue : Nat → List Char → Except Fault (Value × List Char)
  | 0, _ => .error .early
  | fuel + 1, cs =>
    match skipSpace cs with
    | [] => .error .early
    | '"' :: rest => do
      let (text, rest) ← readString rest
      return (.string text, rest)
    | '[' :: rest => do
      let (items, rest) ← readItems fuel true rest
      return (.array items, rest)
    | '\x7b' :: rest => do
      let (members, rest) ← readMembers fuel true rest
      return (.object members, rest)
    | 'n' :: rest => readWord "ull" .null rest
    | 't' :: rest => readWord "rue" (.bool true) rest
    | 'f' :: rest => readWord "alse" (.bool false) rest
    | c :: rest =>
      if c = '-' ∨ c.isDigit then do
        return (.number, ← skipNumber (c :: rest))
      else .error .noValue

/-- Reads the items of an array up to its end. -/
def readItems : Nat → (first : Bool) → List Char → Except Fault (List Value × List Char)
  | 0, _, _ => .error .early
  | fuel + 1, first, cs => readSeries ']' (readItem fuel) first cs

/-- Reads one item of an array and those after it. -/
def readItem : Nat → List Char → Except Fault (List Value × List Char)
  | 0, _ => .error .early
  | fuel + 1, cs => do
    let (item, rest) ← readValue fuel cs
    let (items, rest) ← readItems fuel false rest
    return (item :: items, rest)

/-- Reads the members of an object up to its end. -/
def readMembers : Nat → (first : Bool) → List Char →
    Except Fault (List (Option String × Value) × List Char)
  | 0, _, _ => .error .early
  | fuel + 1, first, cs => readSeries '\x7d' (readMember fuel) first cs

/-- Reads one member of an object and those after it. -/
def readMember : Nat → List Char → Except Fault (List (Option String × Value) × List Char)
  | 0, _ => .error .early
  | fuel + 1, cs =>
    match cs with
    | '"' :: rest => do
      let (name, rest) ← readString rest
      match skipSpace rest with
      | ':' :: rest => do
        let (value, rest) ← readValue fuel rest
        let (members, rest) ← readMembers fuel false rest
        return ((name, value) :: members, rest)
      | [] => throw .early
      | _ => throw .noColon
    | [] => .error .early
    | _ => .error .noName

end

/-- Reads a whole text. At most three readers call each other before a character is passed over, so
three steps for each character are enough. -/
def parse (s : String) : Except Fault Value := do
  let (value, rest) ← readValue (3 * s.length + 3) s.toList
  if (skipSpace rest).isEmpty then return value
  throw .trailing

end Tether.Json
