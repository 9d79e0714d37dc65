import Tether.Text.Numeral
import Tether.Yaml.Spot

/-!
Tokens: the marks that give a text its structure, and the readers of those that carry a name or a
number (anchors, tags, directives).
-/

namespace Tether.Yaml

open Tether.Text

/-- How a scalar is written. -/
inductive Style
  | plain
  | quoted
  | literal
  | folded
  deriving DecidableEq, Repr

/-- A token. -/
inductive Token
  | version (major minor : Nat)
  | handle (name stem : String)
  | documentStart
  | documentEnd
  | blockSequence
  | blockMapping
  | blockEnd
  | openSequence
  | closeSequence
  | openMapping
  | closeMapping
  | blockEntry
  | flowEntry
  | key
  | value
  | alias (name : String)
  | anchor (name : String)
  | tag (handle suffix : String)
  | scalar (style : Style) (text : String)
  deriving DecidableEq, Repr

/-- The characters up to the first that fails the test, and those from it on. -/
def span (p : Spot → Bool) (ss : List Spot) : List Spot × List Spot :=
  (ss.takeWhile p, ss.dropWhile p)

/-! ## Anchors -/

/-- Reads the name behind `&` or `*`. -/
def readName (ss : List Spot) : Except Fault (String × List Spot) :=
  let (name, rest) := span Spot.isWord ss
  if name.isEmpty ∨ !(atGap rest || startsWithOneOf "?:,]\x7d%@`" rest) then .error .badAnchor
  else .ok (textOf name, rest)

/-! ## Tags -/

/-- A character that a tag may hold; `wide` when it stands between angle brackets. -/
def isTagChar (wide : Bool) (s : Spot) : Bool :=
  s.isWord || ";/?:@&=+$.%!~*'()".toList.contains s.char || (wide && ",[]".toList.contains s.char)

/-- The bytes of a tag's characters, escapes read back. -/
def tagBytes : List Char → Option (List UInt8)
  | '%' :: h :: l :: rest => do
    let x ← digitValue? 16 h
    let y ← digitValue? 16 l
    return (16 * x + y).toUInt8 :: (← tagBytes rest)
  | '%' :: _ => none
  | c :: rest => return c.toNat.toUInt8 :: (← tagBytes rest)
  | [] => some []

/-- The text of a tag's characters. -/
def tagText (ss : List Spot) : Except Fault String :=
  match (tagBytes (ss.map Spot.char)).bind fun bs => String.fromUTF8? ⟨bs.toArray⟩ with
  | some text => .ok text
  | none => .error .badTag

/-- Reads a handle: a mark `!`, perhaps a word, perhaps another mark. -/
def readHandle (ss : List Spot) : String × List Spot :=
  let (word, rest) := span Spot.isWord (ss.drop 1)
  if startsWith '!' rest then ("!" ++ textOf word ++ "!", rest.drop 1)
  else ("!" ++ textOf word, rest)

/-- Reads a tag from its mark `!` on. -/
def readTag (bracketed : Bool) (ss : List Spot) : Except Fault (Token × List Spot) := do
  let (token, rest) ←
    if startsWith '<' (ss.drop 1) then do
      let (uri, rest) := span (isTagChar true) (ss.drop 2)
      if uri.isEmpty ∨ !startsWith '>' rest then throw .badTag
      pure (Token.tag "" (← tagText uri), rest.drop 1)
    else do
      let (handle, rest) := readHandle ss
      let (tail, after) := span (isTagChar false) rest
      if handle ≠ "!" ∧ handle.endsWith "!" then
        if tail.isEmpty then throw .badTag
        pure (Token.tag handle (← tagText tail), after)
      else
        let suffix := String.ofList (handle.toList.drop 1) ++ (← tagText tail)
        pure (if suffix = "" then Token.tag "" "!" else Token.tag "!" suffix, after)
  if atGap rest || (bracketed && startsWith ',' rest) then return (token, rest)
  throw .badTag

/-! ## Directives -/

/-- Reads a number of at most nine digits. -/
def readVersionPart (ss : List Spot) : Except Fault (Nat × List Spot) :=
  let (digits, rest) := span (fun s => s.char.isDigit) ss
  if digits.isEmpty ∨ 9 < digits.length then .error .badDirective
  else .ok (digits.foldl (fun n s => 10 * n + (s.char.toNat - '0'.toNat)) 0, rest)

/-- Reads a directive behind its mark `%`. -/
def readDirective (ss : List Spot) : Except Fault (Token × List Spot) := do
  let (name, rest) := span Spot.isWord ss
  if !atGap rest then throw .badDirective
  let rest := skipBlanks rest
  let (token, rest) ← match textOf name with
    | "YAML" => do
      let (major, rest) ← readVersionPart rest
      if !startsWith '.' rest then throw .badDirective
      let (minor, rest) ← readVersionPart (rest.drop 1)
      pure (Token.version major minor, rest)
    | "TAG" => do
      if !startsWith '!' rest then throw .badDirective
      let (handle, rest) := readHandle rest
      if handle ≠ "!" ∧ !handle.endsWith "!" then throw .badDirective
      if atLineEnd rest ∨ !atGap rest then throw .badDirective
      let (uri, rest) := span (isTagChar true) (skipBlanks rest)
      if uri.isEmpty ∨ !atGap rest then throw .badDirective
      pure (Token.handle handle (← tagText uri), rest)
    | _ => throw .badDirective
  let rest := skipBlanks rest
  let rest := if startsWith '#' rest then rest.dropWhile (!·.isBreak) else rest
  if atLineEnd rest then return (token, rest.drop 1)
  throw .badDirective

end Tether.Yaml
