import Tether.Url.Fault
import Tether.Url.Percent
import Tether.Url.Punycode

/-!
Domain names. A name is brought to one form before it is compared or asked for: characters that
do not show are dropped, wide forms become ASCII, capitals become small, and a label with letters
outside ASCII is written as `xn--` and its punycode. The characters that end a host or steer a
resolver are refused, also when they only appear after this. Empty labels and hyphens at any place
are let through. Capitals outside ASCII are known for the Latin-1, Greek and Cyrillic blocks.
-/

namespace Tether.Url

/-- Characters that do not show and are dropped. -/
def isDropped (n : Nat) : Bool :=
  n == 0xAD || n == 0x34F || n == 0x200B || n == 0x2060 || n == 0x2064 || n == 0xFEFF ||
    (0x180B ≤ n && n ≤ 0x180F) || (0xFE00 ≤ n && n ≤ 0xFE0F) || (0xE0100 ≤ n && n ≤ 0xE01EF)

/-- Characters outside ASCII that no name holds: controls, marks of direction, separators,
private and unassigned ends of planes, and the mark of an undecodable byte. -/
def isBarred (n : Nat) : Bool :=
  (0x80 ≤ n && n ≤ 0x9F) || n == 0x200E || n == 0x200F || (0x2028 ≤ n && n ≤ 0x202E) ||
    (0x2061 ≤ n && n ≤ 0x2063) || (0x2065 ≤ n && n ≤ 0x206F) || (0xE000 ≤ n && n ≤ 0xF8FF) ||
    (0xFDD0 ≤ n && n ≤ 0xFDEF) || (0xFFF9 ≤ n && n ≤ 0xFFFF) || n % 0x10000 ≥ 0xFFFE ||
    (0xE0000 ≤ n && n ≤ 0xE00FF) || 0xF0000 ≤ n

/-- The character that stands for a character in the one form of a name. -/
def foldChar (c : Char) : Char :=
  let n := c.toNat
  if c.isUpper then c.toLower
  else if n < 0x80 then c
  else if 0xFF01 ≤ n ∧ n ≤ 0xFF5E then (Char.ofNat (n - 0xFEE0)).toLower
  else if n = 0x3002 ∨ n = 0xFF61 then '.'
  else if n = 0xA0 ∨ n = 0x3000 ∨ (0x2000 ≤ n ∧ n ≤ 0x200A) ∨ n = 0x202F ∨ n = 0x205F then ' '
  else if (0xC0 ≤ n ∧ n ≤ 0xDE ∧ n ≠ 0xD7) ∨ (0x391 ≤ n ∧ n ≤ 0x3A9) ∨ (0x410 ≤ n ∧ n ≤ 0x42F) then
    Char.ofNat (n + 32)
  else if 0x400 ≤ n ∧ n ≤ 0x40F then Char.ofNat (n + 80)
  else if 0x100 ≤ n ∧ n ≤ 0x12F ∧ n % 2 = 0 then Char.ofNat (n + 1)
  else c

/-- ASCII characters that no domain name holds. -/
def isForbidden (c : Char) : Bool :=
  c.toNat ≤ 0x20 || c.toNat == 0x7F || "%#/:<>?@[\\]^|".toList.contains c

/-- The labels of a name, between the points. -/
def labels (cs : List Char) : List (List Char) :=
  cs.foldr (fun c parts => if c = '.' then [] :: parts
    else match parts with
      | [] => [[c]]
      | p :: rest => (c :: p) :: rest) [[]]

/-- A mark that combines with the letter before it. -/
def isCombining (c : Char) : Bool := 0x300 ≤ c.toNat && c.toNat ≤ 0x36F

/-- The characters may stand in a label with letters outside ASCII. -/
def isWideLabel (cs : List Char) : Bool :=
  cs.any (fun c => 0x80 ≤ c.toNat) && !(cs.head?.any isCombining) &&
    cs.all fun c => foldChar c == c && !isDropped c.toNat && !isBarred c.toNat

/-- The written form of a label. -/
def writeLabel (cs : List Char) : Except Fault (List Char) :=
  match cs with
  | 'x' :: 'n' :: '-' :: '-' :: code =>
    match Punycode.decode code with
    | some wide => if isWideLabel wide then .ok cs else .error .badDomain
    | none => .error .badDomain
  | _ =>
    if cs.all fun c => c.toNat < 0x80 then .ok cs
    else if isWideLabel cs then .ok ("xn--".toList ++ Punycode.encode cs)
    else .error .badDomain

/-- A way to bring a domain name, given by the bytes of its text, to its one form. -/
abbrev DomainReader := List UInt8 → Except Fault String

/-- The one form of a domain name. -/
def readDomain : DomainReader := fun bytes =>
  match String.fromUTF8? ⟨bytes.toArray⟩ with
  | none => .error .badDomain
  | some s =>
    let cs := (s.toList.filter fun c => !isDropped c.toNat).map foldChar
    if cs.any isForbidden then .error .badDomain
    else do
      let parts ← (labels cs).mapM writeLabel
      return String.ofList (List.intercalate ['.'] parts)

end Tether.Url
