import Tether.Text.Numeral
import Tether.Text.Record

/-!
Addresses of the Internet Protocol, versions 4 and 6: the types, their one canonical text, and the
reader. The reader is strict for version 4 (four decimal numbers, no leading zeros) and takes for
version 6 any number of leading zeros up to four digits, one `::`, and a version 4 address in
place of the last two groups. The writer shortens the first longest run of at least two zero groups.
-/

namespace Tether.Net

open Tether.Text

/-- An address of version 4, by its octets. -/
structure Ipv4 where
  a : UInt8
  b : UInt8
  c : UInt8
  d : UInt8
  deriving DecidableEq, Repr

/-- An address of version 6, by its eight groups of 16 bits. -/
structure Ipv6 where
  groups : Vector UInt16 8
  deriving DecidableEq, Repr

/-- An address of either version. -/
inductive Ip
  | v4 (addr : Ipv4)
  | v6 (addr : Ipv6)
  deriving DecidableEq, Repr

/-- The address of this host seen from itself. -/
def Ipv4.loopback : Ipv4 := ⟨127, 0, 0, 1⟩

/-! ## Writing -/

/-- The four numbers between points. -/
def Ipv4.text (x : Ipv4) : String :=
  joinWith "." [toString x.a.toNat, toString x.b.toNat, toString x.c.toNat, toString x.d.toNat]

/-- The number of zeros a list of groups begins with. -/
def leadingZeros (gs : List UInt16) : Nat := (gs.takeWhile (· == 0)).length

/-- Start and length of the first longest run of zero groups, from a position on. -/
def longestZeroRun (gs : List UInt16) (position : Nat) : Nat × Nat :=
  match gs with
  | [] => (position, 0)
  | g :: rest =>
    let here := leadingZeros (g :: rest)
    let later := longestZeroRun rest (position + 1)
    if later.2 ≤ here then (position, here) else later

/-- The groups in hexadecimal between colons. -/
def groupsText (gs : List UInt16) : String := joinWith ":" (gs.map fun g => hexText g.toNat)

/-- The canonical text of an address of version 6. -/
def Ipv6.text (x : Ipv6) : String :=
  match x.groups.toList with
  | [0, 0, 0, 0, 0, 0xFFFF, h, l] =>
    "::ffff:" ++ Ipv4.text ⟨(h >>> 8).toUInt8, h.toUInt8, (l >>> 8).toUInt8, l.toUInt8⟩
  | gs =>
    let run := longestZeroRun gs 0
    if run.2 < 2 then groupsText gs
    else groupsText (gs.take run.1) ++ "::" ++ groupsText (gs.drop (run.1 + run.2))

/-- The canonical text of an address. -/
def Ip.text : Ip → String
  | .v4 x => x.text
  | .v6 x => x.text

/-! ## Reading -/

/-- Reads a number of at most `width` digits and at most `limit`, with the rest of the text. -/
def readShort (base limit width : Nat) (padded : Bool) (cs : List Char) :
    Option (Nat × List Char) :=
  let ds := cs.takeWhile fun c => (digitValue? base c).isSome
  if ds.isEmpty || width < ds.length then none
  else if !padded && ds.head? == some '0' && 1 < ds.length then none
  else
    match readDigits base limit 0 ds with
    | .ok n => some (n, cs.drop ds.length)
    | .error _ => none

/-- Reads one given character. -/
def readChar (c : Char) : List Char → Option (List Char)
  | [] => none
  | x :: rest => if x = c then some rest else none

/-- Reads an address of version 4 at the front of a text. -/
def readIpv4 (cs : List Char) : Option (Ipv4 × List Char) := do
  let (a, cs) ← readShort 10 255 3 false cs
  let cs ← readChar '.' cs
  let (b, cs) ← readShort 10 255 3 false cs
  let cs ← readChar '.' cs
  let (c, cs) ← readShort 10 255 3 false cs
  let cs ← readChar '.' cs
  let (d, cs) ← readShort 10 255 3 false cs
  return (⟨a.toUInt8, b.toUInt8, c.toUInt8, d.toUInt8⟩, cs)

/-- The two groups that an address of version 4 fills. -/
def Ipv4.asGroups (x : Ipv4) : List UInt16 :=
  [x.a.toUInt16 * 256 + x.b.toUInt16, x.c.toUInt16 * 256 + x.d.toUInt16]

/-- Reads up to `room` groups between colons, the last two perhaps as an address of version 4;
tells whether they were. -/
def readGroups (room : Nat) (first : Bool) (cs : List Char) :
    List UInt16 × Bool × List Char :=
  match room with
  | 0 => ([], false, cs)
  | room + 1 =>
    match if first then some cs else readChar ':' cs with
    | none => ([], false, cs)
    | some after =>
      match if room = 0 then none else readIpv4 after with
      | some (x, rest) => (x.asGroups, true, rest)
      | none =>
        match readShort 16 0xFFFF 4 true after with
        | none => ([], false, cs)
        | some (g, rest) =>
          let (gs, quad, rest) := readGroups room false rest
          (g.toUInt16 :: gs, quad, rest)

/-- The address of version 6 with these groups, if there are eight. -/
def Ipv6.ofGroups? (gs : List UInt16) : Option Ipv6 :=
  if h : gs.toArray.size = 8 then some ⟨⟨gs.toArray, h⟩⟩ else none

/-- Reads an address of version 6 at the front of a text. -/
def readIpv6 (cs : List Char) : Option (Ipv6 × List Char) := do
  let (front, quad, rest) := readGroups 8 true cs
  if front.length = 8 then
    return (← Ipv6.ofGroups? front, rest)
  if quad then none
  let rest ← readChar ':' rest
  let rest ← readChar ':' rest
  let (back, _, rest) := readGroups (7 - front.length) true rest
  let gap := List.replicate (8 - front.length - back.length) 0
  return (← Ipv6.ofGroups? (front ++ gap ++ back), rest)

/-- Reads a whole text as an address. -/
def Ip.parse? (s : String) : Option Ip :=
  match readIpv4 s.toList with
  | some (x, []) => some (.v4 x)
  | _ =>
    match readIpv6 s.toList with
    | some (x, []) => some (.v6 x)
    | _ => none

/-- The wording of a text that is no address. -/
def Ip.fault : String := "invalid IP address syntax"

/-- The address that stands for every address of this host. -/
def Ip.isUnspecified : Ip → Bool
  | .v4 x => x == ⟨0, 0, 0, 0⟩
  | .v6 x => x.groups.toList.all (· == 0)

end Tether.Net
