import Tether.Text.Numeral

/-!
Letters outside ASCII in the labels of a domain name. A label is written as its ASCII characters,
a hyphen, and digits of base 36 that tell, for each other character in order of value, how far it
lies from the one before. The weight of the digits adapts to the distances seen so far.
-/

namespace Tether.Url.Punycode

/-- The value of a digit: letters from 0, decimal digits from 26. -/
def digit? (c : Char) : Option Nat :=
  if 'a' ≤ c ∧ c ≤ 'z' then some (c.toNat - 'a'.toNat)
  else if 'A' ≤ c ∧ c ≤ 'Z' then some (c.toNat - 'A'.toNat)
  else if c.isDigit then some (c.toNat - '0'.toNat + 26)
  else none

/-- The character of a digit. -/
def digitChar (d : Nat) : Char :=
  if d < 26 then Char.ofNat ('a'.toNat + d) else Char.ofNat ('0'.toNat + d - 26)

/-- The value from which the digit at a place is not the last one. -/
def threshold (place bias : Nat) : Nat :=
  if place ≤ bias then 1 else if bias + 26 ≤ place then 26 else place - bias

/-- Divides by 35 until at most 455 is left, counting places. -/
def shrink (delta places : Nat) : Nat :=
  if 455 < delta then shrink (delta / 35) (places + 36)
  else places + 36 * delta / (delta + 38)
termination_by delta
decreasing_by omega

/-- The bias after a distance, among so many characters. -/
def adapt (delta count : Nat) (first : Bool) : Nat :=
  let d := if first then delta / 700 else delta / 2
  shrink (d + d / count) 0

/-! ## Reading -/

/-- Reads one distance, with the digits after it. -/
def readDelta (bias place weight value : Nat) : List Char → Option (Nat × List Char)
  | [] => none
  | c :: rest => do
    let d ← digit? c
    let value := value + d * weight
    if 0xFFFFFFFF < value then none
    else if d < threshold place bias then some (value, rest)
    else readDelta bias (place + 36) (weight * (36 - threshold place bias)) value rest

theorem readDelta_length {bias place weight value v : Nat} {cs rest : List Char}
    (h : readDelta bias place weight value cs = some (v, rest)) : rest.length < cs.length := by
  induction cs generalizing place weight value with
  | nil => simp [readDelta] at h
  | cons c tail ih =>
    simp only [readDelta, Option.bind_eq_bind, Option.bind_eq_some_iff] at h
    obtain ⟨d, _, h⟩ := h
    split at h
    · simp at h
    · split at h
      · simp only [Option.some.injEq, Prod.mk.injEq] at h
        simp [← h.2]
      · have := ih h
        simp only [List.length_cons]
        omega

/-- Puts in the remaining characters, from a value and a position on. -/
def readRest (out : List Char) (value position bias : Nat) (cs : List Char) : Option (List Char) :=
  if cs.isEmpty then some out
  else
    match h : readDelta bias 36 1 0 cs with
    | none => none
    | some (delta, rest) =>
      let total := position + delta
      let count := out.length + 1
      let next := value + total / count
      let index := total % count
      if 0x10FFFF < next ∨ (0xD800 ≤ next ∧ next ≤ 0xDFFF) then none
      else
        have : rest.length < cs.length := readDelta_length h
        readRest (out.take index ++ Char.ofNat next :: out.drop index) next (index + 1)
          (adapt delta count (position = 0)) rest
termination_by cs.length

/-- The characters before the last hyphen and those after it. -/
def splitLastHyphen (cs : List Char) : List Char × List Char :=
  let tail := (cs.reverse.takeWhile (· ≠ '-')).reverse
  (cs.take (cs.length - tail.length - 1), tail)

/-- Reads a label without its mark `xn--`. -/
def decode (cs : List Char) : Option (List Char) :=
  let (basic, tail) := splitLastHyphen cs
  readRest basic 128 0 72 tail

/-! ## Writing -/

/-- The digits of one distance, from a place on. The number of digits is bounded by that of the
binary digits of the distance. -/
def writeDelta (bias : Nat) : Nat → Nat → Nat → List Char
  | 0, _, _ => []
  | fuel + 1, place, q =>
    let t := threshold place bias
    if q < t then [digitChar q]
    else
      digitChar (t + (q - t) % (36 - t)) ::
        writeDelta bias fuel (place + 36) ((q - t) / (36 - t))

/-- Where the writer stands between two characters. -/
structure Progress where
  out : List Char
  delta : Nat
  bias : Nat
  written : Nat

/-- Goes once through the label for the character of one value: every smaller one counts towards
the distance, every equal one is written. -/
def Progress.pass (basic : Nat) (value : Nat) (p : Progress) : List Char → Progress
  | [] => { p with delta := p.delta + 1 }
  | c :: rest =>
    if c.toNat < value then pass basic value { p with delta := p.delta + 1 } rest
    else if c.toNat = value then
      pass basic value
        { out := p.out ++ writeDelta p.bias (p.delta.log2 + 2) 36 p.delta
          delta := 0
          bias := adapt p.delta (p.written + 1) (p.written = basic)
          written := p.written + 1 } rest
    else pass basic value p rest

/-- Writes a label without its mark `xn--`. -/
def encode (cs : List Char) : List Char :=
  let basic := cs.filter fun c => c.toNat < 128
  let others := ((cs.filter fun c => 128 ≤ c.toNat).map Char.toNat).eraseDups.mergeSort
  let start : Progress :=
    ⟨if basic.isEmpty then [] else basic ++ ['-'], 0, 72, basic.length⟩
  let step := fun (state : Progress × Nat) value =>
    let p := state.1
    let p := { p with delta := p.delta + (value - state.2) * (p.written + 1) }
    (p.pass basic.length value cs, value + 1)
  (others.foldl step (start, 128)).1.out

end Tether.Url.Punycode
