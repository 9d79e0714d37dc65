import Tether.Text.Record

/-!
The shortest decimal text of a binary fraction `m * 2^e`. Every real within half a step of the
value reads back as the value; the text has the fewest digits of any decimal in that range, and of
those with that many digits the nearest one. A grid of decimals with `n` digits has a point in the
range exactly when one of the value's two neighbours on the grid lies in it, so only those two are
tried.
-/

namespace Tether.Text

/-- A binary fraction `m * 2^e`, with the range of reals that read back as it, in units of
`2^(e-2)`: `4m - below` to `4m + 2`, ends included when `m` is even. -/
structure Binary where
  mantissa : Nat
  exponent : Int
  below : Nat
  deriving DecidableEq, Repr

/-- The parts of a positive finite double, by the bits that store it. -/
def Binary.ofBits (bits : UInt64) : Binary :=
  let fraction : Nat := bits.toNat % Nat.pow 2 52
  let biased : Nat := bits.toNat / Nat.pow 2 52 % Nat.pow 2 11
  if biased = 0 then ⟨fraction, -1074, 2⟩
  else ⟨fraction + Nat.pow 2 52, (biased : Int) - 1075, if fraction = 0 ∧ 1 < biased then 1 else 2⟩

/-- A decimal `digits * 10^exponent`. -/
structure Decimal where
  digits : Nat
  exponent : Int
  deriving DecidableEq, Repr

/-- Two factors that carry the comparison of `x * 2^(e-2)` with `d * 10^k` into the natural
numbers: `x` times the first with `d` times the second. -/
def scales (e k : Int) : Nat × Nat :=
  (Nat.pow 2 (e - 2).toNat * Nat.pow 10 (-k).toNat,
    Nat.pow 2 (2 - e).toNat * Nat.pow 10 k.toNat)

/-- The decimal `d * 10^k` reads back as the value. -/
def Binary.readsBack (b : Binary) (k : Int) (d : Nat) : Bool :=
  let (s, t) := scales b.exponent k
  let low := (4 * b.mantissa - b.below) * s
  let high := (4 * b.mantissa + 2) * s
  if b.mantissa % 2 = 0 then low ≤ d * t && d * t ≤ high else low < d * t && d * t < high

/-- The nearest decimal on the grid of multiples of `10^k` that reads back; a tie goes up. -/
def Binary.onGrid (b : Binary) (k : Int) : Option Nat :=
  let (s, t) := scales b.exponent k
  let v := 4 * b.mantissa * s
  let d := v / t
  match b.readsBack k d, b.readsBack k (d + 1) with
  | true, true => some (if v - d * t < (d + 1) * t - v then d else d + 1)
  | true, false => some d
  | false, true => some (d + 1)
  | false, false => none

/-- The first grid, from `10^k` down in powers of ten, with a decimal that reads back. -/
def Binary.firstGrid (b : Binary) (k : Int) : Nat → Decimal
  | 0 => ⟨(b.onGrid k).getD 0, k⟩
  | tries + 1 =>
    match b.onGrid k with
    | some (d + 1) => ⟨d + 1, k⟩
    | _ => b.firstGrid (k - 1) tries

/-- The number of digits before the point. -/
def Binary.places (b : Binary) : Nat :=
  (Nat.toDigits 10 (b.mantissa * Nat.pow 2 b.exponent.toNat / Nat.pow 2 (-b.exponent).toNat)).length

/-- The shortest decimal that reads back as a positive value. The value lies below
`10^places`, and every double has a decimal on the grid of `10^(-342)`. -/
def Binary.shortest (b : Binary) : Decimal := b.firstGrid b.places (b.places + 342)

/-- The text of a non-negative double: at least one digit after the point, and a power of ten
behind `e` for values from `10^16` up or below `10^(-4)`. -/
def secondsText (x : Float) : String :=
  if x.toBits = 0 then "0.0"
  else
    let d := (Binary.ofBits x.toBits).shortest
    let ds := Nat.toDigits 10 d.digits
    let point : Int := ds.length + d.exponent
    if 16 < point ∨ point < -3 then
      let fraction := ds.drop 1
      String.ofList (ds.take 1) ++
        (if fraction.isEmpty then "" else "." ++ String.ofList fraction) ++
        "e" ++ toString (point - 1)
    else if point ≤ 0 then
      "0." ++ String.ofList (List.replicate (-point).toNat '0' ++ ds)
    else if ds.length ≤ point then
      String.ofList (ds ++ List.replicate (point - ds.length).toNat '0') ++ ".0"
    else
      String.ofList (ds.take point.toNat) ++ "." ++ String.ofList (ds.drop point.toNat)

end Tether.Text
