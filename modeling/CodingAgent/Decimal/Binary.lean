/-!
# Doubles as exact numbers

A finite binary64 value is `±m * 2^q`. This module reads the bits into that form and
rounds an exact positive fraction to the nearest double, ties to the even significand,
which is how a decimal text becomes a double. Everything is done in `Nat` and `Int`
arithmetic, so no step depends on the host's floating-point unit.
-/

namespace CodingAgent.Decimal

/-- A finite double `±m * 2^q`. -/
structure Binary where
  neg : Bool
  m : Nat
  q : Int
  /-- The gap to the double below is half the gap to the double above: `m` is the least
  normal significand and the value is not the least normal number. -/
  narrowBelow : Bool

/-- What the 64 bits of a double stand for. -/
inductive Kind where
  | finite (b : Binary)
  | infinite (neg : Bool)
  | nan

/-- Decode the bits of a double. -/
def Kind.ofBits (bits : UInt64) : Kind :=
  let neg := bits >>> 63 == 1
  let e := ((bits >>> 52) &&& 0x7FF).toNat
  let f := (bits &&& 0xFFFFFFFFFFFFF).toNat
  if e == 0x7FF then (if f == 0 then .infinite neg else .nan)
  else if e == 0 then .finite ⟨neg, f, -1074, false⟩
  else .finite ⟨neg, Nat.pow 2 52 + f, (e : Int) - 1075, f == 0 && e > 1⟩

/-- Decode a double. -/
def Kind.ofFloat (x : Float) : Kind :=
  Kind.ofBits x.toBits

/-- `a * 2^e` rounded down, for any sign of `e`. -/
def shiftFloor (a : Nat) (e : Int) : Nat :=
  if 0 ≤ e then a * Nat.pow 2 e.toNat else a / Nat.pow 2 (-e).toNat

/-- The significand of `num / den` on the grid `2^e`, rounded to nearest with ties to even. -/
def roundedOnGrid (num den : Nat) (e : Int) : Nat :=
  let n := if 0 ≤ e then num else num * Nat.pow 2 (-e).toNat
  let d := if 0 ≤ e then den * Nat.pow 2 e.toNat else den
  let q := n / d
  let r := n % d
  if 2 * r > d then q + 1
  else if 2 * r < d then q
  else if q % 2 == 1 then q + 1 else q

/-- The grid exponent of the double nearest to `num / den`: the binary exponent that gives a
53-bit significand, or the subnormal exponent `-1074` when the value is smaller. -/
def gridExponent (num den : Nat) : Int :=
  let guess : Int := ((Nat.log2 num : Int) - (Nat.log2 den : Int)) - 52
  let e := max guess (-1074)
  let q := if 0 ≤ e then num / (den * Nat.pow 2 e.toNat) else (num * Nat.pow 2 (-e).toNat) / den
  if q < Nat.pow 2 52 && e > -1074 then e - 1 else e

/-- The bits of the double nearest to `num / den` (positive sign), ties to even; values
past the largest double give infinity. -/
def nearestBits (num den : Nat) : UInt64 :=
  if num == 0 || den == 0 then 0
  else
    let e := gridExponent num den
    let q := roundedOnGrid num den e
    -- rounding up may carry into the next binade
    let (q, e) := if q == Nat.pow 2 53 then (Nat.pow 2 52, e + 1) else (q, e)
    if e > 971 then 0x7FF0000000000000
    else if q ≥ Nat.pow 2 52 then
      UInt64.ofNat ((((e + 1075).toNat) <<< 52) ||| (q - Nat.pow 2 52))
    else UInt64.ofNat q

/-- The double nearest to `±digits * 10^exp`, ties to even. Exponents far outside the range
of doubles give infinity or zero without building their powers. -/
def nearest (neg : Bool) (digits : Nat) (exp : Int) : Float :=
  let magnitude : UInt64 :=
    if digits == 0 then 0
    else
      let len : Int := (Nat.toDigits 10 digits).length
      if len + exp > 310 then 0x7FF0000000000000
      else if len + exp < -330 then 0
      else if 0 ≤ exp then nearestBits (digits * Nat.pow 10 exp.toNat) 1
      else nearestBits digits (Nat.pow 10 (-exp).toNat)
  Float.ofBits (if neg then magnitude ||| 0x8000000000000000 else magnitude)

/-- The double nearest to an integer, ties to even; `none` when it is past the largest double. -/
def ofInt? (n : Int) : Option Float :=
  let bits := nearestBits n.natAbs 1
  if bits == 0x7FF0000000000000 then none
  else some (Float.ofBits (if n < 0 then bits ||| 0x8000000000000000 else bits))

/-- The integer part of a finite double, rounded toward zero. -/
def Binary.truncate (b : Binary) : Int :=
  let mag := shiftFloor b.m b.q
  if b.neg then -(mag : Int) else mag

end CodingAgent.Decimal
