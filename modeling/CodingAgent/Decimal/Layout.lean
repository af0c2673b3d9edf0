import CodingAgent.Decimal.Shortest

/-!
# Writing doubles as text

`Layout` holds the decisions of a number format: which decimal exponents are written
positionally, how the exponent is marked, and the spellings of NaN and the infinities.
`Layout.render` writes the shortest decimal of a double under such a record.

`fixed` writes a double with a fixed number of places, rounding its exact binary value to
the nearest, ties to even.
-/

namespace CodingAgent.Decimal

/-- The decisions of a number format for doubles. -/
structure Layout where
  /-- Least exponent of the leading digit written positionally. -/
  minPositional : Int
  /-- Exponents of the leading digit from this one on use scientific notation. -/
  maxPositional : Int
  /-- Least number of digits of an exponent. -/
  expDigits : Nat
  nanText : String
  infText : String

/-- `n` copies of `0`. -/
def zeros (n : Nat) : String :=
  String.ofList (List.replicate n '0')

/-- The decimal digits of `n`. -/
def digitText (n : Nat) : String :=
  String.ofList (Nat.toDigits 10 n)

/-- Positional text of `0.d₁d₂…dₙ * 10^point`, with `.0` on integral values. -/
def positional (ds : String) (point : Int) : String :=
  let n : Int := ds.length
  if point ≤ 0 then "0." ++ zeros (-point).toNat ++ ds
  else if point < n then
    String.ofList (ds.toList.take point.toNat) ++ "." ++ String.ofList (ds.toList.drop point.toNat)
  else ds ++ zeros (point - n).toNat ++ ".0"

/-- Scientific text of `d₁.d₂…dₙ * 10^e`, the exponent signed and padded. -/
def Layout.scientific (l : Layout) (ds : String) (e : Int) : String :=
  let lead := String.ofList (ds.toList.take 1)
  let rest := String.ofList (ds.toList.drop 1)
  let mantissa := if rest.isEmpty then lead else lead ++ "." ++ rest
  let expText := digitText e.natAbs
  let padded := zeros (l.expDigits - expText.length) ++ expText
  mantissa ++ "e" ++ (if e < 0 then "-" else "+") ++ padded

/-- The text of a double under the layout. -/
def Layout.render (l : Layout) (x : Float) : String :=
  match Kind.ofFloat x with
  | .nan => l.nanText
  | .infinite neg => (if neg then "-" else "") ++ l.infText
  | .finite b =>
    let sign := if b.neg then "-" else ""
    if b.m == 0 then sign ++ "0.0"
    else
      let d := b.shortest
      let ds := digitText d.digits
      -- the value is 0.ds * 10^point, and its leading digit has exponent point - 1
      let point := d.exp + ds.length
      let lead := point - 1
      if l.minPositional ≤ lead && lead < l.maxPositional then sign ++ positional ds point
      else sign ++ l.scientific ds lead

/-- The text of a double with `places` digits after the point, its exact value rounded to
the nearest, ties to even; NaN and the infinities as `nan` and `inf`. -/
def fixed (places : Nat) (x : Float) : String :=
  match Kind.ofFloat x with
  | .nan => "nan"
  | .infinite neg => (if neg then "-" else "") ++ "inf"
  | .finite b =>
    let sign := if b.neg then "-" else ""
    -- units of 10^-places: m * 2^q * 10^places, rounded
    let num := b.m * Nat.pow 2 b.q.toNat * Nat.pow 10 places
    let den := Nat.pow 2 (-b.q).toNat
    let q := num / den
    let r := num % den
    let units := if 2 * r > den then q + 1 else if 2 * r < den then q
      else if q % 2 == 1 then q + 1 else q
    let ds := digitText units
    let ds := zeros (places + 1 - ds.length) ++ ds
    let cut := ds.length - places
    let whole := String.ofList (ds.toList.take cut)
    let frac := String.ofList (ds.toList.drop cut)
    sign ++ (if places == 0 then whole else whole ++ "." ++ frac)

end CodingAgent.Decimal
