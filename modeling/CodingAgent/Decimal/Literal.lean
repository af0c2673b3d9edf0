import CodingAgent.Decimal.Binary

/-!
# Decimal literals

`readFloat?` reads the text of a decimal number into the nearest double: an optional sign,
digits with an optional fraction (`1`, `1.`, `.5`, `1.5`), and an optional exponent `e` or
`E` with its own sign; or one of the words `inf`, `infinity` and `nan` in any letter case.
The whole text must be read; blanks are not skipped here.
-/

namespace CodingAgent.Decimal

/-- Whether a character is an ASCII digit. -/
def isAsciiDigit (c : Char) : Bool :=
  '0' ≤ c && c ≤ '9'

/-- The value of ASCII digits. -/
def asciiDigitsValue (ds : List Char) : Nat :=
  ds.foldl (fun acc d => acc * 10 + (d.toNat - '0'.toNat)) 0

/-- An optional sign at the front: whether it is minus, and the rest. -/
def takeSign : List Char → Bool × List Char
  | '-' :: rest => (true, rest)
  | '+' :: rest => (false, rest)
  | cs => (false, cs)

/-- The exponent part after the mantissa: empty, or `e`/`E`, a sign and digits. -/
def readExponent : List Char → Option Int
  | [] => some 0
  | c :: rest =>
    if c == 'e' || c == 'E' then
      let (neg, ds) := takeSign rest
      if !ds.isEmpty && ds.all isAsciiDigit then
        let n : Int := asciiDigitsValue ds
        some (if neg then -n else n)
      else none
    else none

/-- ASCII lower case of a word. -/
def asciiLower (cs : List Char) : List Char :=
  cs.map (fun c => if 'A' ≤ c && c ≤ 'Z' then Char.ofNat (c.toNat + 32) else c)

/-- The double a decimal literal stands for. -/
def readFloat? (s : String) : Option Float :=
  let (neg, rest) := takeSign s.toList
  let word := asciiLower rest
  if word == "inf".toList || word == "infinity".toList then
    some (if neg then -(1.0 / 0.0) else 1.0 / 0.0)
  else if word == "nan".toList then some (0.0 / 0.0)
  else
    let whole := rest.takeWhile isAsciiDigit
    let afterWhole := rest.dropWhile isAsciiDigit
    let (frac, afterFrac) := match afterWhole with
      | '.' :: more => (more.takeWhile isAsciiDigit, more.dropWhile isAsciiDigit)
      | more => ([], more)
    if whole.isEmpty && frac.isEmpty then none
    else match readExponent afterFrac with
      | none => none
      | some e => some (nearest neg (asciiDigitsValue (whole ++ frac)) (e - frac.length))

end CodingAgent.Decimal
