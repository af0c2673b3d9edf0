import CodingAgent.Decimal.Layout
import CodingAgent.Decimal.Binary
import CodingAgent.Json.Value

/-!
# File sizes for people

`formatSize` writes a size in bytes with the largest unit of `B`, `KB`, `MB` and `GB` that
keeps the number at least 1, dividing by 1024 per unit: the number has at most two decimals,
trailing zeros and a trailing point dropped. Sizes may be integers of any size or doubles;
an integer is divided exactly and rounded once to the nearest double, and an integer whose
quotient is past the largest double cannot be written (`quotientOverflow`).
-/

namespace CodingAgent.Tool

open CodingAgent.Decimal

/-- A size: an integer or a double. -/
inductive Size where
  | whole (n : Int)
  | real (x : Float)

/-- The size a JSON value stands for: numbers as they are and flags as 0 or 1. Any other
value cannot be compared with 1024, and the error says so. -/
def Size.ofValue : Json.Value → Except String Size
  | .int n => .ok (.whole n)
  | .num x => .ok (.real x)
  | .bool b => .ok (.whole (if b then 1 else 0))
  | v => .error ("'>=' not supported between instances of '" ++ v.kindName ++ "' and 'int'")

/-- The units, smallest first. -/
def sizeUnits : List String := ["B", "KB", "MB", "GB"]

/-- Drop trailing zeros, then a trailing point. -/
def dropTrailingZeros (s : String) : String :=
  let cs := (s.toList.reverse.dropWhile (· == '0')).dropWhile (· == '.')
  String.ofList cs.reverse

/-- The double nearest to `n / 1024` for a positive integer `n`. -/
def divideWhole (n : Nat) : Float :=
  Float.ofBits (nearestBits n 1024)

/-- The message of an integer size whose quotient by 1024 is past the largest double. -/
def quotientOverflow : String := "integer division result too large for a float"

/-- Divide by 1024 while the size is at least 1024 and a larger unit is left. -/
def scaleDown : Nat → Size → Nat → Except String (Size × Nat)
  | 0, s, i => .ok (s, i)
  | fuel + 1, .whole n, i =>
    if n ≥ 1024 then
      let q := divideWhole n.toNat
      if q.isInf then .error quotientOverflow else scaleDown fuel (.real q) (i + 1)
    else .ok (.whole n, i)
  | fuel + 1, .real x, i =>
    if x ≥ 1024.0 then scaleDown fuel (.real (x / 1024.0)) (i + 1) else .ok (.real x, i)

/-- A size in its largest fitting unit, or the message of an overflow. -/
def formatSize (s : Size) : Except String String := do
  let (s, i) ← scaleDown 3 s 0
  let text := match s with
    | .whole n => toString n
    | .real x => dropTrailingZeros (fixed 2 x)
  pure (text ++ " " ++ sizeUnits.getD i "B")

end CodingAgent.Tool
