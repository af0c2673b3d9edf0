import CodingAgent.Decimal.Binary

/-!
# Shortest decimals

The reals that round to a finite double `m * 2^q` form an interval: from halfway to the
double below to halfway to the double above, both ends included exactly when `m` is even.
`Binary.shortest` returns the decimal with the fewest significant digits inside that
interval; of two such decimals it takes the nearer, and of two equally near the one whose
last digit is even.

The search walks decimal grids `10^g` from coarse to fine. On each grid only the two grid
points around the value can lie in the interval (the interval is convex and holds the value),
so testing those two is enough, and the first grid with a hit gives the fewest digits.
-/

namespace CodingAgent.Decimal

/-- A decimal `digits * 10^exp`. -/
structure Dec where
  digits : Nat
  exp : Int
deriving DecidableEq

/-- Compare `a * 10^i` with `n * 2^j`, exactly. -/
def cmpScaled (a : Nat) (i : Int) (n : Nat) (j : Int) : Ordering :=
  compare (a * Nat.pow 10 i.toNat * Nat.pow 2 (-j).toNat) (n * Nat.pow 2 j.toNat * Nat.pow 10 (-i).toNat)

/-- Whether `d` lies among the reals that round to the magnitude of `b`. -/
def Binary.admits (b : Binary) (d : Dec) : Bool :=
  let lo := if b.narrowBelow then 4 * b.m - 1 else 4 * b.m - 2
  let hi := 4 * b.m + 2
  let incl := b.m % 2 == 0
  let cl := cmpScaled d.digits d.exp lo (b.q - 2)
  let ch := cmpScaled d.digits d.exp hi (b.q - 2)
  (cl == .gt || (incl && cl == .eq)) && (ch == .lt || (incl && ch == .eq))

/-- The grid points `⌊v / 10^g⌋` below the magnitude `v` of `b`. -/
def Binary.floorOnGrid (b : Binary) (g : Int) : Nat :=
  (b.m * Nat.pow 2 b.q.toNat * Nat.pow 10 (-g).toNat) / (Nat.pow 2 (-b.q).toNat * Nat.pow 10 g.toNat)

/-- Of the two grid points `c * 10^g` and `(c + 1) * 10^g` around `b`, whether the lower is
nearer; an exact tie goes to the even one. -/
def Binary.lowerIsNearer (b : Binary) (c : Nat) (g : Int) : Bool :=
  -- compare 2 * v with (2c + 1) * 10^g
  match cmpScaled (2 * c + 1) g (2 * b.m) b.q with
  | .gt => true
  | .lt => false
  | .eq => c % 2 == 0

/-- The hit on grid `10^g`, if either grid point around `b` is admitted. -/
def Binary.hitOnGrid (b : Binary) (g : Int) : Option Dec :=
  let c := b.floorOnGrid g
  let low : Dec := ⟨c, g⟩
  let high : Dec := ⟨c + 1, g⟩
  match b.admits low && c != 0, b.admits high with
  | true, true => some (if b.lowerIsNearer c g then low else high)
  | true, false => some low
  | false, true => some high
  | false, false => none

/-- Search the grids `10^g`, `10^(g-1)`, … for at most `fuel` steps. -/
def Binary.searchFrom (b : Binary) : Nat → Int → Option Dec
  | 0, _ => none
  | fuel + 1, g =>
    match b.hitOnGrid g with
    | some d => some d
    | none => b.searchFrom fuel (g - 1)

/-- A grid exponent so coarse that the double is below its first point. -/
def Binary.coarseGrid (b : Binary) : Int :=
  -- m * 2^q < 2^(log2 m + 1 + q), and log10 2 < 0.30103
  (((Nat.log2 b.m : Int) + 1 + b.q) * 30103) / 100000 + 2

/-- Move trailing zeros of the digits into the exponent. -/
def Dec.normalize (d : Dec) : Dec :=
  go (Nat.toDigits 10 d.digits).length d
where
  go : Nat → Dec → Dec
    | 0, d => d
    | fuel + 1, d =>
      if d.digits != 0 && d.digits % 10 == 0 then go fuel ⟨d.digits / 10, d.exp + 1⟩ else d

/-- The shortest decimal that reads back as the magnitude of `b` (for `m > 0`). The fallback,
never reached for a double, is the exact value. -/
def Binary.shortest (b : Binary) : Dec :=
  match b.searchFrom 40 b.coarseGrid with
  | some d => d.normalize
  | none =>
    if 0 ≤ b.q then ⟨b.m * Nat.pow 2 b.q.toNat, 0⟩
    else ⟨b.m * Nat.pow 5 (-b.q).toNat, b.q⟩

end CodingAgent.Decimal
