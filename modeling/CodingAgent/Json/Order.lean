import CodingAgent.Json.Equal
import CodingAgent.Json.Shape

/-!
# Ordering values

`Value.less` is the strict order the program sorts values by:

* numbers of every kind (booleans, integers, doubles) by their exact values, so that an
  integer is compared with a double without rounding either; a NaN is not less than anything
  and nothing is less than it;
* texts by their code points;
* lists by their first items that are not equal (by `Value.equal`), or, when one list is a
  prefix of the other, by length;
* any other pair cannot be ordered, and the error names the two kinds in the order asked.
-/

namespace CodingAgent.Json

open CodingAgent.Decimal

/-- The exact value of a finite double as `(num, k)`, standing for `num / 2^k`. -/
def exactRatio (b : Binary) : Int × Nat :=
  let s : Int := if b.neg then -(b.m : Int) else b.m
  if 0 ≤ b.q then (s * (Nat.pow 2 b.q.toNat : Int), 0) else (s, (-b.q).toNat)

/-- Whether the integer `n` is less than the double `x`, exactly. -/
def intLessFloat (n : Int) (x : Float) : Bool :=
  match Kind.ofFloat x with
  | .finite b => let (num, k) := exactRatio b; n * (Nat.pow 2 k : Int) < num
  | .infinite neg => !neg
  | .nan => false

/-- Whether the double `x` is less than the integer `n`, exactly. -/
def floatLessInt (x : Float) (n : Int) : Bool :=
  match Kind.ofFloat x with
  | .finite b => let (num, k) := exactRatio b; num < n * (Nat.pow 2 k : Int)
  | .infinite neg => neg
  | .nan => false

/-- Whether one number is less than another, when both are numbers. -/
def numberLess? (a b : Value) : Option Bool :=
  match a, b with
  | .num x, .num y => some (x < y)
  | .num x, w => w.integerValue?.map (floatLessInt x)
  | v, .num y => v.integerValue?.map (fun n => intLessFloat n y)
  | v, w => match v.integerValue?, w.integerValue? with
    | some n, some m => some (decide (n < m))
    | _, _ => none

mutual
/-- Whether `a` is less than `b`, or why the two cannot be ordered. -/
def Value.less : Value → Value → Except ShapeError Bool
  | .str s, .str t => .ok (CodingAgent.Text.codeLess s t)
  | .arr xs, .arr ys => itemsLess xs ys
  | a, b => match numberLess? a b with
    | some r => .ok r
    | none => .error (.orderless a.kindName b.kindName)

/-- Whether one list is less than another: at the first place where the items differ, or
by length when there is none. -/
def itemsLess : List Value → List Value → Except ShapeError Bool
  | x :: xs, y :: ys => if Value.equal x y then itemsLess xs ys else Value.less x y
  | [], _ :: _ => .ok true
  | _, [] => .ok false
end

end CodingAgent.Json
