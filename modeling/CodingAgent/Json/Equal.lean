import CodingAgent.Json.Value
import CodingAgent.Decimal.Binary
import CodingAgent.Text.Search

/-!
# Equality of values

Values are compared the way the program compares them at run time, which is not equality of
the trees:

* numbers are equal when their values are, whatever their kinds: `true` equals `1` and
  `1.0`, `false` equals `0` and `-0.0`; an integer equals a double only when the double is
  exactly that integer (a double near a large integer is not rounded to it);
* a NaN equals a NaN: a JSON reader gives the one NaN value for every `NaN` it reads, and a
  container compares an item with itself as equal before it compares values;
* texts, `null`, and lists item by item are compared as usual;
* objects are equal when they have the same keys with equal values, in any order.

`Value.occursIn` is membership as the program asks for it of a value: a key of an object, an
item of a list, a piece of a text. Other values cannot be asked; the error names their kind.
-/

namespace CodingAgent.Json

open CodingAgent.Decimal

/-- Whether a finite double has no fractional part. -/
def isIntegral (b : Binary) : Bool :=
  0 ≤ b.q || b.m % Nat.pow 2 (-b.q).toNat == 0

/-- The integer a double is exactly, if it is one. -/
def floatAsInt? (x : Float) : Option Int :=
  match Kind.ofFloat x with
  | .finite b => if isIntegral b then some b.truncate else none
  | _ => none

/-- Whether a double is exactly the integer `n`. -/
def intEqualsFloat (n : Int) (x : Float) : Bool :=
  floatAsInt? x == some n

/-- Whether two doubles are equal, a NaN being equal to a NaN. -/
def floatsEqual (x y : Float) : Bool :=
  x == y || (x.isNaN && y.isNaN)

/-- The value of a number as an integer, when it is a boolean or an integer. -/
def Value.integerValue? : Value → Option Int
  | .bool b => some (if b then 1 else 0)
  | .int n => some n
  | _ => none

/-- Whether two numbers or scalars are equal; containers are told apart elsewhere. -/
def scalarsEqual (a b : Value) : Bool :=
  match a, b with
  | .null, .null => true
  | .str s, .str t => s == t
  | .num x, .num y => floatsEqual x y
  | .num x, v => match v.integerValue? with
    | some n => intEqualsFloat n x
    | none => false
  | v, .num x => match v.integerValue? with
    | some n => intEqualsFloat n x
    | none => false
  | v, w => match v.integerValue?, w.integerValue? with
    | some n, some m => n == m
    | _, _ => false

mutual
/-- Whether two values are equal as the program compares them. -/
def Value.equal : Value → Value → Bool
  | .arr xs, .arr ys => itemsEqual xs ys
  | .obj ms, .obj ns => ms.length == ns.length && membersWithin ms ns
  | .arr _, _ | _, .arr _ | .obj _, _ | _, .obj _ => false
  | a, b => scalarsEqual a b

/-- Whether two lists have equal items in the same places. -/
def itemsEqual : List Value → List Value → Bool
  | [], [] => true
  | x :: xs, y :: ys => Value.equal x y && itemsEqual xs ys
  | _, _ => false

/-- Whether every member of the first list has its key in the second, with an equal value. -/
def membersWithin : List (String × Value) → List (String × Value) → Bool
  | [], _ => true
  | (k, v) :: rest, ns =>
    (match Members.get? ns k with
     | some w => Value.equal v w
     | none => false) && membersWithin rest ns
end

/-- Why membership cannot be asked. -/
inductive MembershipError where
  /-- A list or an object cannot be a key. -/
  | unhashable (kind : String)
  /-- Only a text can be a piece of a text. -/
  | notTextOperand (kind : String)
  /-- A value of this kind has no members. -/
  | notIterable (kind : String)

/-- The message of a membership error. -/
def MembershipError.message : MembershipError → String
  | .unhashable kind => "unhashable type: '" ++ kind ++ "'"
  | .notTextOperand kind => "'in <string>' requires string as left operand, not " ++ kind
  | .notIterable kind => "argument of type '" ++ kind ++ "' is not iterable"

/-- Whether `x` is a member of `container`: a key of an object (keys are texts, so nothing
else is one), an item of a list, or a piece of a text. -/
def Value.occursIn (x container : Value) : Except MembershipError Bool :=
  match container with
  | .obj ms =>
    match x with
    | .str k => .ok (Members.contains ms k)
    | .arr _ | .obj _ => .error (.unhashable x.kindName)
    | _ => .ok false
  | .arr items => .ok (items.any (Value.equal x))
  | .str s =>
    match x with
    | .str k => .ok (CodingAgent.Text.occurs k s)
    | _ => .error (.notTextOperand x.kindName)
  | v => .error (.notIterable v.kindName)

end CodingAgent.Json
