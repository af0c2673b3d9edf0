/-!
# JSON values

`Value` is a JSON tree as a reader of JSON text sees it. Integers stay apart from
floating numbers (`1` and `1.0` are different values), integers have no bound, and the
members of an object keep the order in which their keys first appeared.

Objects never hold a key twice: `Members.set` replaces the value of a key already present
and keeps its place, which is how a later member overrides an earlier one.
-/

namespace CodingAgent.Json

/-- The most digits an integer may be written with: converting an integer to text and back
refuses one with more. -/
def digitLimit : Nat := 4300

/-- A JSON value with integers and floating numbers kept apart. -/
inductive Value where
  | null
  | bool (b : Bool)
  | int (n : Int)
  | num (x : Float)
  | str (s : String)
  | arr (items : List Value)
  | obj (members : List (String × Value))
deriving Inhabited

/-- The members of an object, in order. -/
abbrev Members := List (String × Value)

namespace Members

/-- The value stored under `key`. -/
def get? (ms : Members) (key : String) : Option Value :=
  (ms.find? (fun kv => kv.1 == key)).map Prod.snd

/-- Whether `key` has a member. -/
def contains (ms : Members) (key : String) : Bool :=
  ms.any (fun kv => kv.1 == key)

/-- Store `v` under `key`: a present key keeps its place, a new key goes last. -/
def set (ms : Members) (key : String) (v : Value) : Members :=
  if ms.contains key then ms.map (fun kv => if kv.1 == key then (key, v) else kv)
  else ms ++ [(key, v)]

/-- Drop the member stored under `key`. -/
def erase (ms : Members) (key : String) : Members :=
  ms.filter (fun kv => kv.1 != key)

/-- The keys, in order. -/
def keys (ms : Members) : List String :=
  ms.map Prod.fst

/-- Build members from pairs in order; a repeated key keeps its first place and its last value. -/
def ofPairs (kvs : List (String × Value)) : Members :=
  kvs.foldl (fun acc kv => acc.set kv.1 kv.2) []

end Members

namespace Value

/-- The value stored under `key` when this is an object. -/
def get? : Value → String → Option Value
  | .obj ms, key => Members.get? ms key
  | _, _ => none

/-- The value under `key`, with `null` for a missing key or a value that is no object. -/
def getD (v : Value) (key : String) : Value :=
  (v.get? key).getD .null

/-- Whether the value is an object that has `key`. -/
def hasKey (v : Value) (key : String) : Bool :=
  (v.get? key).isSome

/-- A value counts as false when it is null, false, zero, empty text, an empty array or an
empty object; every other value counts as true. A NaN counts as true. -/
def truthy : Value → Bool
  | .null => false
  | .bool b => b
  | .int n => n != 0
  | .num x => !(x == 0.0)
  | .str s => !s.isEmpty
  | .arr xs => !xs.isEmpty
  | .obj ms => !ms.isEmpty

/-- The value itself when it counts as true, else `fallback`. -/
def orElse (v fallback : Value) : Value :=
  if v.truthy then v else fallback

/-- The name of the value's kind, as error texts spell it. -/
def kindName : Value → String
  | .null => "NoneType"
  | .bool _ => "bool"
  | .int _ => "int"
  | .num _ => "float"
  | .str _ => "str"
  | .arr _ => "list"
  | .obj _ => "dict"

/-- The text when this is a string. -/
def asStr? : Value → Option String
  | .str s => some s
  | _ => none

/-- The items when this is an array. -/
def asArr? : Value → Option (List Value)
  | .arr xs => some xs
  | _ => none

/-- The members when this is an object. -/
def asObj? : Value → Option Members
  | .obj ms => some ms
  | _ => none

/-- Whether this is an object. -/
def isObj : Value → Bool
  | .obj _ => true
  | _ => false

/-- Whether this is null. -/
def isNull : Value → Bool
  | .null => true
  | _ => false

end Value

mutual
/-- The levels of nesting of a value: a scalar is one level, an array or an object one more
than its deepest item. -/
def Value.nesting : Value → Nat
  | .arr xs => 1 + itemsNesting xs
  | .obj ms => 1 + membersNesting ms
  | _ => 1

/-- The deepest nesting of the items of an array, `0` for none. -/
def itemsNesting : List Value → Nat
  | [] => 0
  | v :: rest => max v.nesting (itemsNesting rest)

/-- The deepest nesting of the values of an object, `0` for none. -/
def membersNesting : List (String × Value) → Nat
  | [] => 0
  | (_, v) :: rest => max v.nesting (membersNesting rest)
end

end CodingAgent.Json
