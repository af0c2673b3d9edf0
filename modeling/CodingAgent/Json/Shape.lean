import CodingAgent.Json.Coerce
import CodingAgent.Json.Reader

/-!
# Data of the wrong shape

Decoders that walk a value expecting objects and lists meet other kinds of values. Most such
places fall back to a default; where none is given, the walk stops with a `ShapeError` that
says what it met. `Value.field?` and `Value.firstItem?` are the two accesses such decoders use:
a key looked up in an object, and the first item of a non-empty sequence.
-/

namespace CodingAgent.Json

/-- What a decoder met where it expected another kind of value. -/
inductive ShapeError where
  /-- A key was looked up on a value that is no object. -/
  | noAttribute (kind : String) (member : String)
  /-- An item was taken from a value that has no items. -/
  | notSubscriptable (kind : String)
  /-- An item was taken by position from an object that has no such key. -/
  | missingKey (key : String)
  /-- Text was extended by a value that is no text. -/
  | notText (kind : String)
  /-- A value stood where an integer was expected. -/
  | notInteger (e : IntError)
  /-- A value of a kind that has no hash stood where a set member was expected. -/
  | unhashable (kind : String)
  /-- Two values that cannot be ordered against each other were sorted. -/
  | orderless (left right : String)
  /-- A sequence was indexed by a value that is no position. -/
  | badIndex (container : String) (kind : String)
  /-- A position past the end of a list. -/
  | indexRange
  /-- A position too large for a machine word. -/
  | indexSize
  /-- JSON text held an integer too long or nesting too deep to be read. -/
  | beyondLimits (e : ReadError)
  /-- Pieces joined into text held a value that is no text, at position `index`. -/
  | joinItem (index : Nat) (kind : String)
  /-- An item that should be a key and a value has no items, at position `index`. -/
  | pairNotSequence (index : Nat)
  /-- An item that should be a key and a value has `length` items, at position `index`. -/
  | pairLength (index length : Nat)
  /-- Items were taken from a value that has none. -/
  | notIterable (kind : String)
  /-- Membership was asked of a value that has no members. -/
  | noMembers (kind : String)
  /-- An item was stored into a value that holds none. -/
  | noItemStore (kind : String)
  /-- A value stood where a single character was expected. -/
  | notCharacter (kind : String)
  /-- An integer of more than `digitLimit` digits was converted to text. -/
  | longInteger

/-- The class name of the error, as errors are reported. -/
def ShapeError.className : ShapeError → String
  | .noAttribute _ _ => "AttributeError"
  | .notSubscriptable _ => "TypeError"
  | .missingKey _ => "KeyError"
  | .notText _ => "TypeError"
  | .notInteger e => e.className
  | .unhashable _ => "TypeError"
  | .orderless _ _ => "TypeError"
  | .badIndex _ _ => "TypeError"
  | .indexRange => "IndexError"
  | .indexSize => "IndexError"
  | .beyondLimits e => e.className
  | .joinItem _ _ => "TypeError"
  | .pairNotSequence _ => "TypeError"
  | .pairLength _ _ => "ValueError"
  | .notIterable _ => "TypeError"
  | .noMembers _ => "TypeError"
  | .noItemStore _ => "TypeError"
  | .notCharacter _ => "TypeError"
  | .longInteger => "ValueError"

/-- The message of the error. -/
def ShapeError.message : ShapeError → String
  | .noAttribute k a => "'" ++ k ++ "' object has no attribute '" ++ a ++ "'"
  | .notSubscriptable k => "'" ++ k ++ "' object is not subscriptable"
  | .missingKey key => key
  | .notText k => "can only concatenate str (not \"" ++ k ++ "\") to str"
  | .notInteger e => e.message
  | .unhashable k => "unhashable type: '" ++ k ++ "'"
  | .orderless a b => "'<' not supported between instances of '" ++ a ++ "' and '" ++ b ++ "'"
  | .badIndex "string" k => "string indices must be integers, not '" ++ k ++ "'"
  | .badIndex c k => c ++ " indices must be integers or slices, not " ++ k
  | .indexRange => "list index out of range"
  | .indexSize => "cannot fit 'int' into an index-sized integer"
  | .beyondLimits e => e.fault.text
  | .joinItem i k => "sequence item " ++ toString i ++ ": expected str instance, " ++ k ++ " found"
  | .pairNotSequence i =>
    "cannot convert dictionary update sequence element #" ++ toString i ++ " to a sequence"
  | .pairLength i n => "dictionary update sequence element #" ++ toString i ++ " has length " ++
    toString n ++ "; 2 is required"
  | .notIterable k => "'" ++ k ++ "' object is not iterable"
  | .noMembers k => "argument of type '" ++ k ++ "' is not iterable"
  | .noItemStore k => "'" ++ k ++ "' object does not support item assignment"
  | .notCharacter k => "east_asian_width() argument must be a unicode character, not " ++ k
  | .longInteger => "Exceeds the limit (4300 digits) for integer string conversion; " ++
    "use sys.set_int_max_str_digits() to increase the limit"

/-- The value under `key` of an object (null when absent); other values have no keys. -/
def Value.field? (v : Value) (key : String) : Except ShapeError Value :=
  match v with
  | .obj ms => .ok ((Members.get? ms key).getD .null)
  | _ => .error (.noAttribute v.kindName "get")

/-- The first item of a value that counts as true: the first element of an array, the first
character of text, the key `0` of an object. -/
def Value.firstItem? (v : Value) : Except ShapeError Value :=
  match v with
  | .arr (x :: _) => .ok x
  | .str s => .ok (.str (CodingAgent.Text.ofCodePoints
      ((CodingAgent.Text.codePoints s.toList).take 1)))
  -- an object's keys are text, so the position 0 is never one of them
  | .obj _ => .error (.missingKey "0")
  | _ => .error (.notSubscriptable v.kindName)

/-- The text a key is written with in a JSON object: text as itself, numbers as JSON writes
them, `true`, `false` and `null` as words. Lists and objects cannot be keys. -/
def Value.keyText? : Value → Except ShapeError String
  | .str s => .ok s
  | .int n => .ok (toString n)
  | .num x => .ok (jsonNumbers.render x)
  | .bool b => .ok (if b then "true" else "false")
  | .null => .ok "null"
  | v => .error (.unhashable v.kindName)

/-- The items of an item that should be a key and a value: the elements of a list, the
characters of text, the keys of an object. -/
def pairItems (index : Nat) : Value → Except ShapeError (List Value)
  | .arr xs => .ok xs
  | .str s => .ok ((CodingAgent.Text.characters s).map .str)
  | .obj ms => .ok (ms.map (fun kv => .str kv.1))
  | _ => .error (.pairNotSequence index)

/-- Members built from items that are each a key and a value, a later key replacing the
value of an equal earlier one. -/
def membersOfPairs : List (Value × Nat) → Members → Except ShapeError Members
  | [], acc => .ok acc
  | (item, i) :: rest, acc => do
    match ← pairItems i item with
    | [k, v] => membersOfPairs rest (Members.set acc (← k.keyText?) v)
    | xs => throw (.pairLength i xs.length)

/-- A value turned into an object: an object as it is, and a sequence whose items are each a
key and a value. Text is a sequence of one-character items, and other values have no items. -/
def Value.toMembers : Value → Except ShapeError Members
  | .obj ms => .ok ms
  | .arr xs => membersOfPairs xs.zipIdx []
  | .str s => membersOfPairs ((CodingAgent.Text.characters s).map Value.str).zipIdx []
  | v => .error (.notIterable v.kindName)

/-- The value itself when it counts as true, else an empty object. -/
def Value.orEmpty (v : Value) : Value :=
  v.orElse (.obj [])

end CodingAgent.Json
