import CodingAgent.Json.Value
import CodingAgent.Decimal.Layout
import CodingAgent.Text.CodePoints

/-!
# Writing JSON text

`Style` holds the choices of a JSON writer: the separators between items and between a
key and its value, whether text outside printable ASCII is escaped, and whether object
members are written in key order. `Value.write` writes a value under a style.

Numbers: integers in full; doubles by their shortest decimal, positional for leading-digit
exponents from -4 to 15, else `1e+16` style; NaN and the infinities as `NaN`, `Infinity`.

Converting an integer to text refuses one of more than `digitLimit` digits, so a writer that
meets one fails: `Value.intsFit` says a value holds none.
-/

namespace CodingAgent.Json

open CodingAgent.Decimal

/-- The choices of a JSON writer. -/
structure Style where
  itemSep : String := ", "
  keySep : String := ": "
  /-- Escape every character outside printable ASCII. -/
  asciiOnly : Bool := false
  /-- Write object members in key order. -/
  sortKeys : Bool := false

/-- The number layout of JSON text. -/
def jsonNumbers : Layout :=
  { minPositional := -4, maxPositional := 16, expDigits := 2, nanText := "NaN", infText := "Infinity" }

/-- Four lower-case hex digits of a code unit. -/
def hex4 (n : Nat) : String :=
  let ds := Nat.toDigits 16 n
  String.ofList (List.replicate (4 - ds.length) '0' ++ ds)

/-- `\u` escapes of a code point; code points past the basic plane become a surrogate
pair, and a lone surrogate is its own escape. -/
def unicodeEscape (n : Nat) : String :=
  if n < 0x10000 then "\\u" ++ hex4 n
  else
    let v := n - 0x10000
    "\\u" ++ hex4 (0xD800 + v / 0x400) ++ "\\u" ++ hex4 (0xDC00 + v % 0x400)

/-- The escaped form of one code point inside a JSON string. -/
def escapeCode (asciiOnly : Bool) (n : Nat) : String :=
  match n with
  | 0x22 => "\\\""
  | 0x5C => "\\\\"
  | 0x0A => "\\n"
  | 0x0D => "\\r"
  | 0x09 => "\\t"
  | 0x08 => "\\b"
  | 0x0C => "\\f"
  | n =>
    if n < 0x20 then unicodeEscape n
    else if asciiOnly && n > 0x7E then unicodeEscape n
    else String.ofList (CodingAgent.Text.codeChars n)

/-- A JSON string literal for `s`. -/
def quote (asciiOnly : Bool) (s : String) : String :=
  "\"" ++ String.join ((CodingAgent.Text.codePoints s.toList).map (escapeCode asciiOnly)) ++ "\""

/-- Members in key order. -/
def sortMembers (ms : List (String × Value)) : List (String × Value) :=
  ms.mergeSort (fun a b => CodingAgent.Text.codeLe a.1 b.1)

mutual
/-- The same value with the members of every object in key order. -/
def Value.sortedDeep : Value → Value
  | .arr xs => .arr (sortedItems xs)
  | .obj ms => .obj (sortMembers (sortedMembers ms))
  | v => v

/-- Items with their objects sorted. -/
def sortedItems : List Value → List Value
  | [] => []
  | x :: rest => x.sortedDeep :: sortedItems rest

/-- Members with their objects sorted. -/
def sortedMembers : List (String × Value) → List (String × Value)
  | [] => []
  | (k, v) :: rest => (k, v.sortedDeep) :: sortedMembers rest
end

mutual
/-- The text of a value under the separators and escaping of a style, members in their order. -/
def Value.render (st : Style) : Value → String
  | .null => "null"
  | .bool true => "true"
  | .bool false => "false"
  | .int n => toString n
  | .num x => jsonNumbers.render x
  | .str s => quote st.asciiOnly s
  | .arr xs => "[" ++ renderItems st xs ++ "]"
  | .obj ms => "\x7b" ++ renderMembers st ms ++ "\x7d"

/-- Items joined by the item separator. -/
def renderItems (st : Style) : List Value → String
  | [] => ""
  | [x] => x.render st
  | x :: rest => x.render st ++ st.itemSep ++ renderItems st rest

/-- Members joined by the item separator. -/
def renderMembers (st : Style) : List (String × Value) → String
  | [] => ""
  | [(k, v)] => quote st.asciiOnly k ++ st.keySep ++ v.render st
  | (k, v) :: rest =>
    quote st.asciiOnly k ++ st.keySep ++ v.render st ++ st.itemSep ++ renderMembers st rest
end

mutual
/-- Whether every integer in a value has at most `digitLimit` digits, so that the value can be
written as text. -/
def Value.intsFit : Value → Bool
  | .int n => decide ((Nat.toDigits 10 n.natAbs).length ≤ digitLimit)
  | .arr xs => itemsFit xs
  | .obj ms => membersFit ms
  | _ => true

/-- Every item can be written. -/
def itemsFit : List Value → Bool
  | [] => true
  | x :: rest => x.intsFit && itemsFit rest

/-- Every member's value can be written. -/
def membersFit : List (String × Value) → Bool
  | [] => true
  | (_, v) :: rest => v.intsFit && membersFit rest
end

/-- The text of a value under a style. -/
def Value.write (st : Style) (v : Value) : String :=
  (if st.sortKeys then v.sortedDeep else v).render st

/-- Text with the usual separators and characters kept as they are. -/
def Value.dump (v : Value) : String :=
  v.write {}

/-- Text with the usual separators, characters kept, members in key order. -/
def Value.dumpSorted (v : Value) : String :=
  v.write { sortKeys := true }

end CodingAgent.Json
