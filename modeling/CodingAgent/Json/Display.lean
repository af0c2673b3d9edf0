import CodingAgent.Json.Value
import CodingAgent.Json.Writer
import CodingAgent.Text.Printable

/-!
# Values as display text

The display text of a value is what a user sees when a value stands where text is expected:
`True`, `False` and `None` for the constants, numbers as in JSON but with `nan` and `inf`,
text as itself, and containers in brackets with their items *quoted*: `['a', 1]`,
`{'k': 'v'}`.

Quoted text uses single quotes, or double quotes when the text holds a single quote and no
double quote. Inside, the chosen quote and the backslash are escaped, tab, line feed and
carriage return are written `\t`, `\n`, `\r`, other controls `\xhh`, and characters that do
not print (`Text.isPrintable`) `\xhh`, `\uhhhh` or `\Uhhhhhhhh` by size.
-/

namespace CodingAgent.Json

open CodingAgent.Decimal

/-- The number layout of display text. -/
def displayNumbers : Layout :=
  { minPositional := -4, maxPositional := 16, expDigits := 2, nanText := "nan", infText := "inf" }

/-- `width` lower-case hex digits of `n`. -/
def hexPadded (width n : Nat) : String :=
  let ds := Nat.toDigits 16 n
  String.ofList (List.replicate (width - ds.length) '0' ++ ds)

/-- One code point inside quoted text delimited by `q`. -/
def quotedCode (q : Char) (n : Nat) : String :=
  if n == q.toNat || n == 0x5C then "\\" ++ (Char.ofNat n).toString
  else if n == 0x09 then "\\t"
  else if n == 0x0A then "\\n"
  else if n == 0x0D then "\\r"
  else if n < 0x20 || n == 0x7F then "\\x" ++ hexPadded 2 n
  else if n < 0x7F then (Char.ofNat n).toString
  else if !CodingAgent.Text.isSurrogateCode n && CodingAgent.Text.isPrintable (Char.ofNat n) then
    String.ofList (CodingAgent.Text.codeChars n)
  else if n ≤ 0xFF then "\\x" ++ hexPadded 2 n
  else if n ≤ 0xFFFF then "\\u" ++ hexPadded 4 n
  else "\\U" ++ hexPadded 8 n

/-- Quoted text. -/
def quoted (s : String) : String :=
  let cs := s.toList
  let q := if cs.contains '\'' && !cs.contains '"' then '"' else '\''
  q.toString ++ String.join ((CodingAgent.Text.codePoints cs).map (quotedCode q)) ++ q.toString

mutual
/-- The quoted form of a value: text is quoted, everything else as in display text. -/
def Value.quotedText : Value → String
  | .null => "None"
  | .bool true => "True"
  | .bool false => "False"
  | .int n => toString n
  | .num x => displayNumbers.render x
  | .str s => quoted s
  | .arr xs => "[" ++ quotedItems xs ++ "]"
  | .obj ms => "\x7b" ++ quotedMembers ms ++ "\x7d"

/-- Quoted items joined by a comma and a space. -/
def quotedItems : List Value → String
  | [] => ""
  | [x] => x.quotedText
  | x :: rest => x.quotedText ++ ", " ++ quotedItems rest

/-- Quoted members `'k': v` joined by a comma and a space. -/
def quotedMembers : List (String × Value) → String
  | [] => ""
  | [(k, v)] => quoted k ++ ": " ++ v.quotedText
  | (k, v) :: rest => quoted k ++ ": " ++ v.quotedText ++ ", " ++ quotedMembers rest
end

/-- The display text of a value: text as itself, all else in its quoted form. -/
def Value.display : Value → String
  | .str s => s
  | v => v.quotedText

end CodingAgent.Json
