import CodingAgent.Text.LowerTable
import CodingAgent.Text.Cased

/-!
# Lower case

`lower` maps every character of a text to its lower case (Unicode 14.0). Two characters need
more than the table: capital I with dot above becomes `i` and a combining dot above, and
capital sigma becomes final sigma `ς` at the end of a word, that is, when a cased character
comes before it and none comes after it, case-ignorable characters skipped on both sides.
-/

namespace CodingAgent.Text

/-- Whether a cased character comes first once case-ignorable characters are skipped. -/
def casedFirst : List Char → Bool
  | [] => false
  | c :: rest => if isCaseIgnorable c then casedFirst rest else isCased c

/-- The lower case of one character with the characters before it (nearest first) and after it. -/
def lowerAt (before : List Char) (c : Char) (after : List Char) : List Char :=
  let n := c.toNat
  if n == 0x130 then ['i', Char.ofNat 0x307]
  else if n == 0x3A3 then
    if casedFirst before && !casedFirst after then [Char.ofNat 0x3C2] else [Char.ofNat 0x3C3]
  else match lowerOf? n with
    | some m => [Char.ofNat m]
    | none => [c]

/-- Lower-case the characters of `after`; `before` holds the characters already passed,
nearest first. -/
def lowerFrom : List Char → List Char → List Char
  | _, [] => []
  | before, c :: after => lowerAt before c after ++ lowerFrom (c :: before) after

/-- The lower case of a text. -/
def lower (s : String) : String :=
  String.ofList (lowerFrom [] s.toList)

end CodingAgent.Text
