import CodingAgent.Text.Blank
import CodingAgent.Text.Digit

/-!
# Integer numerals

`readInt?` reads a base-ten integer numeral: white space around it is allowed (the
separators 0x1C to 0x1F are not white space, see `isWhiteSpace`), a sign `+` or `-`
may lead, the digits may come from any script, and a single low line `_` may stand between
two digits. Nothing else is accepted.
-/

namespace CodingAgent.Text

/-- Digits with single low lines between them, as a number; `none` for anything else. -/
def readDigits (cs : List Char) : Option Nat :=
  go cs 0 false false
where
  /-- `seen`: a digit came already; `afterLine`: the last character was a low line. -/
  go : List Char → Nat → Bool → Bool → Option Nat
    | [], acc, seen, afterLine => if seen && !afterLine then some acc else none
    | c :: rest, acc, seen, afterLine =>
      if c == '_' then
        if seen && !afterLine then go rest acc seen true else none
      else match digitValue? c with
        | some d => go rest (acc * 10 + d) true false
        | none => none

/-- The number of digits in the run of digits and low lines at the start of a numeral (after
white space and a sign), when the run is well formed: no low line at either end of it and no two
together. Nothing after the run is looked at. -/
def leadingDigitCount? (s : String) : Option Nat :=
  let cs := s.toList.dropWhile isWhiteSpace
  let cs := match cs with
    | '-' :: rest => rest
    | '+' :: rest => rest
    | _ => cs
  let run := cs.takeWhile (fun c => (digitValue? c).isSome || c == '_')
  let doubled := (run.zip run.tail).any (fun (a, b) => a == '_' && b == '_')
  if run.head? == some '_' || run.getLast? == some '_' || doubled then none
  else some (run.filter (· != '_')).length

/-- The integer a numeral stands for. -/
def readInt? (s : String) : Option Int :=
  match (trimWhiteSpace s).toList with
  | '-' :: rest => (readDigits rest).map (fun n => -(n : Int))
  | '+' :: rest => (readDigits rest).map (fun n => (n : Int))
  | cs => (readDigits cs).map (fun n => (n : Int))

end CodingAgent.Text
