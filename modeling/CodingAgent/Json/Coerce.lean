import CodingAgent.Json.Display
import CodingAgent.Text.Numeral
import CodingAgent.Decimal.Binary
import CodingAgent.Decimal.Literal

/-!
# Values as integers and reals

`Value.toInt` is the integer a value stands for where a count is expected: a Boolean counts
as 0 or 1, a double is cut toward zero, text must be an integer numeral (`Text.readInt?`) of
at most 4300 digits. The failures are kept apart because callers treat them differently:
some fall back to a default on a wrong kind or a bad numeral, yet let an infinite double
through.

`Value.toReal` is the double a value stands for where a real is expected: a Boolean counts
as 0 or 1, an integer is rounded to the nearest double (one of magnitude `doubleOverflow` or
more, which would round past the largest double, is an error), and text must be a decimal
numeral (`readRealText`).
-/

namespace CodingAgent.Json

/-- Why a value is no integer. -/
inductive IntError where
  /-- The value is of a kind that has no integer (null, array, object). -/
  | wrongKind (kind : String)
  /-- Text that is no numeral. -/
  | badNumeral (text : String)
  /-- An infinite double. -/
  | infinite
  /-- A NaN. -/
  | notANumber
  /-- A numeral with more digits than may be converted. -/
  | tooManyDigits (count : Nat)

/-- The class name of the failure, as errors are reported. -/
def IntError.className : IntError → String
  | .wrongKind _ => "TypeError"
  | .badNumeral _ => "ValueError"
  | .infinite => "OverflowError"
  | .notANumber => "ValueError"
  | .tooManyDigits _ => "ValueError"

/-- The message of the failure. -/
def IntError.message : IntError → String
  | .wrongKind k =>
    "int() argument must be a string, a bytes-like object or a real number, not '" ++ k ++ "'"
  | .badNumeral t => "invalid literal for int() with base 10: " ++ quoted t
  | .infinite => "cannot convert float infinity to integer"
  | .notANumber => "cannot convert float NaN to integer"
  | .tooManyDigits n => "Exceeds the limit (4300 digits) for integer string conversion: " ++
    "value has " ++ toString n ++ " digits; use sys.set_int_max_str_digits() to increase the limit"

/-- Whether a failure is one that callers with a fallback absorb (a wrong kind or a bad
numeral, NaN included); an infinite double is not. -/
def IntError.absorbed : IntError → Bool
  | .infinite => false
  | _ => true

/-- The integer a value stands for. -/
def Value.toInt : Value → Except IntError Int
  | .bool b => .ok (if b then 1 else 0)
  | .int n => .ok n
  | .num x =>
    match CodingAgent.Decimal.Kind.ofFloat x with
    | .finite b => .ok b.truncate
    | .infinite _ => .error .infinite
    | .nan => .error .notANumber
  | .str s =>
    match CodingAgent.Text.leadingDigitCount? s with
    | some n => if n > 4300 then .error (.tooManyDigits n) else readNumeral s
    | none => readNumeral s
  | v => .error (.wrongKind v.kindName)
where
  readNumeral (s : String) : Except IntError Int :=
    match CodingAgent.Text.readInt? s with
    | some n => .ok n
    | none => .error (.badNumeral s)

/-- Why a value is no real. -/
inductive RealError where
  /-- The value is of a kind that has no real (null, array, object). -/
  | wrongKind (kind : String)
  /-- Text that is no decimal numeral. -/
  | badText (text : String)
  /-- An integer beyond the largest double. -/
  | tooLarge

/-- The class name of the failure, as errors are reported. -/
def RealError.className : RealError → String
  | .wrongKind _ => "TypeError"
  | .badText _ => "ValueError"
  | .tooLarge => "OverflowError"

/-- The message of the failure. -/
def RealError.message : RealError → String
  | .wrongKind k => "float() argument must be a string or a real number, not '" ++ k ++ "'"
  | .badText t => "could not convert string to float: " ++ quoted t
  | .tooLarge => "int too large to convert to float"

/-- Whether every low line stands between two digits. -/
def linesBetweenDigits : List Char → Bool
  | [] => true
  | c :: rest => go c rest
where
  go (before : Char) : List Char → Bool
    | [] => before != '_'
    | c :: rest =>
      if c == '_' then
        CodingAgent.Decimal.isAsciiDigit before &&
          (match rest with
           | d :: _ => CodingAgent.Decimal.isAsciiDigit d
           | [] => false) && go c rest
      else go c rest

/-- The double a decimal numeral stands for: white space around it is allowed, digits may come
from any script, and a single low line may stand between two digits; `inf`, `infinity` and
`nan` are read in any letter case. -/
def readRealText (s : String) : Option Float :=
  let cs := (CodingAgent.Text.trimWhiteSpace s).toList.map (fun c =>
    match CodingAgent.Text.digitValue? c with
    | some v => Char.ofNat ('0'.toNat + v)
    | none => c)
  let firstOk := match cs with
    | '_' :: _ => false
    | _ => true
  if firstOk && linesBetweenDigits cs then
    CodingAgent.Decimal.readFloat? (String.ofList (cs.filter (· != '_')))
  else none

/-- The least magnitude of an integer that no double holds. The largest double is
`(2^53 - 1) * 2^971`; halfway from it to `2^1024` rounds up, to even, and so beyond. -/
def doubleOverflow : Nat := Nat.pow 2 1024 - Nat.pow 2 970

/-- The double a value stands for. -/
def Value.toReal : Value → Except RealError Float
  | .bool b => .ok (if b then 1.0 else 0.0)
  | .int n => if doubleOverflow ≤ n.natAbs then .error .tooLarge else .ok (Float.ofInt n)
  | .num x => .ok x
  | .str s =>
    match readRealText s with
    | some x => .ok x
    | none => .error (.badText s)
  | v => .error (.wrongKind v.kindName)

end CodingAgent.Json
