import CodingAgent.Decimal.Literal

/-!
# Resolving the tags of plain scalars

A plain scalar without a tag gets the tag its text has the form of, tried in this order
(YAML 1.1 types):

* boolean: `yes`, `no`, `true`, `false`, `on`, `off`, each in lower case, capitalized or
  upper case;
* real: digits, a point and a fraction, with an optional exponent whose sign is required;
  a point and digits; base sixty with a fraction; `.inf` (a sign may lead all of these);
  `.nan`;
* integer: `0b` and binary digits, `0` and octal digits, `0` or decimal digits, `0x` and
  hex digits, base sixty (a sign may lead all of these); underscores may stand among the
  digits;
* merge `<<`; null: the empty text, `~`, `null`; timestamp; value `=`.

Anything else is text. Collections get the sequence and mapping tags.
-/

namespace CodingAgent.Yaml

open CodingAgent.Decimal

/-- The full name of a standard tag. -/
def standardTag (name : String) : String :=
  "tag:yaml.org,2002:" ++ name

/-- Whether every character is a digit of the base or an underscore, and there is one. -/
def isDigitsOrSkips (isDigit : Char → Bool) (cs : List Char) : Bool :=
  !cs.isEmpty && cs.all (fun c => isDigit c || c == '_')

/-- `[0-9][0-9_]*` -/
def isDigitLeadRun : List Char → Bool
  | d :: ds => isAsciiDigit d && ds.all (fun c => isAsciiDigit c || c == '_')
  | [] => false

/-- `[1-9][0-9_]*` -/
def isNonZeroLeadRun : List Char → Bool
  | d :: ds => '1' ≤ d && d ≤ '9' && ds.all (fun c => isAsciiDigit c || c == '_')
  | [] => false

/-- `[0-5]?[0-9]` -/
def isSixtiethDigits : List Char → Bool
  | [d] => isAsciiDigit d
  | [d, e] => '0' ≤ d && d ≤ '5' && isAsciiDigit e
  | _ => false

/-- `(?:[eE][-+][0-9]+)?` -/
def isOptionalExponent : List Char → Bool
  | [] => true
  | e :: s :: ds => (e == 'e' || e == 'E') && (s == '+' || s == '-') && !ds.isEmpty &&
      ds.all isAsciiDigit
  | _ => false

/-- `[0-9_]*(?:[eE][-+][0-9]+)?` -/
def isFraction (cs : List Char) : Bool :=
  isOptionalExponent (cs.dropWhile (fun c => isAsciiDigit c || c == '_'))

/-- A sign, if one leads, and the rest. -/
def dropSign : List Char → List Char
  | '-' :: rest => rest
  | '+' :: rest => rest
  | cs => cs

/-- Whether text has the form of a boolean. -/
def isBoolForm (s : String) : Bool :=
  ["yes", "Yes", "YES", "no", "No", "NO", "true", "True", "TRUE", "false", "False", "FALSE",
    "on", "On", "ON", "off", "Off", "OFF"].contains s

/-- Whether text has the form of a real. -/
def isFloatForm (s : String) : Bool :=
  let cs := s.toList
  let body := dropSign cs
  let decimal :=
    match body.splitOn '.' with
    | lead :: _ =>
      isDigitLeadRun lead && !lead.contains ':' &&
        (match body.drop lead.length with
         | '.' :: frac => isFraction frac
         | _ => false)
    | [] => false
  let pointFirst := match cs with
    | '.' :: d :: rest => isAsciiDigit d && isFraction rest
    | _ => false
  let sexagesimal := match body.splitOn ':' with
    | first :: second :: more =>
      let parts := second :: more
      let last := parts.getLastD []
      let lastWhole := last.takeWhile isAsciiDigit
      isDigitLeadRun first && parts.dropLast.all isSixtiethDigits &&
        isSixtiethDigits lastWhole &&
        (match last.drop lastWhole.length with
         | '.' :: frac => frac.all (fun c => isAsciiDigit c || c == '_')
         | _ => false)
    | _ => false
  let infinity := [".inf", ".Inf", ".INF"].contains (String.ofList body)
  let notANumber := [".nan", ".NaN", ".NAN"].contains s
  decimal || pointFirst || sexagesimal || infinity || notANumber

/-- Whether text has the form of an integer. -/
def isIntForm (s : String) : Bool :=
  let body := dropSign s.toList
  let binary := match body with
    | '0' :: 'b' :: ds => isDigitsOrSkips (fun c => c == '0' || c == '1') ds
    | _ => false
  let octal := match body with
    | '0' :: ds => isDigitsOrSkips (fun c => '0' ≤ c && c ≤ '7') ds
    | _ => false
  let decimal := body == ['0'] || isNonZeroLeadRun body
  let hex := match body with
    | '0' :: 'x' :: ds => isDigitsOrSkips (fun c => isAsciiDigit c || ('a' ≤ c && c ≤ 'f') ||
        ('A' ≤ c && c ≤ 'F')) ds
    | _ => false
  let sexagesimal := match body.splitOn ':' with
    | first :: second :: more => isNonZeroLeadRun first && (second :: more).all isSixtiethDigits
    | _ => false
  binary || octal || decimal || hex || sexagesimal

/-- Whether text has the form of a null. -/
def isNullForm (s : String) : Bool :=
  ["", "~", "null", "Null", "NULL"].contains s

/-- Exactly `n` ASCII digits at the front, and the rest. -/
def takeDigits (n : Nat) (cs : List Char) : Option (List Char) :=
  if (cs.take n).length == n && (cs.take n).all isAsciiDigit then some (cs.drop n) else none

/-- One or two ASCII digits at the front, and the rest. -/
def takeOneOrTwoDigits (cs : List Char) : Option (List Char) :=
  match cs with
  | d :: e :: rest => if !isAsciiDigit d then none else if isAsciiDigit e then some rest
    else some (e :: rest)
  | [d] => if isAsciiDigit d then some [] else none
  | [] => none

/-- Whether the rest of a timestamp after its seconds has the form of a fraction and a
zone: `(?:\.[0-9]*)?(?:[ \t]*(?:Z|[-+][0-9][0-9]?(?::[0-9][0-9])?))?` to the end. -/
def isStampTail (cs : List Char) : Bool :=
  let cs := match cs with
    | '.' :: rest => rest.dropWhile isAsciiDigit
    | _ => cs
  match cs.dropWhile (fun c => c == ' ' || c == '\t') with
  | [] => cs.isEmpty
  | ['Z'] => true
  | s :: rest =>
    (s == '+' || s == '-') &&
      (match takeOneOrTwoDigits rest with
       | some [] => true
       | some (':' :: more) => (takeDigits 2 more) == some []
       | _ => false)

/-- Whether text has the form of a timestamp: `YYYY-MM-DD`, or `YYYY-M-D` followed by `T`,
`t` or blanks and a time `H:MM:SS` with an optional fraction and zone. -/
def isTimestampForm (s : String) : Bool :=
  let cs := s.toList
  let dateOnly := match takeDigits 4 cs with
    | some ('-' :: rest) => match takeDigits 2 rest with
      | some ('-' :: rest) => takeDigits 2 rest == some []
      | _ => false
    | _ => false
  let withTime := match takeDigits 4 cs with
    | some ('-' :: rest) => match takeOneOrTwoDigits rest with
      | some ('-' :: rest) => match takeOneOrTwoDigits rest with
        | some (c :: rest) =>
          let afterSep :=
            if c == 'T' || c == 't' then some rest
            else if c == ' ' || c == '\t' then
              some (rest.dropWhile (fun c => c == ' ' || c == '\t'))
            else none
          match afterSep.bind takeOneOrTwoDigits with
          | some (':' :: rest) => match takeDigits 2 rest with
            | some (':' :: rest) => match takeDigits 2 rest with
              | some rest => isStampTail rest
              | none => false
            | _ => false
          | _ => false
        | _ => false
      | _ => false
    | _ => false
  dateOnly || withTime

/-- The tag of a plain scalar's text. -/
def implicitTag (s : String) : String :=
  if isBoolForm s then standardTag "bool"
  else if isFloatForm s then standardTag "float"
  else if isIntForm s then standardTag "int"
  else if s == "<<" then standardTag "merge"
  else if isNullForm s then standardTag "null"
  else if isTimestampForm s then standardTag "timestamp"
  else if s == "=" then standardTag "value"
  else standardTag "str"

end CodingAgent.Yaml
