import CodingAgent.Yaml.Error
import CodingAgent.Decimal.Literal
import CodingAgent.Text.Digit
import CodingAgent.Text.Blank
import CodingAgent.Text.Case
import CodingAgent.Text.Base64
import CodingAgent.Text.Encode

/-!
# Converting scalars of the standard tags

A scalar tagged as an integer, a real, a boolean, binary data or a timestamp is converted
from its text. The text need not have the form the tag's resolver expects: an explicit tag
can be put on any scalar, so every conversion says what it makes of any text, and how it
fails.

* Integers: underscores are dropped and a sign is taken off; then `0` is zero, `0b` starts
  binary digits, `0x` hex digits, a leading `0` octal digits, colons separate base-sixty
  parts, and anything else is decimal. The digits are read as a general integer reader
  reads them: white space around them (not the separators 0x1C to 0x1F), a sign of their
  own and a base prefix are allowed, and decimal digits of every script count. At most 4300
  digits are read in a base that is not a power of two.
* Reals: underscores are dropped and the text is lower-cased; a sign is taken off; then
  `.inf` and `.nan`, base-sixty parts, or a decimal number (or `inf`, `infinity`, `nan`) as
  a general real reader reads it, white space around it allowed. Base-sixty parts are
  weighed from the last one up, each weight an exact power of sixty turned into a real; a
  weight too large for a real fails.
* Booleans: `yes`, `no`, `true`, `false`, `on` and `off` in any letter case.
* Binary data: base64, read leniently: characters outside the alphabet are skipped, and
  the padding must come out right.
* Timestamps: a date `YYYY-M-D`, optionally with a time `H:MM:SS`, a fraction and a zone;
  the parts must form a real date and time, and a zone must be less than a day.
-/

namespace CodingAgent.Yaml

open CodingAgent.Decimal
open CodingAgent.Text

/-- A conversion failure of class `cls`. -/
def conversionError (cls message : String) : YamlError :=
  .conversion cls message

/-- The error of indexing an empty text. -/
def indexError : YamlError :=
  conversionError "IndexError" "string index out of range"

/-- The quoted form of a text, cut to 200 characters. -/
def quotedCut (s : String) : String :=
  String.ofList ((CodingAgent.Json.quoted s).toList.take 200)

/-- A decimal digit of any script as the ASCII digit of the same value. -/
def asciiDigitOf (c : Char) : Char :=
  match digitValue? c with
  | some v => Char.ofNat ('0'.toNat + v)
  | none => c

/-- The value of a digit or a letter as a digit of a base up to 36. -/
def digitIn (c : Char) : Option Nat :=
  if '0' ≤ c && c ≤ '9' then some (c.toNat - '0'.toNat)
  else if 'a' ≤ c && c ≤ 'z' then some (c.toNat - 'a'.toNat + 10)
  else if 'A' ≤ c && c ≤ 'Z' then some (c.toNat - 'A'.toNat + 10)
  else none

/-- Whether a base is a power of two. -/
def isPowerOfTwo (b : Nat) : Bool :=
  b == 2 || b == 4 || b == 8 || b == 16 || b == 32

/-- The prefix a base may be written with, after a `0`. -/
def basePrefix (base : Nat) (c : Char) : Bool :=
  (base == 16 && (c == 'x' || c == 'X')) || (base == 8 && (c == 'o' || c == 'O')) ||
    (base == 2 && (c == 'b' || c == 'B'))

/-- Read an integer of base `base` from text, as a general integer reader does. -/
def readInteger (text : String) (base : Nat) : Except YamlError Int :=
  let invalid := conversionError "ValueError"
    ("invalid literal for int() with base " ++ toString base ++ ": " ++ quotedCut text)
  let cs := (trimWhiteSpace text).toList.map asciiDigitOf
  let (neg, body) := takeSign cs
  let body := match body with
    | '0' :: p :: rest => if basePrefix base p then rest else body
    | _ => body
  if body.isEmpty then .error invalid
  else match body.mapM (fun c => (digitIn c).filter (· < base)) with
    | none => .error invalid
    | some ds =>
      if !isPowerOfTwo base && ds.length > 4300 then
        .error (conversionError "ValueError"
          ("Exceeds the limit (4300 digits) for integer string conversion: value has " ++
            toString ds.length ++
            " digits; use sys.set_int_max_str_digits() to increase the limit"))
      else
        let n : Int := ds.foldl (fun (acc : Int) (d : Nat) => acc * base + d) 0
        .ok (if neg then -n else n)

/-- Read a real from text, as a general real reader does. -/
def readReal (text : String) : Except YamlError Float :=
  match readFloat? (String.ofList ((trimWhiteSpace text).toList.map asciiDigitOf)) with
  | some x => .ok x
  | none => .error (conversionError "ValueError"
      ("could not convert string to float: " ++ CodingAgent.Json.quoted text))

/-- The text without underscores. -/
def dropUnderscores (s : String) : String :=
  String.ofList (s.toList.filter (· != '_'))

/-- The sign of a number's text and the text after it. -/
def splitSign (s : String) : Except YamlError (Bool × String) :=
  match s.toList with
  | [] => .error indexError
  | c :: rest => .ok (c == '-', if c == '+' || c == '-' then String.ofList rest else s)

/-- The integer a scalar tagged as an integer stands for. -/
def convertInt (text : String) : Except YamlError Int := do
  let (neg, v) ← splitSign (dropUnderscores text)
  let signed (n : Int) : Int := if neg then -n else n
  if v == "0" then return 0
  else if v.startsWith "0b" then return signed (← readInteger (v.drop 2).toString 2)
  else if v.startsWith "0x" then return signed (← readInteger (v.drop 2).toString 16)
  else match v.toList with
    | [] => throw indexError
    | '0' :: _ => return signed (← readInteger v 8)
    | cs =>
      if cs.contains ':' then
        let digits ← (v.splitOn ":").mapM (fun p => readInteger p 10)
        let (value, _) := digits.reverse.foldl
          (fun (acc : Int × Int) d => (acc.1 + d * acc.2, acc.2 * 60)) (0, 1)
        return signed value
      else return signed (← readInteger v 10)

/-- The real a scalar tagged as a real stands for. -/
def convertFloat (text : String) : Except YamlError Float := do
  let (neg, v) ← splitSign (lower (dropUnderscores text))
  let signed (x : Float) : Float := if neg then -x else x
  if v == ".inf" then return signed (1.0 / 0.0)
  else if v == ".nan" then return 0.0 / 0.0
  else if v.toList.contains ':' then
    let digits ← (v.splitOn ":").mapM readReal
    let (value, _) ← digits.reverse.foldlM (fun (acc : Float × Nat) d =>
        match ofInt? acc.2 with
        | some weight => .ok (acc.1 + d * weight, acc.2 * 60)
        | none => .error (conversionError "OverflowError" "int too large to convert to float"))
      (0.0, 1)
    return signed value
  else return signed (← readReal v)

/-- The boolean a scalar tagged as a boolean stands for. -/
def convertBool (text : String) : Except YamlError Bool :=
  let key := lower text
  if ["yes", "true", "on"].contains key then .ok true
  else if ["no", "false", "off"].contains key then .ok false
  else .error (conversionError "KeyError" (CodingAgent.Json.quoted key))

/-! ## Binary data -/

/-- The state of lenient base64 decoding: the place in the current group of four, the bits
carried over, the pad characters seen, and the bytes so far (last first). -/
structure Base64State where
  quadPos : Nat := 0
  carry : Nat := 0
  pads : Nat := 0
  out : List UInt8 := []

/-- Decode base64 leniently: characters outside the alphabet are skipped; `=` ends the
data once it completes a group. -/
def decodeBase64 (cs : List Char) : Except String (List UInt8) :=
  go cs {}
where
  go : List Char → Base64State → Except String (List UInt8)
    | [], st =>
      if st.quadPos == 0 then .ok st.out.reverse
      else if st.quadPos == 1 then
        .error ("Invalid base64-encoded string: number of data characters (" ++
          toString (st.out.length / 3 * 4 + 1) ++ ") cannot be 1 more than a multiple of 4")
      else .error "Incorrect padding"
    | c :: rest, st =>
      if c == '=' then
        if st.quadPos ≥ 2 then
          if st.quadPos + st.pads + 1 ≥ 4 then .ok st.out.reverse
          else go rest { st with pads := st.pads + 1 }
        else go rest st
      else match base64Value c with
        | none => go rest st
        | some v =>
          let st := { st with pads := 0 }
          match st.quadPos with
          | 0 => go rest { st with quadPos := 1, carry := v }
          | 1 =>
            let byte := UInt8.ofNat (st.carry * 4 + v / 16)
            go rest { st with quadPos := 2, carry := v % 16, out := byte :: st.out }
          | 2 =>
            let byte := UInt8.ofNat (st.carry % 16 * 16 + v / 4)
            go rest { st with quadPos := 3, carry := v % 4, out := byte :: st.out }
          | _ =>
            let byte := UInt8.ofNat (st.carry % 4 * 64 + v)
            go rest { st with quadPos := 0, carry := 0, out := byte :: st.out }

/-- The bytes a scalar tagged as binary stands for; the problem of a constructor error
otherwise. -/
def convertBinary (text : String) : Except String (List UInt8) :=
  match CodingAgent.Text.asciiFault? text with
  | some fault => .error ("failed to convert base64 data into ascii: " ++ fault)
  | none => match decodeBase64 text.toList with
    | .ok bytes => .ok bytes
    | .error e => .error ("failed to decode base64 data: " ++ e)

/-! ## Timestamps -/

/-- The parts of a timestamp: the date, the time if any, and the zone offset if any
(whether it is west of UTC, hours, minutes). -/
structure Stamp where
  year : Nat
  month : Nat
  day : Nat
  time : Option (Nat × Nat × Nat)
  zone : Option (Bool × Nat × Nat)

/-- Whether a character is a space or a tab. -/
def isBlankChar (c : Char) : Bool :=
  c == ' ' || c == '\t'

/-- ASCII digits at the front, at most `most` of them. -/
def leadingDigits (most : Nat) (cs : List Char) : List Char × List Char :=
  let ds := (cs.takeWhile isAsciiDigit).take most
  (ds, cs.drop ds.length)

/-- The value of ASCII digits. -/
def digitsNat (ds : List Char) : Nat :=
  ds.foldl (fun acc d => acc * 10 + (d.toNat - '0'.toNat)) 0

/-- The zone of a timestamp: `Z`, or a sign, one or two digits of hours and optionally a
colon and two digits of minutes; nothing may follow. -/
def readZone : List Char → Option (Option (Bool × Nat × Nat))
  | ['Z'] => some none
  | s :: rest =>
    if s == '+' || s == '-' then
      let (h, rest) := leadingDigits 2 rest
      if h.isEmpty then none
      else match rest with
        | [] => some (some (s == '-', digitsNat h, 0))
        | [':', a, b] =>
          if isAsciiDigit a && isAsciiDigit b then
            some (some (s == '-', digitsNat h, digitsNat [a, b]))
          else none
        | _ => none
    else none
  | [] => none

/-- The time of a timestamp after its separator: `H:MM:SS`, an optional fraction, and an
optional zone after optional blanks. -/
def readTime (cs : List Char) : Option ((Nat × Nat × Nat) × Option (Bool × Nat × Nat)) :=
  let (h, rest) := leadingDigits 2 cs
  match rest with
  | ':' :: m1 :: m2 :: ':' :: s1 :: s2 :: rest =>
    if h.isEmpty || !(isAsciiDigit m1 && isAsciiDigit m2 && isAsciiDigit s1 && isAsciiDigit s2)
    then none
    else
      let time := (digitsNat h, digitsNat [m1, m2], digitsNat [s1, s2])
      let rest := match rest with
        | '.' :: more => more.dropWhile isAsciiDigit
        | more => more
      match rest with
      | [] => some (time, none)
      | _ =>
        (readZone (rest.dropWhile isBlankChar)).map (fun zone => (time, zone))
  | _ => none

/-- The parts of a timestamp's text, if it has the form of one: `YYYY-M-D`, then
optionally `T`, `t` or blanks and a time. -/
def readStampExact (cs : List Char) : Option Stamp :=
  match cs with
  | y1 :: y2 :: y3 :: y4 :: '-' :: rest =>
    if !([y1, y2, y3, y4].all isAsciiDigit) then none
    else
      let (mo, rest) := leadingDigits 2 rest
      match rest with
      | '-' :: rest =>
        let (d, rest) := leadingDigits 2 rest
        if mo.isEmpty || d.isEmpty then none
        else
          let date := (digitsNat [y1, y2, y3, y4], digitsNat mo, digitsNat d)
          match rest with
          | [] => some ⟨date.1, date.2.1, date.2.2, none, none⟩
          | c :: more =>
            let afterSep :=
              if c == 'T' || c == 't' then some more
              else if c == ' ' || c == '\t' then some (more.dropWhile isBlankChar)
              else none
            match afterSep.bind readTime with
            | some (time, zone) => some ⟨date.1, date.2.1, date.2.2, some time, zone⟩
            | none => none
      | _ => none
  | _ => none

/-- The parts of a timestamp's text; a line break at the very end is allowed. -/
def readStamp (s : String) : Option Stamp :=
  match readStampExact s.toList with
  | some st => some st
  | none => if s.endsWith "\n" then readStampExact s.toList.dropLast else none

/-- Whether a year is a leap year. -/
def isLeapYear (y : Nat) : Bool :=
  y % 4 == 0 && (y % 100 != 0 || y % 400 == 0)

/-- The number of days of a month. -/
def daysInMonth (y m : Nat) : Nat :=
  if m == 2 then (if isLeapYear y then 29 else 28)
  else if m == 4 || m == 6 || m == 9 || m == 11 then 30
  else 31

/-- Why a date is not a real one. -/
def dateFault (y m d : Nat) : Option String :=
  if y < 1 || y > 9999 then some ("year " ++ toString y ++ " is out of range")
  else if m < 1 || m > 12 then some "month must be in 1..12"
  else if d < 1 || d > daysInMonth y m then some "day is out of range for month"
  else none

/-- How a span of seconds is written: whole days, and the seconds after them. -/
def spanText (seconds : Int) : String :=
  let days := seconds / 86400
  let rest := seconds - days * 86400
  let parts := (if days != 0 then ["days=" ++ toString days] else []) ++
    (if rest != 0 then ["seconds=" ++ toString rest] else [])
  "datetime.timedelta(" ++ (if parts.isEmpty then "0" else ", ".intercalate parts) ++ ")"

/-- Why a zone offset is not one: it must be less than a day either way. -/
def zoneFault (west : Bool) (hours minutes : Nat) : Option String :=
  let size : Int := (hours * 3600 + minutes * 60 : Nat)
  let offset := if west then -size else size
  if offset ≤ -86400 || offset ≥ 86400 then
    some ("offset must be a timedelta strictly between -timedelta(hours=24) and " ++
      "timedelta(hours=24), not " ++ spanText offset ++ ".")
  else none

/-- Check a scalar tagged as a timestamp; a timestamp has no value the settings can take,
so only its faults matter. -/
def convertTimestamp (text : String) : Except YamlError Unit :=
  let fail (message : String) : Except YamlError Unit :=
    .error (conversionError "ValueError" message)
  match readStamp text with
  | none => .error (conversionError "AttributeError"
      "'NoneType' object has no attribute 'groupdict'")
  | some st =>
    match st.time with
    | none => match dateFault st.year st.month st.day with
      | some f => fail f
      | none => .ok ()
    | some (h, mi, s) =>
      match st.zone.bind (fun (w, zh, zm) => zoneFault w zh zm) with
      | some f => fail f
      | none => match dateFault st.year st.month st.day with
        | some f => fail f
        | none =>
          if h > 23 then fail "hour must be in 0..23"
          else if mi > 59 then fail "minute must be in 0..59"
          else if s > 59 then fail "second must be in 0..59"
          else .ok ()

end CodingAgent.Yaml
