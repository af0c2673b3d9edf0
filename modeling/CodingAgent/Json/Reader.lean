import CodingAgent.Json.Value
import CodingAgent.Decimal.Binary
import CodingAgent.Text.CodePoints

/-!
# Reading JSON text

`read` turns JSON text into a `Value`, and `readPrefix` reads one value that starts at a
given position and reports where it ends. Beyond strict JSON the reader takes `NaN`,
`Infinity` and `-Infinity`, and a repeated key overrides the earlier value.

A number with a fraction or an exponent is a double (the nearest one, ties to even);
otherwise it is an integer, of at most 4300 digits. Blanks are space, tab, line feed and
carriage return.

Arrays and objects nest at most as deep as the *room* a caller gives. The program's calls
and the levels of nesting a decoder is inside share one limit, so the room depends on how
deep in the program the decoder is called: `entryRoom` is the room of a decoder called
directly from an entry point, and each call between the two takes one level from it.

A failure names its cause and the character position where it was found; its message
also gives the line and column of that position. Two failures are not about the form of
the text, and callers that fall back on malformed text let them through: an integer with
too many digits, and nesting too deep.
-/

namespace CodingAgent.Json

/-- Why a text is not JSON. -/
inductive Fault where
  | expectingValue
  | extraData
  | expectingPropertyName
  | expectingColon
  | expectingComma
  | unterminatedString
  | invalidControl
  | invalidEscape
  | invalidUnicodeEscape
  | unexpectedMark
  /-- An integer written with more digits than may be converted. -/
  | tooManyDigits (count : Nat)
  /-- An array (or, when `inObject`, an object) opened deeper than the nesting limit. -/
  | tooDeep (inObject : Bool)
deriving DecidableEq

/-- The wording of a fault. -/
def Fault.text : Fault → String
  | .expectingValue => "Expecting value"
  | .extraData => "Extra data"
  | .expectingPropertyName => "Expecting property name enclosed in double quotes"
  | .expectingColon => "Expecting ':' delimiter"
  | .expectingComma => "Expecting ',' delimiter"
  | .unterminatedString => "Unterminated string starting at"
  | .invalidControl => "Invalid control character at"
  | .invalidEscape => "Invalid \\escape"
  | .invalidUnicodeEscape => "Invalid \\uXXXX escape"
  | .unexpectedMark => "Unexpected UTF-8 BOM (decode using utf-8-sig)"
  | .tooManyDigits n => "Exceeds the limit (4300 digits) for integer string conversion: " ++
    "value has " ++ toString n ++ " digits; use sys.set_int_max_str_digits() to increase the limit"
  | .tooDeep inObject => "maximum recursion depth exceeded while decoding a JSON " ++
    (if inObject then "object" else "array") ++ " from a unicode string"

/-- A failure to read: its cause and the character position. -/
structure ReadError where
  fault : Fault
  pos : Nat

/-- The place of a character position in a text, counted in code points: the line (from 1),
the column (from 1) and the position itself. -/
def placeOf (doc : List Char) (pos : Nat) : Nat × Nat × Nat :=
  let before := CodingAgent.Text.codePoints (doc.take pos)
  let line := before.count 10 + 1
  -- the column counts from the last line feed before the position
  let sinceBreak := (before.reverse.takeWhile (· != 10)).length
  (line, sinceBreak + 1, before.length)

/-- Whether the failure is about the form of the text. -/
def ReadError.isMalformed (e : ReadError) : Bool :=
  match e.fault with
  | .tooManyDigits _ | .tooDeep _ => false
  | _ => true

/-- The class name of a failure, as errors are reported. -/
def ReadError.className (e : ReadError) : String :=
  match e.fault with
  | .tooManyDigits _ => "ValueError"
  | .tooDeep _ => "RecursionError"
  | _ => "JSONDecodeError"

/-- The message of a failure on `doc`: cause, line, column and position; a failure that is
not about the form of the text is its cause alone. -/
def ReadError.message (e : ReadError) (doc : String) : String :=
  let (line, col, place) := placeOf doc.toList e.pos
  if e.isMalformed then
    e.fault.text ++ ": line " ++ toString line ++ " column " ++ toString col ++
      " (char " ++ toString place ++ ")"
  else e.fault.text

/-- The levels of nesting a decoder may read when an entry point of the library calls it
directly: of the 1000 levels of the stack, the nesting shares 996 with the calls that lead to
the entry point, which take 5. -/
def entryRoom : Nat := 991

/-- One step of reading: a result, the rest of the text and its position. -/
abbrev Scan (α : Type) := Except ReadError (α × List Char × Nat)

/-- JSON blanks. -/
def isBlank (c : Char) : Bool :=
  c == ' ' || c == '\t' || c == '\n' || c == '\r'

/-- Skip blanks. -/
def skipBlanks : List Char → Nat → List Char × Nat
  | c :: rest, p => if isBlank c then skipBlanks rest (p + 1) else (c :: rest, p)
  | [], p => ([], p)

/-- The value of a hex digit. -/
def hexValue (c : Char) : Option Nat :=
  if '0' ≤ c && c ≤ '9' then some (c.toNat - '0'.toNat)
  else if 'a' ≤ c && c ≤ 'f' then some (c.toNat - 'a'.toNat + 10)
  else if 'A' ≤ c && c ≤ 'F' then some (c.toNat - 'A'.toNat + 10)
  else none

/-- The value of four hex digits. -/
def hex4Value (cs : List Char) : Option Nat :=
  match cs with
  | [a, b, c, d] => do
    let a ← hexValue a
    let b ← hexValue b
    let c ← hexValue c
    let d ← hexValue d
    pure (((a * 16 + b) * 16 + c) * 16 + d)
  | _ => none

/-- The character of a one-letter escape. -/
def simpleEscape : Char → Option Char
  | '"' => some '"'
  | '\\' => some '\\'
  | '/' => some '/'
  | 'b' => some '\x08'
  | 'f' => some '\x0c'
  | 'n' => some '\n'
  | 'r' => some '\r'
  | 't' => some '\t'
  | _ => none

/-- After a `\u` escape of a high surrogate, whether the next escape completes the pair.
`rest` starts just after the first escape; `p` is its position. -/
def surrogatePair (high : Nat) (rest : List Char) (p : Nat) :
    Except ReadError (Option (Nat × List Char × Nat)) :=
  -- a second escape is looked at only when seven more characters follow
  if rest.length < 7 then .ok none
  else match rest with
    | '\\' :: 'u' :: tail =>
      match hex4Value (tail.take 4) with
      | none => .error ⟨.invalidUnicodeEscape, p + 1⟩
      | some low =>
        if 0xDC00 ≤ low && low ≤ 0xDFFF then
          .ok (some (0x10000 + (high - 0xD800) * 0x400 + (low - 0xDC00), tail.drop 4, p + 6))
        else .ok none
    | _ => .ok none

/-- Read the characters of a string whose opening quote stood at `begin`; `acc` holds the
characters read so far, last first. An escape adds the characters of its code point
(`Text.codeChars`); the text read is already in that encoding and is kept as it is. Each step consumes a character, so `fuel` at least the
length of the text is never exhausted. -/
def scanString (begin : Nat) : Nat → List Char → Nat → List Char → Scan String
  | 0, _, _, _ => .error ⟨.unterminatedString, begin⟩
  | _ + 1, [], _, _ => .error ⟨.unterminatedString, begin⟩
  | fuel + 1, c :: rest, p, acc =>
    if c == '"' then .ok (String.ofList acc.reverse, rest, p + 1)
    else if c == '\\' then
      match rest with
      | [] => .error ⟨.unterminatedString, begin⟩
      | e :: rest2 =>
        if e == 'u' then
          -- four hex digits and at least one more character must follow
          if rest2.length < 5 then .error ⟨.invalidUnicodeEscape, p + 1⟩
          else match hex4Value (rest2.take 4) with
            | none => .error ⟨.invalidUnicodeEscape, p + 1⟩
            | some n =>
              let after := rest2.drop 4
              if 0xD800 ≤ n && n ≤ 0xDBFF then
                match surrogatePair n after (p + 6) with
                | .error err => .error err
                | .ok (some (m, after2, p2)) => scanString begin fuel after2 p2 (CodingAgent.Text.pushCode acc m)
                | .ok none => scanString begin fuel after (p + 6) (CodingAgent.Text.pushCode acc n)
              else scanString begin fuel after (p + 6) (CodingAgent.Text.pushCode acc n)
        else match simpleEscape e with
          | some ch => scanString begin fuel rest2 (p + 2) (ch :: acc)
          | none => .error ⟨.invalidEscape, p⟩
    else if c.toNat ≤ 0x1F then .error ⟨.invalidControl, p⟩
    else scanString begin fuel rest (p + 1) (c :: acc)

/-- Digits `0`-`9` at the front, and the rest. -/
def spanDigits (cs : List Char) : List Char × List Char :=
  (cs.takeWhile Char.isDigit, cs.dropWhile Char.isDigit)

/-- The value of decimal digits. -/
def digitsValue (ds : List Char) : Nat :=
  ds.foldl (fun acc d => acc * 10 + (d.toNat - '0'.toNat)) 0

/-- Read a number starting at position `p`: an optional minus, an integer part without
leading zeros, then a fraction and an exponent when they are complete. -/
def scanNumber (cs : List Char) (p : Nat) : Scan Value :=
  let (neg, afterSign) := match cs with
    | '-' :: rest => (true, rest)
    | _ => (false, cs)
  let intPart : Option (List Char × List Char) := match afterSign with
    | '0' :: rest => some (['0'], rest)
    | c :: rest => if '1' ≤ c && c ≤ '9' then
        let (ds, rest2) := spanDigits rest
        some (c :: ds, rest2)
      else none
    | [] => none
  match intPart with
  | none => .error ⟨.expectingValue, p⟩
  | some (intDs, rest) =>
    let (fracDs, rest) : List Char × List Char := match rest with
      | '.' :: d :: more => if d.isDigit then
          let (ds, rest2) := spanDigits more
          (d :: ds, rest2)
        else ([], rest)
      | _ => ([], rest)
    let (expPart, rest) : Option (Bool × List Char) × List Char := match rest with
      | e :: more => if e == 'e' || e == 'E' then
          let (eneg, afterSign) := match more with
            | '-' :: m => (true, m)
            | '+' :: m => (false, m)
            | _ => (false, more)
          let (ds, rest2) := spanDigits afterSign
          if ds.isEmpty then (none, rest) else (some (eneg, ds), rest2)
        else (none, rest)
      | [] => (none, rest)
    let consumed := cs.length - rest.length
    let isFloat := !fracDs.isEmpty || expPart.isSome
    if isFloat then
      let mantissa := digitsValue (intDs ++ fracDs)
      let e10 : Int := match expPart with
        | some (true, ds) => -(digitsValue ds : Int)
        | some (false, ds) => digitsValue ds
        | none => 0
      let x := CodingAgent.Decimal.nearest neg mantissa (e10 - fracDs.length)
      .ok (.num x, rest, p + consumed)
    else if intDs.length > digitLimit then .error ⟨.tooManyDigits intDs.length, p⟩
    else
      let n : Int := digitsValue intDs
      .ok (.int (if neg then -n else n), rest, p + consumed)

/-- Whether the text starts with `word`. -/
def startsWithWord (cs : List Char) (word : String) : Bool :=
  word.toList.isPrefixOf cs

mutual
/-- Read one value at position `p` (no blanks skipped), where `room` more arrays and
objects may open. -/
def scanValue : Nat → List Char → Nat → Nat → Scan Value
  | 0, _, p, _ => .error ⟨.expectingValue, p⟩
  | fuel + 1, cs, p, room =>
    match cs with
    | '"' :: rest =>
      match scanString p (rest.length + 1) rest (p + 1) [] with
      | .ok (s, rest2, p2) => .ok (.str s, rest2, p2)
      | .error e => .error e
    | '\x7b' :: rest =>
      if room == 0 then .error ⟨.tooDeep true, p⟩ else
      let (rest, q) := skipBlanks rest (p + 1)
      match rest with
      | '\x7d' :: rest2 => .ok (.obj [], rest2, q + 1)
      | _ => scanMembers fuel rest q (room - 1) []
    | '[' :: rest =>
      if room == 0 then .error ⟨.tooDeep false, p⟩ else
      let (rest, q) := skipBlanks rest (p + 1)
      match rest with
      | ']' :: rest2 => .ok (.arr [], rest2, q + 1)
      | _ => scanItems fuel rest q (room - 1) []
    | _ =>
      if startsWithWord cs "null" then .ok (.null, cs.drop 4, p + 4)
      else if startsWithWord cs "true" then .ok (.bool true, cs.drop 4, p + 4)
      else if startsWithWord cs "false" then .ok (.bool false, cs.drop 5, p + 5)
      else if startsWithWord cs "NaN" then .ok (.num (0.0 / 0.0), cs.drop 3, p + 3)
      else if startsWithWord cs "Infinity" then .ok (.num (1.0 / 0.0), cs.drop 8, p + 8)
      else if startsWithWord cs "-Infinity" then .ok (.num (-1.0 / 0.0), cs.drop 9, p + 9)
      else scanNumber cs p

/-- Read array items; the first item starts at `p`, `acc` holds earlier items, last first. -/
def scanItems : Nat → List Char → Nat → Nat → List Value → Scan Value
  | 0, _, p, _, _ => .error ⟨.expectingValue, p⟩
  | fuel + 1, cs, p, room, acc =>
    match scanValue fuel cs p room with
    | .error e => .error e
    | .ok (v, rest, q) =>
      let (rest, q) := skipBlanks rest q
      match rest with
      | ']' :: rest2 => .ok (.arr (v :: acc).reverse, rest2, q + 1)
      | ',' :: rest2 =>
        let (rest2, q2) := skipBlanks rest2 (q + 1)
        scanItems fuel rest2 q2 room (v :: acc)
      | _ => .error ⟨.expectingComma, q⟩

/-- Read object members; the first key starts at `p`, `acc` holds earlier members. -/
def scanMembers : Nat → List Char → Nat → Nat → Members → Scan Value
  | 0, _, p, _, _ => .error ⟨.expectingPropertyName, p⟩
  | fuel + 1, cs, p, room, acc =>
    match cs with
    | '"' :: rest =>
      match scanString p (rest.length + 1) rest (p + 1) [] with
      | .error e => .error e
      | .ok (key, rest, q) =>
        let (rest, q) := skipBlanks rest q
        match rest with
        | ':' :: rest2 =>
          let (rest2, q2) := skipBlanks rest2 (q + 1)
          match scanValue fuel rest2 q2 room with
          | .error e => .error e
          | .ok (v, rest3, q3) =>
            let acc := acc.set key v
            let (rest3, q3) := skipBlanks rest3 q3
            match rest3 with
            | '\x7d' :: rest4 => .ok (.obj acc, rest4, q3 + 1)
            | ',' :: rest4 =>
              let (rest4, q4) := skipBlanks rest4 (q3 + 1)
              scanMembers fuel rest4 q4 room acc
            | _ => .error ⟨.expectingComma, q3⟩
        | _ => .error ⟨.expectingColon, q⟩
    | _ => .error ⟨.expectingPropertyName, p⟩
end

/-- Read one value that starts exactly at character position `start` of `doc`, with `room`
levels of nesting; the result carries the position just after it. -/
def readPrefix (room : Nat) (doc : String) (start : Nat) : Except ReadError (Value × Nat) :=
  let cs := doc.toList.drop start
  match scanValue (cs.length + 1) cs start room with
  | .ok (v, _, q) => .ok (v, q)
  | .error e => .error e

/-- Read a whole text as one value, blanks allowed around it; a byte order mark is no blank. -/
def readText (room : Nat) (doc : String) : Except ReadError Value :=
  let (rest, p) := skipBlanks doc.toList 0
  match scanValue (rest.length + 1) rest p room with
  | .error e => .error e
  | .ok (v, rest, q) =>
    let (rest, q) := skipBlanks rest q
    if rest.isEmpty then .ok v else .error ⟨.extraData, q⟩

/-- Read a whole text as one value, blanks allowed around it. A text that starts with a byte
order mark was decoded from bytes with the wrong encoding, and is refused. -/
def readAll (room : Nat) (doc : String) : Except ReadError Value :=
  if doc.toList.head? == some '\uFEFF' then .error ⟨.unexpectedMark, 0⟩
  else readText room doc

/-- Read a whole text as one value: `none` for text that is not JSON, and an error only for
text that holds an integer too long or nesting deeper than `room`. -/
def readLenient (room : Nat) (doc : String) : Except ReadError (Option Value) :=
  match readAll room doc with
  | .ok v => .ok (some v)
  | .error e => if e.isMalformed then .ok none else .error e

/-- Read a whole text as one value, as deeply nested as it is; a failure comes with its
message. -/
def read (doc : String) : Except String Value :=
  match readAll (doc.length + 1) doc with
  | .ok v => .ok v
  | .error e => .error (e.message doc)

end CodingAgent.Json
