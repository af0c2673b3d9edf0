import CodingAgent.Json.Reader
import CodingAgent.Text.Utf8

/-!
# JSON documents given as bytes

A JSON document that arrives as bytes (RFC 8259, section 8.1, and its predecessor RFC 4627,
section 3) may be in UTF-8, UTF-16 or UTF-32. The encoding is told by a byte order mark, or
else by the zero bytes among the first four: a JSON text starts with an ASCII character, so
the zeros of its first character give the width and the byte order away.

* `00 00 FE FF`, `FF FE 00 00`: UTF-32 with a mark; `FE FF`, `FF FE`: UTF-16 with a mark;
  `EF BB BF`: UTF-8 with a mark. The mark is not part of the text.
* Four bytes or more: `00 00` starts UTF-32 big endian, `00 xx` UTF-16 big endian; `xx 00 00
  00` is UTF-32 little endian and any other `xx 00` UTF-16 little endian.
* Exactly two bytes: `00 xx` is UTF-16 big endian, `xx 00` little endian.
* Everything else is UTF-8.

The decoders let surrogates through: a UTF-16 surrogate without its partner, a UTF-32 code
unit in the surrogate range, or the three UTF-8 bytes of a surrogate's code, stands for
itself, held in the text as `Text.codeChars` encodes it.

A decoder fails on what it cannot read:

* `truncated data`: the bytes end inside a code unit; the range runs to the end;
* `code point not in range(0x110000)`: a UTF-32 unit past the last code point; the range is
  the unit.

The message names the encoding with its byte order (`utf-16-le`, `utf-32-be`) and the byte
range, as `Utf8Error.message` does for UTF-8.
-/

namespace CodingAgent.Json

open CodingAgent.Text

/-- The encodings a JSON document in bytes may be in. -/
inductive ByteEncoding where
  /-- UTF-8; `marked` when a byte order mark comes first. -/
  | utf8 (marked : Bool)
  /-- UTF-16 with this byte order; `marked` when a byte order mark comes first. -/
  | utf16 (bigEndian marked : Bool)
  /-- UTF-32 with this byte order; `marked` when a byte order mark comes first. -/
  | utf32 (bigEndian marked : Bool)
  deriving DecidableEq

/-- The encoding of a JSON document in bytes. -/
def detectEncoding : List UInt8 → ByteEncoding
  | 0x00 :: 0x00 :: 0xFE :: 0xFF :: _ => .utf32 true true
  | 0xFF :: 0xFE :: 0x00 :: 0x00 :: _ => .utf32 false true
  | 0xFE :: 0xFF :: _ => .utf16 true true
  | 0xFF :: 0xFE :: _ => .utf16 false true
  | 0xEF :: 0xBB :: 0xBF :: _ => .utf8 true
  | b0 :: b1 :: b2 :: b3 :: _ =>
    if b0 == 0 then (if b1 != 0 then .utf16 true false else .utf32 true false)
    else if b1 == 0 then (if b2 != 0 || b3 != 0 then .utf16 false false else .utf32 false false)
    else .utf8 false
  | [b0, b1] =>
    if b0 == 0 then .utf16 true false
    else if b1 == 0 then .utf16 false false
    else .utf8 false
  | _ => .utf8 false

/-- The name of a byte order, as decoders write it. -/
def orderName (bigEndian : Bool) : String :=
  if bigEndian then "be" else "le"

/-- Where and why bytes cannot be decoded: the encoding, the range `[start, stop)`, the first
byte of the range and the reason. -/
structure DecodeError where
  encoding : String
  start : Nat
  stop : Nat
  firstByte : UInt8
  reason : String

/-- The message of a decoding error. -/
def DecodeError.message (e : DecodeError) : String :=
  let place := if e.stop - e.start ≤ 1 then
      "byte 0x" ++ byteHex e.firstByte ++ " in position " ++ toString e.start
    else "bytes in position " ++ toString e.start ++ "-" ++ toString (e.stop - 1)
  "'" ++ e.encoding ++ "' codec can't decode " ++ place ++ ": " ++ e.reason

/-- The value of a code unit from its bytes in the order they come. -/
def unitValue (bigEndian : Bool) (bytes : List UInt8) : Nat :=
  let ordered := if bigEndian then bytes else bytes.reverse
  ordered.foldl (fun acc b => acc * 256 + b.toNat) 0

/-- The characters of a code point put in front of a list kept in reverse. -/
def pushUnit (acc : List Char) (n : Nat) : List Char :=
  CodingAgent.Text.pushCode acc n

/-- Whether a UTF-16 unit is a leading (high) surrogate. -/
def isHighSurrogate (u : Nat) : Bool :=
  0xD800 ≤ u && u ≤ 0xDBFF

/-- Whether a UTF-16 unit is a trailing (low) surrogate. -/
def isLowSurrogate (u : Nat) : Bool :=
  0xDC00 ≤ u && u ≤ 0xDFFF

/-- Decode UTF-16 units from byte position `pos`; `name` names the encoding in errors. -/
def decodeUtf16 (bigEndian : Bool) (name : String) :
    List UInt8 → Nat → List Char → Except DecodeError (List Char)
  | [], _, acc => .ok acc.reverse
  | [b], pos, _ => .error ⟨name, pos, pos + 1, b, "truncated data"⟩
  | a :: b :: rest, pos, acc =>
    let u := unitValue bigEndian [a, b]
    if isHighSurrogate u then
      match rest with
      | c :: d :: more =>
        let v := unitValue bigEndian [c, d]
        if isLowSurrogate v then
          decodeUtf16 bigEndian name more (pos + 4)
            (pushUnit acc (0x10000 + (u - 0xD800) * 0x400 + (v - 0xDC00)))
        else decodeUtf16 bigEndian name (c :: d :: more) (pos + 2) (pushUnit acc u)
      | more => decodeUtf16 bigEndian name more (pos + 2) (pushUnit acc u)
    else decodeUtf16 bigEndian name rest (pos + 2) (pushUnit acc u)

/-- Decode UTF-32 units from byte position `pos`; `name` names the encoding in errors. -/
def decodeUtf32 (bigEndian : Bool) (name : String) :
    List UInt8 → Nat → List Char → Except DecodeError (List Char)
  | a :: b :: c :: d :: rest, pos, acc =>
    let u := unitValue bigEndian [a, b, c, d]
    if u < 0x110000 then decodeUtf32 bigEndian name rest (pos + 4) (pushUnit acc u)
    else .error ⟨name, pos, pos + 4, a, "code point not in range(0x110000)"⟩
  | [], _, acc => .ok acc.reverse
  | b :: rest, pos, _ => .error ⟨name, pos, pos + 1 + rest.length, b, "truncated data"⟩

/-- Why a JSON document in bytes cannot be read. -/
inductive BytesError where
  /-- The bytes are not in the encoding they seem to be in. -/
  | undecodable (message : String)
  /-- The decoded text is not JSON. -/
  | malformed (message : String)
  /-- The decoded text holds an integer too long or nesting too deep to be read. -/
  | beyondLimits (e : ReadError)

/-- The text of a JSON document in bytes. -/
def decodeDocument (bytes : List UInt8) : Except BytesError String :=
  let undecodable (e : DecodeError) : BytesError := .undecodable e.message
  match detectEncoding bytes with
  | .utf8 marked =>
    match decodeUtf8Passing (if marked then bytes.drop 3 else bytes) with
    | .ok s => .ok s
    | .error e => .error (.undecodable e.message)
  | .utf16 big marked =>
    let skip := if marked then 2 else 0
    match decodeUtf16 big ("utf-16-" ++ orderName big) (bytes.drop skip) skip [] with
    | .ok cs => .ok (String.ofList cs)
    | .error e => .error (undecodable e)
  | .utf32 big marked =>
    let skip := if marked then 4 else 0
    match decodeUtf32 big ("utf-32-" ++ orderName big) (bytes.drop skip) skip [] with
    | .ok cs => .ok (String.ofList cs)
    | .error e => .error (undecodable e)

/-- Read a JSON document given as bytes: decode it, then read the text as one value. A byte
order mark that is left after decoding is not refused: it is a character where a value
should start. Arrays and objects nest at most `room` deep. -/
def readBytes (room : Nat) (bytes : List UInt8) : Except BytesError Value := do
  let doc ← decodeDocument bytes
  match readText room doc with
  | .ok v => .ok v
  | .error e => .error (if e.isMalformed then .malformed (e.message doc) else .beyondLimits e)

end CodingAgent.Json
