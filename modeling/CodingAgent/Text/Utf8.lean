import CodingAgent.Text.CodePoints

/-!
# UTF-8 bytes

Files hold bytes; text is read from them as UTF-8 (RFC 3629). `encodeUtf8` writes the code
points of a text as bytes (a lone surrogate as the three bytes of its code, as no strict
encoder would: callers that must refuse surrogates look for them first). `decodeUtf8` reads
bytes back, or reports the first place that is not UTF-8 the way a strict decoder reports it:
the byte range and one of three reasons; `decodeUtf8Passing` also reads the codes of
surrogates. `decodeReplacing` reads every such place as one
replacement character instead.

* `invalid start byte`: a byte that cannot begin a character (`80`-`C1`, `F5`-`FF`); the
  range is that byte.
* `invalid continuation byte`: a byte after a valid start that does not continue it; the
  range is the start and the continuation bytes that were valid.
* `unexpected end of data`: the bytes end inside a character whose bytes so far are valid;
  the range runs to the end.

The first continuation byte after `E0`, `ED`, `F0` and `F4` has a narrower range, so that
over-long forms, surrogates and code points past `10FFFF` are refused.

`universalNewlines` turns `\r\n` and lone `\r` into `\n`, as text read from a file is seen.
-/

namespace CodingAgent.Text

/-- The UTF-8 bytes of one code point. -/
def codeBytes (n : Nat) : List UInt8 :=
  if n < 0x80 then [n.toUInt8]
  else if n < 0x800 then [(0xC0 + n / 0x40).toUInt8, (0x80 + n % 0x40).toUInt8]
  else if n < 0x10000 then
    [(0xE0 + n / 0x1000).toUInt8, (0x80 + n / 0x40 % 0x40).toUInt8, (0x80 + n % 0x40).toUInt8]
  else
    [(0xF0 + n / 0x40000).toUInt8, (0x80 + n / 0x1000 % 0x40).toUInt8,
      (0x80 + n / 0x40 % 0x40).toUInt8, (0x80 + n % 0x40).toUInt8]

/-- The bytes of text in UTF-8, code point by code point. -/
def encodeUtf8 (s : String) : List UInt8 :=
  (codePoints s.toList).flatMap codeBytes

/-- Why bytes are not UTF-8. -/
inductive Utf8Fault where
  | invalidStart
  | invalidContinuation
  | unexpectedEnd
  deriving DecidableEq

/-- The reason as a decoder states it. -/
def Utf8Fault.reason : Utf8Fault → String
  | .invalidStart => "invalid start byte"
  | .invalidContinuation => "invalid continuation byte"
  | .unexpectedEnd => "unexpected end of data"

/-- Where and why bytes are not UTF-8: the range `[start, stop)` and the first byte. -/
structure Utf8Error where
  fault : Utf8Fault
  start : Nat
  stop : Nat
  firstByte : UInt8

/-- Two lower-case hex digits of a byte. -/
def byteHex (b : UInt8) : String :=
  let ds := Nat.toDigits 16 b.toNat
  String.ofList (List.replicate (2 - ds.length) '0' ++ ds)

/-- The message of a decoding error. -/
def Utf8Error.message (e : Utf8Error) : String :=
  let place := if e.stop - e.start ≤ 1 then
      "byte 0x" ++ byteHex e.firstByte ++ " in position " ++ toString e.start
    else "bytes in position " ++ toString e.start ++ "-" ++ toString (e.stop - 1)
  "'utf-8' codec can't decode " ++ place ++ ": " ++ e.fault.reason

/-- For a start byte: how many continuation bytes follow, and the range of the first one. -/
def startShape (b : Nat) : Option (Nat × Nat × Nat) :=
  if b ≤ 0x7F then some (0, 0x80, 0xBF)
  else if 0xC2 ≤ b && b ≤ 0xDF then some (1, 0x80, 0xBF)
  else if b == 0xE0 then some (2, 0xA0, 0xBF)
  else if 0xE1 ≤ b && b ≤ 0xEC then some (2, 0x80, 0xBF)
  else if b == 0xED then some (2, 0x80, 0x9F)
  else if 0xEE ≤ b && b ≤ 0xEF then some (2, 0x80, 0xBF)
  else if b == 0xF0 then some (3, 0x90, 0xBF)
  else if 0xF1 ≤ b && b ≤ 0xF3 then some (3, 0x80, 0xBF)
  else if b == 0xF4 then some (3, 0x80, 0x8F)
  else none

/-- How many of the bytes `tail` continue a character whose first continuation lies in
`[low, high]`, looking at no more than `want` of them. -/
def validTails (want low high : Nat) : List UInt8 → Nat
  | [] => 0
  | t :: rest =>
    if want == 0 then 0
    else if low ≤ t.toNat && t.toNat ≤ high then 1 + validTails (want - 1) 0x80 0xBF rest
    else 0

/-- The code point of a start byte and its continuation bytes. -/
def codePoint (b : Nat) (tails : List UInt8) : Nat :=
  let lead := if tails.length == 0 then b
    else if tails.length == 1 then b % 0x20
    else if tails.length == 2 then b % 0x10
    else b % 0x08
  tails.foldl (fun acc t => acc * 64 + t.toNat % 64) lead

/-- Whether bytes begin with the three bytes of a surrogate's code (`ED A0 80` to
`ED BF BF`). -/
def startsWithSurrogate : List UInt8 → Bool
  | b :: c :: d :: _ =>
    b == 0xED && 0xA0 ≤ c.toNat && c.toNat ≤ 0xBF && 0x80 ≤ d.toNat && d.toNat ≤ 0xBF
  | _ => false

/-- Decode bytes that begin at position `pos`, characters so far in `acc` (last first).
With `pass`, the three bytes of a surrogate's code, where a strict decoder would stop, are
read as that surrogate. -/
def decodeFrom (pass : Bool) : List UInt8 → Nat → List Char → Except Utf8Error (List Char)
  | [], _, acc => .ok acc.reverse
  | b :: rest, pos, acc =>
    match startShape b.toNat with
    | none => .error ⟨.invalidStart, pos, pos + 1, b⟩
    | some (want, low, high) =>
      let good := validTails want low high rest
      if good == want then
        let tails := rest.take want
        decodeFrom pass (rest.drop want) (pos + 1 + want) (pushCode acc (codePoint b.toNat tails))
      else if pass && startsWithSurrogate (b :: rest) then
        decodeFrom pass (rest.drop 2) (pos + 3) (pushCode acc (codePoint b.toNat (rest.take 2)))
      else if good == rest.length then
        .error ⟨.unexpectedEnd, pos, pos + 1 + good, b⟩
      else .error ⟨.invalidContinuation, pos, pos + 1 + good, b⟩
termination_by bs => bs.length
decreasing_by
  all_goals simp only [List.length_cons, List.length_drop]
  all_goals omega

/-- Text from UTF-8 bytes. -/
def decodeUtf8 (bytes : List UInt8) : Except Utf8Error String :=
  (decodeFrom false bytes 0 []).map String.ofList

/-- Text from UTF-8 bytes in which the codes of surrogates stand for surrogates. -/
def decodeUtf8Passing (bytes : List UInt8) : Except Utf8Error String :=
  (decodeFrom true bytes 0 []).map String.ofList

/-- Decode bytes, characters so far in `acc` (last first), with every place that is not
UTF-8 read as one replacement character: an invalid start byte alone, or a start byte with
the continuation bytes that were valid after it. -/
def replacingFrom : List UInt8 → List Char → List Char
  | [], acc => acc.reverse
  | b :: rest, acc =>
    match startShape b.toNat with
    | none => replacingFrom rest ('\uFFFD' :: acc)
    | some (want, low, high) =>
      let good := validTails want low high rest
      if good == want then
        replacingFrom (rest.drop want) (pushCode acc (codePoint b.toNat (rest.take want)))
      else replacingFrom (rest.drop good) ('\uFFFD' :: acc)
termination_by bs => bs.length
decreasing_by
  all_goals simp only [List.length_cons, List.length_drop]
  all_goals omega

/-- Text from bytes that may not all be UTF-8, each bad place replaced by U+FFFD. -/
def decodeReplacing (bytes : List UInt8) : String :=
  String.ofList (replacingFrom bytes [])

/-- Line ends as text read from a file sees them: `\r\n` and `\r` become `\n`. -/
def newlinesOf : List Char → List Char
  | [] => []
  | '\r' :: '\n' :: rest => '\n' :: newlinesOf rest
  | '\r' :: rest => '\n' :: newlinesOf rest
  | c :: rest => c :: newlinesOf rest

/-- Text with universal line ends. -/
def universalNewlines (s : String) : String :=
  String.ofList (newlinesOf s.toList)

end CodingAgent.Text
