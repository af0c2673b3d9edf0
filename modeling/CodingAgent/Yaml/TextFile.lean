import CodingAgent.Text.Utf8

/-!
# The file a document is read from

A document is read from a UTF-8 file through a text stream with universal line ends. The
stream decodes the file's bytes chunk by chunk and keeps the characters decoded and not yet
read; a read takes those first and decodes further chunks only while it still wants more.
Whether a read decodes a chunk matters to the loader, because decoding one costs levels of
the stack (see `Yaml.fetchChunk`); which characters a read returns does not depend on it.

A chunk is at least 8192 bytes, more when the read wants more characters than that at the
bytes per character of the last chunk. The decoder keeps the start of a character split by a
chunk's end, and holds back a final carriage return until the next chunk shows whether a line
feed follows it; a carriage return with a line feed counts as one character.
-/

namespace CodingAgent.Yaml

/-- The fewest bytes the stream decodes at a time. -/
def chunkBytes : Nat := 8192

/-- A text file open for reading. -/
structure TextFile where
  /-- The bytes of the file. -/
  bytes : Array UInt8
  /-- The bytes decoded so far. -/
  position : Nat := 0
  /-- The start of a character that the last chunk split. -/
  held : List UInt8 := []
  /-- A carriage return held back at the end of the last chunk. -/
  pendingReturn : Bool := false
  /-- The characters decoded and not yet read. -/
  decoded : Nat := 0
  /-- The bytes per character of the last chunk, `0` when it gave none. -/
  ratio : Float := 0.0

namespace TextFile

/-- The length of the UTF-8 sequence a byte starts. -/
def sequenceLength (b : UInt8) : Nat :=
  if b < 0x80 then 1 else if b < 0xE0 then 2 else if b < 0xF0 then 3 else 4

/-- The complete characters of some bytes, line ends marked (`13` a carriage return, `10` a
line feed, `0` any other), and the bytes of a character left incomplete at their end. -/
def characters : List UInt8 → List Nat × List UInt8
  | [] => ([], [])
  | b :: rest =>
    let k := sequenceLength b
    if k ≤ rest.length + 1 then
      let (cs, held) := characters (rest.drop (k - 1))
      ((if b == 13 then 13 else if b == 10 then 10 else 0) :: cs, held)
    else ([], b :: rest)
termination_by bytes => bytes.length

/-- The number of carriage returns followed by a line feed. -/
def returnFeeds : List Nat → Nat
  | 13 :: 10 :: rest => 1 + returnFeeds rest
  | _ :: rest => returnFeeds rest
  | [] => 0

/-- Decode the next chunk for a read that still wants `wanted` characters. The answer says
whether the file may give more: false once a chunk is empty and gives no character. -/
def decodeChunk (f : TextFile) (wanted : Nat) : TextFile × Bool :=
  let hint := ((max f.ratio 1.0) * wanted.toFloat).toUInt64.toNat
  let input := (f.bytes.extract f.position (f.position + max chunkBytes hint)).toList
  let final := input.isEmpty
  let (cs, held) := characters (f.held ++ input)
  let (cs, pending) :=
    if f.pendingReturn && (final || !cs.isEmpty) then (13 :: cs, false)
    else (cs, f.pendingReturn)
  let (cs, pending) :=
    if !final && cs.getLast? == some 13 then (cs.dropLast, true) else (cs, pending)
  let count := cs.length - returnFeeds cs
  let ratio := if count > 0 then input.length.toFloat / count.toFloat else 0.0
  let next := { f with
    position := f.position + input.length, held, pendingReturn := pending, decoded := count,
    ratio }
  (next, !(final && count == 0))

/-- Read up to `wanted` more characters, decoding chunks while the decoded ones fall short;
at most `fuel` chunks. The answer says how many characters were read. -/
def readFor (wanted : Nat) : Nat → TextFile → Nat × TextFile
  | 0, f => (0, f)
  | fuel + 1, f =>
    if wanted == 0 then (0, f)
    else
      let (f, more) := f.decodeChunk wanted
      if !more then (0, f)
      else
        let got := min f.decoded wanted
        let (rest, f) := readFor (wanted - got) fuel { f with decoded := f.decoded - got }
        (got + rest, f)

/-- Read up to `n` characters. The answer says how many were read and whether a chunk was
decoded for them. -/
def read (f : TextFile) (n : Nat) : Nat × Bool × TextFile :=
  let got := min f.decoded n
  let f := { f with decoded := f.decoded - got }
  if got == n then (got, false, f)
  else
    let (more, f) := readFor (n - got) (f.bytes.size - f.position + 3) f
    (got + more, true, f)

/-- A file with the UTF-8 bytes of a text, open at its start. -/
def ofText (text : String) : TextFile :=
  { bytes := (CodingAgent.Text.encodeUtf8 text).toArray }

end TextFile

end CodingAgent.Yaml
