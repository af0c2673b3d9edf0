import CodingAgent.Yaml.Error
import CodingAgent.Yaml.TextFile
import CodingAgent.Text.CodePoints

/-!
# Reading a YAML document: the text, the buffer and the stack of steps

The loader reads a document as a sequence of code points, keeping a place (the index of the
next code point) with its line and column.

The text comes from a file read in chunks of 4096 code points. Opening the document reads
two chunks, and everything read is put in the buffer; once the file reports its end the
buffer also holds an end marker. Later, a step that needs more code points than the buffer
holds past the place refills it: it reads further chunks until enough are buffered or the
file ends. Every chunk put in the buffer is first searched for a code point a document may
not hold, so such a code point is reported only once the reading reaches its chunk.

Loading runs as *nested steps* on a stack of at most `stackLimit` levels, which it shares
with the calls of the program that asked for the document (`loaderDepth` of them). A step
(peeking at the text, moving over it, marking a place, scanning a token, parsing an event,
composing a node) takes one level while it runs. Building a record (a mark, a token, an
event, a node, a possible simple key, an error) takes one level for the constructor call and
one more for its initializer. Searching a chunk is a primitive call, one level, and so is
the comparison that tests a refill's progress. Reading from the file costs nothing more
unless the file decodes a chunk of bytes for it (`TextFile.read`); then it costs a call and
a step, as building a record does.
Whatever would go past the limit fails with `RecursionError`; the message says whether a
step, a call or a comparison overflowed.

The reader's own operations are such steps: `peekChar`, `prefixOf`, `advance` and
`currentMark`; the first three refill the buffer when they need to look beyond it.
-/

namespace CodingAgent.Yaml

/-- The most levels that steps may nest. -/
def stackLimit : Nat := 1000

/-- The levels taken when the program asks the loader for its document: the program's own
calls and the loader's entry calls. -/
def loaderDepth : Nat := 8

/-- How many code points a read of the file returns at most. -/
def chunkSize : Nat := 4096

/-- What went past the limit of the stack. -/
inductive Overflow where
  /-- A step. -/
  | step
  /-- A constructor or a primitive call. -/
  | call
  /-- A comparison. -/
  | comparison

/-- The message of an overflow. -/
def Overflow.message : Overflow → String
  | .step => "maximum recursion depth exceeded"
  | .call => "maximum recursion depth exceeded while calling a Python object"
  | .comparison => "maximum recursion depth exceeded in comparison"

/-- The state of reading a text. -/
structure Reader where
  /-- The code points of the text. -/
  chars : Array Char
  /-- The index of the next code point. -/
  pointer : Nat := 0
  line : Nat := 0
  column : Nat := 0
  /-- The code points in the buffer, counted from the start of the text, with the end
  marker once the text is complete. -/
  buffered : Nat
  /-- The file the text is read from. -/
  file : TextFile
  /-- The code points read from the file. -/
  fetched : Nat
  /-- The file has reported its end. -/
  drained : Bool
  /-- The buffer holds the whole text and the end marker. -/
  complete : Bool
  /-- The first code point that a document may not hold: its place and its value. -/
  firstUnprintable : Option (Nat × Nat)
  /-- The levels of the stack in use. -/
  depth : Nat

namespace Reader

/-- The code points buffered when a text of `n` code points is opened: two chunks (all of a
text of at most one chunk). -/
def initialLoad (n : Nat) : Nat :=
  if n ≤ chunkSize then n else min n (2 * chunkSize)

/-- A reader at the start of the code points `chars` of the text of a file, with the stack at
`depth`; the first code point the text may not hold is given. A text of at most one chunk is
complete at once; a longer one has two chunks buffered. -/
def start (file : TextFile) (chars : Array Char) (firstUnprintable : Option (Nat × Nat))
    (depth : Nat) : Reader :=
  let n := chars.size
  if n ≤ chunkSize then
    { chars, file, buffered := n + 1, fetched := n, drained := true, complete := true,
      firstUnprintable, depth }
  else
    let (_, _, file) := file.read chunkSize
    let (_, _, file) := file.read chunkSize
    let f := initialLoad n
    { chars, file, buffered := f, fetched := f, drained := false, complete := false,
      firstUnprintable, depth }

/-- The code point `k` places ahead; past the end it is `\x00`. -/
def peekAt (r : Reader) (k : Nat) : Char :=
  r.chars.getD (r.pointer + k) '\x00'

/-- The next `n` code points, as text. -/
def prefixText (r : Reader) (n : Nat) : String :=
  CodingAgent.Text.ofCodePoints ((List.range n).map (fun k => (r.peekAt k).toNat))

/-- The current place. -/
def mark (r : Reader) : Mark :=
  ⟨r.pointer, r.line, r.column⟩

/-- The number of code points left. -/
def remaining (r : Reader) : Nat :=
  r.chars.size - r.pointer

/-- Move over one code point, counting lines and columns. -/
def forwardOne (r : Reader) : Reader :=
  let ch := r.peekAt 0
  let r := { r with pointer := r.pointer + 1 }
  if ch == '\n' || ch == '\x85' || ch == '\u2028' || ch == '\u2029' ||
      (ch == '\r' && r.peekAt 0 != '\n') then
    { r with line := r.line + 1, column := 0 }
  else if ch != '\uFEFF' then { r with column := r.column + 1 }
  else r

/-- Move over `n` code points. -/
def forwardBy (r : Reader) : Nat → Reader
  | 0 => r
  | n + 1 => r.forwardOne.forwardBy n

end Reader

/-- States that hold a reader: the scanner, the parser and the composer. -/
class Reading (σ : Type) where
  reader : σ → Reader
  withReader : σ → Reader → σ

instance : Reading Reader := ⟨id, fun _ r => r⟩

/-- A computation over a state that holds a reader. -/
abbrev ReadM (σ : Type) := StateT σ (Except YamlError)

section Steps

variable {σ : Type} [Reading σ]

/-- The reader of the state. -/
def readerNow : ReadM σ Reader := do
  return Reading.reader (← get)

/-- Change the reader of the state. -/
def updateReader (f : Reader → Reader) : ReadM σ Unit :=
  modify fun s => Reading.withReader s (f (Reading.reader s))

/-- Fail unless `levels` more levels fit on the stack. -/
def ensureRoom (levels : Nat) (o : Overflow) : ReadM σ Unit := do
  if (← readerNow).depth + levels > stackLimit then
    throw (.conversion "RecursionError" o.message)

/-- Run `body` as a step, one level deeper. -/
def step {α : Type} (body : ReadM σ α) : ReadM σ α := do
  ensureRoom 1 .step
  updateReader fun r => { r with depth := r.depth + 1 }
  let a ← body
  updateReader fun r => { r with depth := r.depth - 1 }
  return a

/-- A step that takes no further step. -/
def leafStep : ReadM σ Unit :=
  ensureRoom 1 .step

/-- Build a record: the constructor call and its initializer. -/
def construct : ReadM σ Unit := do
  ensureRoom 1 .call
  ensureRoom 2 .step

/-- A primitive call. -/
def primitive : ReadM σ Unit :=
  ensureRoom 1 .call

/-- Read the next chunk of the file (a step); a read for which the file decodes bytes costs
a call and a step more. -/
def fetchChunk : ReadM σ Unit := step do
  let (_, decoding, file) := (← readerNow).file.read chunkSize
  if decoding then
    ensureRoom 1 .call
    ensureRoom 2 .step
  updateReader fun r =>
    let got := min chunkSize (r.chars.size - r.fetched)
    if got == 0 then { r with file, drained := true }
    else { r with file, fetched := r.fetched + got }

/-- Search the code points read and not yet buffered (a step around the primitive search),
then buffer them; one that a document may not hold is an error at its place. -/
def bufferFetched : ReadM σ Unit := step do
  primitive
  let r ← readerNow
  if let some (i, code) := r.firstUnprintable then
    if r.buffered ≤ i && i < r.fetched then
      construct
      throw (.unacceptable code i)
  updateReader fun r => { r with buffered := r.fetched }

/-- Refill the buffer until it holds `length` code points from the place (a step). Each
round tests its progress with a comparison, reads a chunk unless the file has ended, and
buffers what was read; once the file has ended the end marker closes the buffer. -/
def refill (length : Nat) : ReadM σ Unit := step do
  if (← readerNow).complete then return
  go ((← readerNow).chars.size / chunkSize + 2)
where
  go : Nat → ReadM σ Unit
    | 0 => pure ()
    | fuel + 1 => do
      ensureRoom 1 .comparison
      let r ← readerNow
      if r.buffered - r.pointer ≥ length then return
      if !r.drained then fetchChunk
      bufferFetched
      if (← readerNow).drained then
        updateReader fun r => { r with buffered := r.buffered + 1, complete := true }
      else go fuel

/-- The code point `k` places ahead (a step); looking beyond the buffer refills it. -/
def peekChar (k : Nat := 0) : ReadM σ Char := step do
  let r ← readerNow
  if r.pointer + k ≥ r.buffered then refill (k + 1)
  return (← readerNow).peekAt k

/-- The next `n` code points as text (a step); reaching the end of the buffer refills it. -/
def prefixOf (n : Nat) : ReadM σ String := step do
  let r ← readerNow
  if r.pointer + n ≥ r.buffered then refill n
  return (← readerNow).prefixText n

/-- Move over `n` code points (a step); the buffer must hold one more beyond them. -/
def advance (n : Nat := 1) : ReadM σ Unit := step do
  let r ← readerNow
  if r.pointer + n + 1 ≥ r.buffered then refill (n + 1)
  updateReader (·.forwardBy n)

/-- The current place (a step that builds the mark). -/
def currentMark : ReadM σ Mark := step do
  construct
  return (← readerNow).mark

end Steps

end CodingAgent.Yaml
