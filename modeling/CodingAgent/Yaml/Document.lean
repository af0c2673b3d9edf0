import CodingAgent.Yaml.Construct

/-!
# Loading one YAML document

A text is loaded in three stages: it is scanned and parsed into events, the events are
composed into a node graph with resolved tags, and the graph is constructed into data.
As the text is read, it is checked for code points a document may not hold: controls
other than tab, line feed, carriage return and next line, the C1 controls, surrogates, and
`U+FFFE` and `U+FFFF`.

The stream must hold at most one document; an empty stream has none.
-/

namespace CodingAgent.Yaml

/-- Whether a code point may stand in a document: tab, line feed, carriage return, next
line and the printable ranges (no other controls, no surrogates, not `U+FFFE` or `U+FFFF`). -/
def isDocumentCode (n : Nat) : Bool :=
  n == 0x09 || n == 0x0A || n == 0x0D || (0x20 ≤ n && n ≤ 0x7E) || n == 0x85 ||
    (0xA0 ≤ n && n ≤ 0xD7FF) || (0xE000 ≤ n && n ≤ 0xFFFD) || (0x10000 ≤ n && n ≤ 0x10FFFF)

/-- The data of a document: the heap and the index of the root datum. -/
structure Document where
  heap : Array Datum
  root : Nat

/-- The datum at an index of the heap. -/
def Document.at (d : Document) (r : Nat) : Datum :=
  d.heap.getD r default

/-- Load the one document of the text of a file, if it has one. The text is read as code
points with universal line ends; a code point the document may not hold is an error once the
reader buffers it, and the first buffer holds up to two chunks. -/
def loadDocument (text : String) : Except YamlError (Option Document) := do
  let codes := CodingAgent.Text.codePoints (CodingAgent.Text.universalNewlines text).toList
  let chars := (codes.map Char.ofNat).toArray
  let firstUnprintable := (codes.zipIdx.find? (fun (n, _) => !isDocumentCode n)).map
    (fun (n, i) => (i, n))
  if let some (i, code) := firstUnprintable then
    if i < Reader.initialLoad chars.size then throw (.unacceptable code i)
  let (nodes, root) ← composeText (Reader.start (TextFile.ofText text) chars firstUnprintable loaderDepth)
  match root with
  | none => return none
  | some r =>
    let (heap, d) ← constructData nodes r
    return some ⟨heap, d⟩

end CodingAgent.Yaml
