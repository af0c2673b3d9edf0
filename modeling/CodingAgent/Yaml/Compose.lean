import CodingAgent.Yaml.Parser
import CodingAgent.Yaml.Resolve

/-!
# Composing events into a node graph

The composer builds the representation graph of a document from its events: scalar,
sequence and mapping nodes, each with its resolved tag and the places it spans. Nodes live
in an array and refer to each other by index; an alias is the index of the node its anchor
names, so a node may be reached from several places, and a collection may even contain
itself.

An anchor names the node it stands on from that point on: an alias to an anchor not yet
seen is an error, and so is an anchor used twice. Only one document is allowed; a second
one is an error where it starts.

Composing a node is a step on the reader's stack, and so is composing what a collection
holds, so the stack grows with the nesting of the document: a document nested deeper than
the stack allows fails with `RecursionError`.
-/

namespace CodingAgent.Yaml

/-- What a node holds. -/
inductive NodeBody where
  | scalar (value : String)
  | sequence (items : List Nat)
  /-- The pairs of a mapping, keys and values as node indices, in document order. -/
  | mapping (pairs : List (Nat × Nat))

/-- How errors name a kind of node. -/
def NodeBody.id : NodeBody → String
  | .scalar _ => "scalar"
  | .sequence _ => "sequence"
  | .mapping _ => "mapping"

/-- A node: its tag, what it holds, and the places it spans. -/
structure Node where
  tag : String
  body : NodeBody
  start : Mark
  stop : Mark

instance : Inhabited Node :=
  ⟨⟨standardTag "null", .scalar "", default, default⟩⟩

/-- The state of a composer. -/
structure Composer where
  parser : Parser
  nodes : Array Node := #[]
  anchors : List (String × Nat) := []

instance : Reading Composer :=
  ⟨fun c => Reading.reader c.parser,
   fun c r => { c with parser := Reading.withReader c.parser r }⟩

/-- A computation of the composer. -/
abbrev ComposeM := ReadM Composer

/-- Run a computation of the parser inside the composer. -/
def liftParse (m : ParseM α) : ComposeM α := fun c =>
  match m.run c.parser with
  | .ok (a, p) => .ok (a, { c with parser := p })
  | .error e => .error e

/-- The event after the end of the stream, which is never asked for; it would read as
another end of the stream. -/
def pastStreamEnd : ComposeM Event := do
  let m := (← get).parser.scanner.mark
  return ⟨.streamEnd, m, m⟩

/-- The next event, left in place. -/
def nextEvent : ComposeM Event := do
  match ← liftParse peekEvent with
  | some e => return e
  | none => pastStreamEnd

/-- Take the next event. -/
def popEvent : ComposeM Event := do
  match ← liftParse takeEvent with
  | some e => return e
  | none => pastStreamEnd

/-- Whether the next event is of a kind. -/
def nextIs (p : EventKind → Bool) : ComposeM Bool :=
  liftParse (checkEvent p)

/-- Whether an event is the end of the stream. -/
def EventKind.isStreamEnd : EventKind → Bool
  | .streamEnd => true
  | _ => false

/-- Whether an event is an alias. -/
def EventKind.isAlias : EventKind → Bool
  | .alias _ => true
  | _ => false

/-- Whether an event is a scalar. -/
def EventKind.isScalar : EventKind → Bool
  | .scalar .. => true
  | _ => false

/-- Whether an event starts a sequence. -/
def EventKind.isSequenceStart : EventKind → Bool
  | .sequenceStart .. => true
  | _ => false

/-- Whether an event starts a mapping. -/
def EventKind.isMappingStart : EventKind → Bool
  | .mappingStart .. => true
  | _ => false

/-- Whether an event ends a sequence. -/
def EventKind.isSequenceEnd : EventKind → Bool
  | .sequenceEnd => true
  | _ => false

/-- Whether an event ends a mapping. -/
def EventKind.isMappingEnd : EventKind → Bool
  | .mappingEnd => true
  | _ => false

/-- Fail with a composer error, built as a record. -/
def composeError (context : Option String) (contextMark : Option Mark) (problem : String)
    (problemMark : Mark) : ComposeM α := do
  construct
  throw (.marked "ComposerError" context contextMark problem (some problemMark))

/-- Add a node and name it by its anchor. -/
def addNode (anchor : Option String) (n : Node) : ComposeM Nat := do
  let c ← get
  let i := c.nodes.size
  set { c with nodes := c.nodes.push n,
               anchors := match anchor with
                 | some a => c.anchors ++ [(a, i)]
                 | none => c.anchors }
  return i

/-- Fill in what a collection node holds and where it ends. -/
def finishNode (i : Nat) (body : NodeBody) (stop : Mark) : ComposeM Unit :=
  let finish (n : Node) : Node := { n with body := body, stop := stop }
  modify fun c => { c with nodes := c.nodes.modify i finish }

/-- The tag of a node: its own, or the one resolved (a step) when it has none or the
non-specific `!`. -/
def nodeTag (tag : Option String) (resolved : String) : ComposeM String := do
  match tag with
  | some t => if t != "!" then return t
  | none => pure ()
  leafStep
  return resolved

/-- The bound on the entries of one collection: every entry takes a character. -/
def entryBound : ComposeM Nat := do
  return (← get).parser.scanner.chars.size + 2

/-- Compose a node and what it holds (a step). The stack bounds the nesting well before
`fuel` runs out. -/
def composeNode : Nat → ComposeM Nat
  | 0 => throw (.conversion "RecursionError" (Overflow.message .step))
  | fuel + 1 => step do
    if ← nextIs EventKind.isAlias then
      let e ← popEvent
      let name := match e.kind with
        | .alias a => a
        | _ => ""
      match (← get).anchors.lookup name with
      | some i => return i
      | none =>
        composeError none none ("found undefined alias " ++ CodingAgent.Json.quoted name) e.start
    let e ← nextEvent
    let anchor := match e.kind with
      | .scalar a .. | .sequenceStart a .. | .mappingStart a .. => a
      | _ => none
    if let some a := anchor then
      if let some first := (← get).anchors.lookup a then
        let firstMark := ((← get).nodes.getD first default).start
        construct
        throw (.marked "ComposerError"
          (some ("found duplicate anchor " ++ CodingAgent.Json.quoted a ++ "; first occurrence"))
          (some firstMark) "second occurrence" (some e.start))
    leafStep
    let i ← do
      if ← nextIs EventKind.isScalar then scalarNode anchor
      else if ← nextIs EventKind.isSequenceStart then sequenceNode fuel anchor
      else if ← nextIs EventKind.isMappingStart then mappingNode fuel anchor
      else addNode none ⟨standardTag "null", .scalar "", e.start, e.stop⟩
    leafStep
    return i
where
  /-- A scalar node (a step). -/
  scalarNode (anchor : Option String) : ComposeM Nat := step do
    let e ← popEvent
    match e.kind with
    | .scalar _ tag plainImplicit _ value =>
      let resolved := if plainImplicit then implicitTag value else standardTag "str"
      let tag ← nodeTag tag resolved
      construct
      addNode anchor ⟨tag, .scalar value, e.start, e.stop⟩
    | _ => addNode none ⟨standardTag "null", .scalar "", e.start, e.stop⟩
  /-- A sequence node and its items (a step). -/
  sequenceNode (fuel : Nat) (anchor : Option String) : ComposeM Nat := step do
    let e ← popEvent
    let tag ← match e.kind with
      | .sequenceStart _ tag _ => nodeTag tag (standardTag "seq")
      | _ => pure (standardTag "seq")
    construct
    let i ← addNode anchor ⟨tag, .sequence [], e.start, e.stop⟩
    let mut items : List Nat := []
    for _ in [0:← entryBound] do
      if ← nextIs EventKind.isSequenceEnd then break
      items := items ++ [← composeNode fuel]
    let stop := (← popEvent).stop
    finishNode i (.sequence items) stop
    return i
  /-- A mapping node and its pairs (a step). -/
  mappingNode (fuel : Nat) (anchor : Option String) : ComposeM Nat := step do
    let e ← popEvent
    let tag ← match e.kind with
      | .mappingStart _ tag _ => nodeTag tag (standardTag "map")
      | _ => pure (standardTag "map")
    construct
    let i ← addNode anchor ⟨tag, .mapping [], e.start, e.stop⟩
    let mut pairs : List (Nat × Nat) := []
    for _ in [0:← entryBound] do
      if ← nextIs EventKind.isMappingEnd then break
      let key ← composeNode fuel
      let value ← composeNode fuel
      pairs := pairs ++ [(key, value)]
    let stop := (← popEvent).stop
    finishNode i (.mapping pairs) stop
    return i

/-- Compose a document: its root node (a step). -/
def composeDocument : ComposeM Nat := step do
  discard popEvent
  let root ← composeNode stackLimit
  discard popEvent
  modify fun c => { c with anchors := [] }
  return root

/-- Compose the one document of a stream, if there is one: its root node (a step). -/
def composeSingle : ComposeM (Option Nat) := step do
  discard popEvent
  let root ← if ← nextIs EventKind.isStreamEnd then pure none
    else some <$> composeDocument
  if !(← nextIs EventKind.isStreamEnd) then
    let e ← popEvent
    let nodes := (← get).nodes
    let rootMark := root.map (fun i => (nodes.getD i default).start)
    construct
    throw (.marked "ComposerError" (some "expected a single document in the stream") rootMark
      "but found another document" (some e.start))
  discard popEvent
  return root

/-- The node graph of a text's one document, and its root if it has one. -/
def composeText (r : Reader) : Except YamlError (Array Node × Option Nat) :=
  match composeSingle.run { parser := Parser.start r } with
  | .ok (root, c) => .ok (c.nodes, root)
  | .error e => .error e

end CodingAgent.Yaml
