import CodingAgent.Yaml.Scanner

/-!
# Parsing tokens into events

The parser turns the token stream into a stream of events: the start and end of the stream,
of each document, of each sequence and mapping, and the scalars and aliases in between, in
document order. It is a pushdown machine: the current phase says what may come next, and a
stack of phases says where to return when a node is done. Each call to the parser runs one
phase and produces one event.

A node may carry an anchor and a tag, in either order. A tag is written with a handle
(`!`, `!!`, or one declared by a `%TAG` directive) that stands for a prefix; a tag without
a handle is taken as it is. A node with an anchor or a tag and no content is an empty
scalar, and so is a missing key or value.

Whether a scalar's tag is to be resolved from its text is recorded with the scalar: a
plain scalar without a tag (or with the non-specific tag `!`) is resolved as a plain
scalar, a quoted one without a tag as a text.

Each phase, and each way of handing out an event, is a step on the reader's stack; a phase
asks the scanner about the next token through the scanner's steps (a check, a peek or a
take) and builds its event as a record.
-/

namespace CodingAgent.Yaml

/-- What an event is. -/
inductive EventKind where
  | streamStart
  | streamEnd
  | documentStart (explicit : Bool)
  | documentEnd (explicit : Bool)
  | alias (anchor : String)
  /-- A scalar: its anchor and tag; whether its tag is to be resolved as that of a plain
  scalar, or else as that of a quoted one; and its text. -/
  | scalar (anchor tag : Option String) (plainImplicit quotedImplicit : Bool) (value : String)
  | sequenceStart (anchor tag : Option String) (implicit : Bool)
  | sequenceEnd
  | mappingStart (anchor tag : Option String) (implicit : Bool)
  | mappingEnd

/-- An event and where it starts and ends. -/
structure Event where
  kind : EventKind
  start : Mark
  stop : Mark

/-- The phases of the parser: what it reads next. -/
inductive Phase where
  | streamStart
  | implicitDocumentStart
  | documentStart
  | documentEnd
  | documentContent
  | blockNode
  | blockSequenceFirstEntry
  | blockSequenceEntry
  | indentlessSequenceEntry
  | blockMappingFirstKey
  | blockMappingKey
  | blockMappingValue
  | flowSequenceFirstEntry
  | flowSequenceEntry
  | flowSequenceEntryMappingKey
  | flowSequenceEntryMappingValue
  | flowSequenceEntryMappingEnd
  | flowMappingFirstKey
  | flowMappingKey
  | flowMappingValue
  | flowMappingEmptyValue

/-- The tag handles every document has unless it declares them otherwise. -/
def defaultTagHandles : List (String × String) :=
  [("!", "!"), ("!!", "tag:yaml.org,2002:")]

/-- The state of a parser. -/
structure Parser where
  scanner : Scanner
  /-- The phase to run next; none once the stream has ended. -/
  phase : Option Phase := some .streamStart
  /-- Where to return when the current node is done, innermost first. -/
  phases : List Phase := []
  /-- Where the open collections start, innermost first. -/
  marks : List Mark := []
  /-- An event produced and not yet taken. -/
  current : Option Event := none
  tagHandles : List (String × String) := defaultTagHandles
  version : Option (Nat × Nat) := none

instance : Reading Parser :=
  ⟨fun p => p.scanner.toReader, fun p r => { p with scanner := { p.scanner with toReader := r } }⟩

/-- A computation of the parser. -/
abbrev ParseM := ReadM Parser

/-- Run a computation of the scanner inside the parser. -/
def liftScan (m : ScanM α) : ParseM α := fun p =>
  match m.run p.scanner with
  | .ok (a, s) => .ok (a, { p with scanner := s })
  | .error e => .error e

/-- The token after the end of the stream, which is never asked for; it would read as
another end of the stream. -/
def pastEnd : ParseM Token := do
  let m := (← get).scanner.mark
  return ⟨.streamEnd, m, m⟩

/-- The next token, left in place. -/
def peekTok : ParseM Token := do
  match ← liftScan peekToken with
  | some t => return t
  | none => pastEnd

/-- Take the next token. -/
def takeTok : ParseM Token := do
  match ← liftScan takeToken with
  | some t => return t
  | none => pastEnd

/-- Whether the next token is of one of the kinds. -/
def checkTok (kinds : List TokenTag) : ParseM Bool :=
  liftScan (checkToken kinds)

/-- Fail with a parser error, built as a record. -/
def parseError (context : Option String) (contextMark : Option Mark) (problem : String)
    (problemMark : Mark) : ParseM α := do
  construct
  throw (.marked "ParserError" context contextMark problem (some problemMark))

/-- Go on with the phase. -/
def setPhase (ph : Phase) : ParseM Unit :=
  modify fun p => { p with phase := some ph }

/-- Remember where to return. -/
def pushPhase (ph : Phase) : ParseM Unit :=
  modify fun p => { p with phases := ph :: p.phases }

/-- Return to the phase last remembered. -/
def popPhase : ParseM Unit :=
  modify fun p => match p.phases with
    | ph :: rest => { p with phase := some ph, phases := rest }
    | [] => { p with phase := none }

/-- Remember where a collection starts. -/
def pushMark (m : Mark) : ParseM Unit :=
  modify fun p => { p with marks := m :: p.marks }

/-- Forget where the innermost collection starts. -/
def popMark : ParseM Unit :=
  modify fun p => { p with marks := p.marks.tail }

/-- Where the innermost collection starts. -/
def topMark : ParseM Mark := do
  return (← get).marks.headD default

/-- An empty scalar at a place. -/
def emptyScalar (m : Mark) : Event :=
  ⟨.scalar none none true false "", m, m⟩

/-- An empty scalar at a place, built (a step). -/
def processEmptyScalar (m : Mark) : ParseM Event := step do
  construct
  return emptyScalar m

/-- The name of an anchor or alias token. -/
def Token.anchorName (t : Token) : Option String :=
  match t.kind with
  | .anchor a | .alias a => some a
  | _ => none

/-- The handle and suffix of a tag token. -/
def Token.tagParts (t : Token) : Option (Option String × String) :=
  match t.kind with
  | .tag h s => some (h, s)
  | _ => none

/-- What comes before a node: its anchor, its tag (handle and suffix), and where they
start, end and where the tag starts. -/
structure NodeProperties where
  anchor : Option String := none
  tag : Option (Option String × String) := none
  start : Option Mark := none
  stop : Option Mark := none
  tagMark : Option Mark := none

/-- The anchor and the tag before a node, in either order. -/
def nodeProperties : ParseM NodeProperties := do
  if ← checkTok [.anchor] then
    let t ← takeTok
    let props : NodeProperties :=
      { anchor := t.anchorName, start := some t.start, stop := some t.stop }
    if ← checkTok [.tag] then
      let t ← takeTok
      return { props with tag := t.tagParts, tagMark := some t.start, stop := some t.stop }
    return props
  if ← checkTok [.tag] then
    let t ← takeTok
    let props : NodeProperties :=
      { tag := t.tagParts, start := some t.start, stop := some t.stop, tagMark := some t.start }
    if ← checkTok [.anchor] then
      let t ← takeTok
      return { props with anchor := t.anchorName, stop := some t.stop }
    return props
  return {}

/-- A node: an alias, or a scalar or the start of a collection with its anchor and tag
(a step). `block` allows block collections; `indentlessSequence` allows a sequence of `-`
entries at the indentation of the mapping it is a value of. -/
def parseNode (block indentlessSequence : Bool) : ParseM Event := step do
  if ← checkTok [.alias] then
    let t ← takeTok
    construct
    popPhase
    return ⟨.alias (t.anchorName.getD ""), t.start, t.stop⟩
  let props ← nodeProperties
  let anchor := props.anchor
  let tag ← match props.tag with
    | some (some handle, suffix) =>
      match (← get).tagHandles.lookup handle with
      | some pre => pure (some (pre ++ suffix))
      | none =>
        parseError (some "while parsing a node") props.start
          ("found undefined tag handle " ++ CodingAgent.Json.quoted handle)
          (props.tagMark.getD default)
    | some (none, suffix) => pure (some suffix)
    | none => pure none
  let (startMark, endMark) ← match props.start, props.stop with
    | some s, some e => pure (s, e)
    | _, _ => do
      let m := (← peekTok).start
      pure (m, m)
  let implicit := tag.isNone || tag == some "!"
  if indentlessSequence then
    if ← checkTok [.blockEntry] then
      let t ← peekTok
      construct
      setPhase .indentlessSequenceEntry
      return ⟨.sequenceStart anchor tag implicit, startMark, t.stop⟩
  if ← checkTok [.scalar] then
    let t ← takeTok
    let plain := match t.kind with
      | .scalar _ p _ => p
      | _ => false
    let value := match t.kind with
      | .scalar v _ _ => v
      | _ => ""
    let (plainImplicit, quotedImplicit) :=
      if (plain && tag.isNone) || tag == some "!" then (true, false)
      else if tag.isNone then (false, true)
      else (false, false)
    construct
    popPhase
    return ⟨.scalar anchor tag plainImplicit quotedImplicit value, startMark, t.stop⟩
  if ← checkTok [.flowSequenceStart] then
    let t ← peekTok
    construct
    setPhase .flowSequenceFirstEntry
    return ⟨.sequenceStart anchor tag implicit, startMark, t.stop⟩
  if ← checkTok [.flowMappingStart] then
    let t ← peekTok
    construct
    setPhase .flowMappingFirstKey
    return ⟨.mappingStart anchor tag implicit, startMark, t.stop⟩
  if block then
    if ← checkTok [.blockSequenceStart] then
      let t ← peekTok
      construct
      setPhase .blockSequenceFirstEntry
      return ⟨.sequenceStart anchor tag implicit, startMark, t.start⟩
  if block then
    if ← checkTok [.blockMappingStart] then
      let t ← peekTok
      construct
      setPhase .blockMappingFirstKey
      return ⟨.mappingStart anchor tag implicit, startMark, t.start⟩
  if anchor.isSome || tag.isSome then
    construct
    popPhase
    return ⟨.scalar anchor tag implicit false "", startMark, endMark⟩
  let t ← peekTok
  parseError (some ("while parsing a " ++ (if block then "block" else "flow") ++ " node"))
    (some startMark) ("expected the node content, but found " ++
      CodingAgent.Json.quoted t.kind.id) t.start

/-- A node in block context (a step). -/
def parseBlockNode : ParseM Event := step (parseNode true false)

/-- A node in flow context (a step). -/
def parseFlowNode : ParseM Event := step (parseNode false false)

/-- A value of a block mapping, which may be a sequence without indentation (a step). -/
def parseBlockNodeOrIndentlessSequence : ParseM Event := step (parseNode true true)

/-- The start of the stream. -/
def parseStreamStart : ParseM Event := step do
  let t ← takeTok
  construct
  setPhase .implicitDocumentStart
  return ⟨.streamStart, t.start, t.stop⟩

/-- The directives before a document; the default handles fill in those not declared. -/
def processDirectives : ParseM Unit := step do
  modify fun p => { p with version := none, tagHandles := [] }
  go ((← get).scanner.remaining + 2)
  modify fun p => { p with tagHandles := p.tagHandles ++
    defaultTagHandles.filter (fun d => (p.tagHandles.lookup d.1).isNone) }
where
  go : Nat → ParseM Unit
    | 0 => pure ()
    | fuel + 1 => do
      if ← checkTok [.directive] then
        let t ← takeTok
        match t.kind with
        | .directive "YAML" (.version major minor) =>
          if (← get).version.isSome then
            parseError none none "found duplicate YAML directive" t.start
          if major != 1 then
            parseError none none
              "found incompatible YAML document (version 1.* is required)" t.start
          modify fun p => { p with version := some (major, minor) }
        | .directive "TAG" (.tagPrefix handle pre) =>
          if ((← get).tagHandles.lookup handle).isSome then
            parseError none none ("duplicate tag handle " ++ CodingAgent.Json.quoted handle)
              t.start
          modify fun p => { p with tagHandles := p.tagHandles ++ [(handle, pre)] }
        | _ => pure ()
        go fuel

/-- Skip the document end markers that stand alone. -/
def skipDocumentEnds : ParseM Unit := do
  go ((← get).scanner.remaining + 2)
where
  go : Nat → ParseM Unit
    | 0 => pure ()
    | fuel + 1 => do
      if ← checkTok [.documentEnd] then
        discard takeTok
        go fuel

/-- The start of an explicit document, or the end of the stream. -/
def parseDocumentStart : ParseM Event := step do
  skipDocumentEnds
  if !(← checkTok [.streamEnd]) then
    let startMark := (← peekTok).start
    processDirectives
    if !(← checkTok [.documentStart]) then
      let t ← peekTok
      discard peekTok
      parseError none none
        ("expected '<document start>', but found " ++ CodingAgent.Json.quoted t.kind.id) t.start
    let t ← takeTok
    construct
    pushPhase .documentEnd
    setPhase .documentContent
    return ⟨.documentStart true, startMark, t.stop⟩
  else
    let t ← takeTok
    construct
    modify fun p => { p with phase := none }
    return ⟨.streamEnd, t.start, t.stop⟩

/-- The start of the first document, which needs no `---`. -/
def parseImplicitDocumentStart : ParseM Event := step do
  if !(← checkTok [.directive, .documentStart, .streamEnd]) then
    modify fun p => { p with tagHandles := defaultTagHandles }
    let t ← peekTok
    construct
    pushPhase .documentEnd
    setPhase .blockNode
    return ⟨.documentStart false, t.start, t.start⟩
  else parseDocumentStart

/-- The end of a document, with or without `...`. -/
def parseDocumentEnd : ParseM Event := step do
  let t ← peekTok
  let (endMark, explicit) ← if ← checkTok [.documentEnd] then do
      let t ← takeTok
      pure (t.stop, true)
    else pure (t.start, false)
  construct
  setPhase .documentStart
  return ⟨.documentEnd explicit, t.start, endMark⟩

/-- The content of an explicit document, which may be empty. -/
def parseDocumentContent : ParseM Event := step do
  if ← checkTok [.directive, .documentStart, .documentEnd, .streamEnd] then
    let e ← processEmptyScalar (← peekTok).start
    popPhase
    return e
  else parseBlockNode

/-- An entry of a block sequence, or its end. -/
def parseBlockSequenceEntry : ParseM Event := step do
  if ← checkTok [.blockEntry] then
    let t ← takeTok
    if !(← checkTok [.blockEntry, .blockEnd]) then
      pushPhase .blockSequenceEntry
      return ← parseBlockNode
    else
      setPhase .blockSequenceEntry
      return ← processEmptyScalar t.stop
  if !(← checkTok [.blockEnd]) then
    let t ← peekTok
    parseError (some "while parsing a block collection") (some (← topMark))
      ("expected <block end>, but found " ++ CodingAgent.Json.quoted t.kind.id) t.start
  let t ← takeTok
  construct
  popPhase
  popMark
  return ⟨.sequenceEnd, t.start, t.stop⟩

/-- An entry of a sequence of `-` entries without indentation, or its end. -/
def parseIndentlessSequenceEntry : ParseM Event := step do
  if ← checkTok [.blockEntry] then
    let t ← takeTok
    if !(← checkTok [.blockEntry, .key, .value, .blockEnd]) then
      pushPhase .indentlessSequenceEntry
      return ← parseBlockNode
    else
      setPhase .indentlessSequenceEntry
      return ← processEmptyScalar t.stop
  let t ← peekTok
  construct
  popPhase
  return ⟨.sequenceEnd, t.start, t.start⟩

/-- A key of a block mapping, or its end. -/
def parseBlockMappingKey : ParseM Event := step do
  if ← checkTok [.key] then
    let t ← takeTok
    if !(← checkTok [.key, .value, .blockEnd]) then
      pushPhase .blockMappingValue
      return ← parseBlockNodeOrIndentlessSequence
    else
      setPhase .blockMappingValue
      return ← processEmptyScalar t.stop
  if !(← checkTok [.blockEnd]) then
    let t ← peekTok
    parseError (some "while parsing a block mapping") (some (← topMark))
      ("expected <block end>, but found " ++ CodingAgent.Json.quoted t.kind.id) t.start
  let t ← takeTok
  construct
  popPhase
  popMark
  return ⟨.mappingEnd, t.start, t.stop⟩

/-- A value of a block mapping, which may be missing. -/
def parseBlockMappingValue : ParseM Event := step do
  if ← checkTok [.value] then
    let t ← takeTok
    if !(← checkTok [.key, .value, .blockEnd]) then
      pushPhase .blockMappingKey
      parseBlockNodeOrIndentlessSequence
    else
      setPhase .blockMappingKey
      processEmptyScalar t.stop
  else
    setPhase .blockMappingKey
    processEmptyScalar (← peekTok).start

/-- An entry of a flow sequence, or its end; entries after the first follow a `,`. An
entry with `?` is a mapping of one pair. -/
def parseFlowSequenceEntry (first : Bool) : ParseM Event := step do
  if !(← checkTok [.flowSequenceEnd]) then
    if !first then
      if ← checkTok [.flowEntry] then discard takeTok
      else
        let t ← peekTok
        parseError (some "while parsing a flow sequence") (some (← topMark))
          ("expected ',' or ']', but got " ++ CodingAgent.Json.quoted t.kind.id) t.start
    if ← checkTok [.key] then
      let t ← peekTok
      construct
      setPhase .flowSequenceEntryMappingKey
      return ⟨.mappingStart none none true, t.start, t.stop⟩
    if !(← checkTok [.flowSequenceEnd]) then
      pushPhase .flowSequenceEntry
      return ← parseFlowNode
  let t ← takeTok
  construct
  popPhase
  popMark
  return ⟨.sequenceEnd, t.start, t.stop⟩

/-- The key of a one-pair mapping inside a flow sequence. -/
def parseFlowSequenceEntryMappingKey : ParseM Event := step do
  let t ← takeTok
  if !(← checkTok [.value, .flowEntry, .flowSequenceEnd]) then
    pushPhase .flowSequenceEntryMappingValue
    parseFlowNode
  else
    setPhase .flowSequenceEntryMappingValue
    processEmptyScalar t.stop

/-- The value of a one-pair mapping inside a flow sequence. -/
def parseFlowSequenceEntryMappingValue : ParseM Event := step do
  if ← checkTok [.value] then
    let t ← takeTok
    if !(← checkTok [.flowEntry, .flowSequenceEnd]) then
      pushPhase .flowSequenceEntryMappingEnd
      parseFlowNode
    else
      setPhase .flowSequenceEntryMappingEnd
      processEmptyScalar t.stop
  else
    setPhase .flowSequenceEntryMappingEnd
    processEmptyScalar (← peekTok).start

/-- The end of a one-pair mapping inside a flow sequence. -/
def parseFlowSequenceEntryMappingEnd : ParseM Event := step do
  setPhase .flowSequenceEntry
  let t ← peekTok
  construct
  return ⟨.mappingEnd, t.start, t.start⟩

/-- A key of a flow mapping, or its end; keys after the first follow a `,`. -/
def parseFlowMappingKey (first : Bool) : ParseM Event := step do
  if !(← checkTok [.flowMappingEnd]) then
    if !first then
      if ← checkTok [.flowEntry] then discard takeTok
      else
        let t ← peekTok
        parseError (some "while parsing a flow mapping") (some (← topMark))
          ("expected ',' or '\x7d', but got " ++ CodingAgent.Json.quoted t.kind.id) t.start
    if ← checkTok [.key] then
      let t ← takeTok
      if !(← checkTok [.value, .flowEntry, .flowMappingEnd]) then
        pushPhase .flowMappingValue
        return ← parseFlowNode
      else
        setPhase .flowMappingValue
        return ← processEmptyScalar t.stop
    if !(← checkTok [.flowMappingEnd]) then
      pushPhase .flowMappingEmptyValue
      return ← parseFlowNode
  let t ← takeTok
  construct
  popPhase
  popMark
  return ⟨.mappingEnd, t.start, t.stop⟩

/-- A value of a flow mapping, which may be missing. -/
def parseFlowMappingValue : ParseM Event := step do
  if ← checkTok [.value] then
    let t ← takeTok
    if !(← checkTok [.flowEntry, .flowMappingEnd]) then
      pushPhase .flowMappingKey
      parseFlowNode
    else
      setPhase .flowMappingKey
      processEmptyScalar t.stop
  else
    setPhase .flowMappingKey
    processEmptyScalar (← peekTok).start

/-- The missing value of a flow mapping's key without `:`. -/
def parseFlowMappingEmptyValue : ParseM Event := step do
  setPhase .flowMappingKey
  processEmptyScalar (← peekTok).start

/-- The first token of a collection: remember where it starts. -/
def openCollection : ParseM Unit := do
  let t ← takeTok
  pushMark t.start

/-- Run one phase. -/
def runPhase : Phase → ParseM Event
  | .streamStart => parseStreamStart
  | .implicitDocumentStart => parseImplicitDocumentStart
  | .documentStart => parseDocumentStart
  | .documentEnd => parseDocumentEnd
  | .documentContent => parseDocumentContent
  | .blockNode => parseBlockNode
  | .blockSequenceFirstEntry => step do
    openCollection
    parseBlockSequenceEntry
  | .blockSequenceEntry => parseBlockSequenceEntry
  | .indentlessSequenceEntry => parseIndentlessSequenceEntry
  | .blockMappingFirstKey => step do
    openCollection
    parseBlockMappingKey
  | .blockMappingKey => parseBlockMappingKey
  | .blockMappingValue => parseBlockMappingValue
  | .flowSequenceFirstEntry => step do
    openCollection
    parseFlowSequenceEntry true
  | .flowSequenceEntry => parseFlowSequenceEntry false
  | .flowSequenceEntryMappingKey => parseFlowSequenceEntryMappingKey
  | .flowSequenceEntryMappingValue => parseFlowSequenceEntryMappingValue
  | .flowSequenceEntryMappingEnd => parseFlowSequenceEntryMappingEnd
  | .flowMappingFirstKey => step do
    openCollection
    parseFlowMappingKey true
  | .flowMappingKey => parseFlowMappingKey false
  | .flowMappingValue => parseFlowMappingValue
  | .flowMappingEmptyValue => parseFlowMappingEmptyValue

/-- The waiting event, produced by the current phase if there is none. -/
def fillEvent : ParseM (Option Event) := do
  let p ← get
  match p.current, p.phase with
  | some e, _ => return some e
  | none, some ph =>
    let e ← runPhase ph
    modify fun p => { p with current := some e }
    return some e
  | none, none => return none

/-- The next event, left in place (a step); none after the end of the stream. -/
def peekEvent : ParseM (Option Event) := step fillEvent

/-- Take the next event (a step). -/
def takeEvent : ParseM (Option Event) := step do
  let e ← fillEvent
  modify fun p => { p with current := none }
  return e

/-- Whether the next event satisfies `p` (a step); false after the end of the stream. -/
def checkEvent (p : EventKind → Bool) : ParseM Bool := step do
  return match ← fillEvent with
    | some e => p e.kind
    | none => false

/-- A parser at the start of a text. -/
def Parser.start (r : Reader) : Parser :=
  { scanner := Scanner.start r }

end CodingAgent.Yaml
