import CodingAgent.Stream.Chunk
import CodingAgent.Stream.Delta
import CodingAgent.Conversation.Ids

/-!
# Assembling a streamed response

An `Aggregator` turns the events of a streamed response into chunks. Text is passed on at
once. Tool-call fragments are collected per index, each index in a `Builder` that keeps the
last id and the last name it received and joins the argument slices. The collected calls
are released, in index order, when the response says its calls are complete (finish reason
`tool_calls`), at the end of the stream, or on an explicit flush; a builder that never got a
name releases nothing, and a call without an id gets a generated one.

A response carries one end chunk: the one of its finish reason, or else one at the end of
the stream. An end that brings usage always adds an end chunk.

On the wire, each event is a server-sent-events line `data: <json>`, and `data: [DONE]`
ends the stream. Lines of other shapes, and data that is no JSON object, are skipped.

Each step takes the nesting room of a decoder called in its body (`Json.entryRoom`), and
hands one level less to the step it calls: the arguments of a call released by a finish
reason on a line are read four calls below the line.
-/

namespace CodingAgent

open CodingAgent.Json

/-- The fragments collected for one index. -/
structure Builder where
  id : Option Value := none
  name : Option Value := none
  arguments : String := ""

/-- Take in one fragment: its id and name replace the earlier ones, its argument slice is
appended. A slice that is no text cannot be appended. -/
def Builder.apply (b : Builder) (d : Delta) : Except ShapeError Builder :=
  let b := match d.id with
    | some v => { b with id := some v }
    | none => b
  let b := match d.name with
    | some v => { b with name := some v }
    | none => b
  match d.arguments with
  | some (.str s) => .ok { b with arguments := b.arguments ++ s }
  | some v => .error (.notText v.kindName)
  | none => .ok b

/-- The call a builder stands for, if it got a name; its id and name are the values the
fragments carried. Reading the arguments fails only on text beyond the reader's limits. -/
def Builder.build (room : Nat) (b : Builder) (ids : IdSource) :
    Except ShapeError (Option ToolCall × IdSource) :=
  match b.name with
  | none => .ok (none, ids)
  | some nm =>
    let (id, ids) := match b.id with
      | some v => (v, ids)
      | none => let (t, ids) := ids.fresh; (Value.str t, ids)
    match parseArguments (room - 1) (.str b.arguments) with
    | .ok arguments => .ok (some { id, name := nm, arguments }, ids)
    | .error e => .error e

/-- The state of one streamed response. -/
structure Aggregator where
  /-- Builders by index, in the order their indices first appeared. -/
  builders : List (Int × Builder) := []
  /-- Whether the response's end chunk has been given. -/
  finished : Bool := false

/-- What an event produced: chunks, the new state and the id source. -/
structure Fed where
  chunks : List Chunk
  agg : Aggregator
  ids : IdSource

/-- A piece of text as a chunk; empty text gives none. -/
def textChunks (s : String) : List Chunk :=
  if s.isEmpty then [] else [.text s]

/-- The indices with collected fragments, in order. -/
def Aggregator.pending (a : Aggregator) : List Int :=
  (a.builders.map Prod.fst).mergeSort (fun x y => decide (x ≤ y))

/-- Apply one fragment to the builder of its index. -/
def Aggregator.applyDelta (a : Aggregator) (d : Delta) : Except ShapeError Aggregator := do
  match a.builders.lookup d.index with
  | some b =>
    let b ← b.apply d
    pure { a with builders := a.builders.map (fun ib => if ib.1 == d.index then (ib.1, b) else ib) }
  | none =>
    let b ← ({} : Builder).apply d
    pure { a with builders := a.builders ++ [(d.index, b)] }

/-- Take in fragments in order. -/
def Aggregator.onDeltas (a : Aggregator) : List Delta → Except ShapeError Aggregator
  | [] => .ok a
  | d :: rest => do
    let a ← a.applyDelta d
    a.onDeltas rest

/-- Build calls from builders in order, skipping those without a name. -/
def buildAll (room : Nat) : List Builder → IdSource → Except ShapeError (List Chunk × IdSource)
  | [], ids => .ok ([], ids)
  | b :: rest, ids => do
    let (call, ids) ← b.build (room - 1) ids
    let (more, ids) ← buildAll room rest ids
    match call with
    | some c => pure (.call c :: more, ids)
    | none => pure (more, ids)

/-- Release the collected calls in index order and forget them. -/
def Aggregator.flush (room : Nat) (a : Aggregator) (ids : IdSource) : Except ShapeError Fed := do
  let ordered := a.builders.mergeSort (fun x y => decide (x.1 ≤ y.1))
  let (chunks, ids) ← buildAll room (ordered.map Prod.snd) ids
  pure ⟨chunks, { a with builders := [] }, ids⟩

/-- The response gave its finish reason. -/
def Aggregator.onFinish (room : Nat) (a : Aggregator) (reason : String) (ids : IdSource) :
    Except ShapeError Fed := do
  let released ← if reason == "tool_calls" then a.flush (room - 1) ids else pure ⟨[], a, ids⟩
  pure ⟨released.chunks ++ [.done (.str reason) .null], { released.agg with finished := true },
    released.ids⟩

/-- The stream ended, with the usage it reported (`null` for none). -/
def Aggregator.onEnd (room : Nat) (a : Aggregator) (usage : Value) (ids : IdSource) :
    Except ShapeError Fed := do
  let released ← a.flush (room - 1) ids
  let ending := if !a.finished || usage.truthy then [Chunk.done .null usage] else []
  pure ⟨released.chunks ++ ending, { released.agg with finished := true }, released.ids⟩

/-- The fragments of a chunk object's tool-call list: the object items, decoded. -/
def decodeDeltas : List Value → Except ShapeError (List Delta)
  | [] => .ok []
  | item :: rest => do
    if item.isObj then
      let d ← Delta.ofPayload item
      let more ← decodeDeltas rest
      pure (d :: more)
    else decodeDeltas rest

/-- Take in one decoded chunk object of a streamed response. -/
def Aggregator.feed (room : Nat) (a : Aggregator) (payload : Value) (ids : IdSource) :
    Except ShapeError Fed := do
  let choices := (← payload.field? "choices").orElse (.arr [])
  if !choices.truthy then return ⟨[], a, ids⟩
  let choice := (← choices.firstItem?).orEmpty
  let delta := (← choice.field? "delta").orEmpty
  let content := (← delta.field? "content").orElse (.str "")
  let chunks := textChunks content.display
  let a ← match ← delta.field? "tool_calls" with
    | .arr (x :: xs) => do
      let ds ← decodeDeltas (x :: xs)
      a.onDeltas ds
    | _ => pure a
  let reason ← choice.field? "finish_reason"
  if reason.truthy then
    let fin ← a.onFinish (room - 1) reason.display ids
    return ⟨chunks ++ fin.chunks, fin.agg, fin.ids⟩
  else return ⟨chunks, a, ids⟩

/-- The sentinel that ends a stream. -/
def doneSentinel : String := "[DONE]"

/-- Take in one server-sent-events line. -/
def Aggregator.feedLine (room : Nat) (a : Aggregator) (line : String) (ids : IdSource) :
    Except ShapeError Fed :=
  let stripped := CodingAgent.Text.trim line
  if !"data:".toList.isPrefixOf stripped.toList then .ok ⟨[], a, ids⟩
  else
    let data := CodingAgent.Text.trim (String.ofList (stripped.toList.drop 5))
    if data == doneSentinel then a.onEnd (room - 1) .null ids
    else match readLenient room data with
      | .ok (some (.obj ms)) => a.feed (room - 1) (.obj ms) ids
      | .ok _ => .ok ⟨[], a, ids⟩
      | .error e => .error (.beyondLimits e)

end CodingAgent
