import CodingAgent.Stream.Chunk
import CodingAgent.Stream.Delta
import CodingAgent.Json.Shape
import CodingAgent.Json.Coerce
import CodingAgent.Text.Blank

/-!
# Complete responses

Without streaming, the model answers with one body. `completionChunks` turns it into the
chunks a stream would have given: the text of the first choice's message (when it counts as
true), one call per entry of its `tool_calls` with a non-blank name, and the end of the
response with the choice's finish reason and the usage.

A call without an id is named by its position in the list, `call_<i>`; positions count the
entries that were skipped too. Usage, when present, is rebuilt from the prompt and completion
counts (absent or false counts are zero) with their sum as the total. A body without choices
is a bare end.

Bodies of the wrong shape stop with the `ShapeError` that the first bad access meets.
The arguments of the calls are read one call below `completionChunks`, whose nesting room
(`Json.entryRoom`) it is given.
-/

namespace CodingAgent

open CodingAgent.Json CodingAgent.Text

/-- The items a value yields when walked: list items, the characters of text, the keys of
an object. -/
def walkItems (v : Value) : Except ShapeError (List Value) :=
  match v with
  | .arr xs => .ok xs
  | .str s => .ok ((CodingAgent.Text.characters s).map .str)
  | .obj ms => .ok ((Members.keys ms).map .str)
  | _ => .error (.notIterable v.kindName)

/-- An integer count read from a value that counts as true, or zero. -/
def countOf (v : Value) : Except ShapeError Int :=
  if v.truthy then
    match v.toInt with
    | .ok n => .ok n
    | .error e => .error (.notInteger e)
  else .ok 0

/-- The call of one entry of `tool_calls` at position `index`, unless its name is blank. -/
def completionCall (room : Nat) (index : Nat) (raw : Value) :
    Except ShapeError (Option ToolCall) := do
  let function := (← raw.field? "function").orEmpty
  let name := trim ((← function.field? "name").orElse (.str "")).display
  if name.isEmpty then return none
  let id := ((← raw.field? "id").orElse (.str ("call_" ++ toString index))).display
  let arguments ← parseArguments (room - 1) (← function.field? "arguments")
  return some { id := .str id, name := .str name, arguments := arguments }

/-- The usage of a body, rebuilt from its counts. -/
def completionUsage (raw : Value) : Except ShapeError Value := do
  if !raw.truthy then return .null
  let prompt ← countOf (← raw.field? "prompt_tokens")
  let completion ← countOf (← raw.field? "completion_tokens")
  return .obj [("prompt_tokens", .int prompt), ("completion_tokens", .int completion),
    ("total_tokens", .int (prompt + completion))]

/-- The chunks of a complete response body. -/
def completionChunks (room : Nat) (data : Value) : Except ShapeError (List Chunk) := do
  let choices ← data.field? "choices"
  if !choices.truthy then return [.done .null .null]
  let choice := (← choices.firstItem?).orEmpty
  let message := (← choice.field? "message").orEmpty
  let content ← message.field? "content"
  let textChunks : List Chunk := if content.truthy then [.text content.display] else []
  let raws ← walkItems ((← message.field? "tool_calls").orElse (.arr []))
  let calls ← (raws.zipIdx).filterMapM (fun (raw, i) => completionCall room i raw)
  let usage ← completionUsage (← data.field? "usage")
  let reason ← choice.field? "finish_reason"
  return textChunks ++ calls.map .call ++ [.done reason usage]

end CodingAgent
