import CodingAgent.Json.Shape
import CodingAgent.Json.Reader
import CodingAgent.Text.Blank

/-!
# Tool-call fragments and argument text

A streamed tool call arrives in fragments keyed by a position `index`: usually the first
carries the id and the name, the later ones slices of the arguments text. A fragment's
fields that count as false are absent; an index that is no integer counts as 0.

`parseArguments` decodes the arguments of a call: an object is taken as it is, text is read
as JSON and kept only when it is an object, anything else gives an empty object.
-/

namespace CodingAgent

open CodingAgent.Json

/-- One fragment of a streamed tool call. -/
structure Delta where
  index : Int
  id : Option Value := none
  name : Option Value := none
  arguments : Option Value := none

/-- A field that counts as true. -/
def presentField (v : Value) : Option Value :=
  if v.truthy then some v else none

/-- The position of a fragment: a missing or false index is 0, and so is one that is no
integer; an infinite double stops the decoding. -/
def deltaIndex (v : Value) : Except ShapeError Int :=
  match (v.orElse (.int 0)).toInt with
  | .ok n => .ok n
  | .error e => if e.absorbed then .ok 0 else .error (.notInteger e)

/-- Decode a fragment from its payload object. -/
def Delta.ofPayload (payload : Value) : Except ShapeError Delta := do
  let function := (← payload.field? "function").orEmpty
  let index ← deltaIndex (← payload.field? "index")
  let id := presentField (← payload.field? "id")
  let name := presentField (← function.field? "name")
  let arguments := presentField (← function.field? "arguments")
  pure { index, id, name, arguments }

/-- The arguments of a call from their payload: an object as it is, text read as JSON when it
holds an object, an empty object for text that does not and for values that count as false.
Other values are not arguments at all. Arrays and objects nest at most `room` deep. -/
def parseArguments (room : Nat) (raw : Value) : Except ShapeError Value :=
  match raw with
  | .obj ms => .ok (.obj ms)
  | .str s =>
    let t := CodingAgent.Text.trim s
    if t.isEmpty then .ok (.obj [])
    else match readLenient room t with
      | .ok (some (.obj ms)) => .ok (.obj ms)
      | .ok _ => .ok (.obj [])
      | .error e => .error (.beyondLimits e)
  | v => if v.truthy then .error (.noAttribute v.kindName "strip") else .ok (.obj [])

end CodingAgent
