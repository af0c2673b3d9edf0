import CodingAgent.Recovery.Tagged
import CodingAgent.Json.Reader

/-!
# Calls written as inline JSON

Other models write a call as a JSON object `{"name": ..., "arguments": {...}}` inside their
text. `inlineObjects` finds the objects from left to right: at each `{` it reads one JSON
value; on success the search goes on after the value, on failure at the next `{`. Text
beyond the reader's limits (an integer too long, nesting too deep) stops the search with
that error, after the objects found before it.

An object is a call when its `name` is text that is not blank and its `arguments` is an
object, or text that reads as a JSON object. The name is trimmed. Objects are taken in
order, so an error in the arguments text of one object comes before any error further on.

Each function takes the nesting room of a decoder called in its body (`Json.entryRoom`):
the objects of the text are read with two levels more than their arguments text, which is
read one call deeper than `textCalls` is.
-/

namespace CodingAgent.Recovery

open CodingAgent CodingAgent.Json CodingAgent.Text

/-- The position of the first `{` at or after `from`. -/
def nextBrace (cs : Array Char) (start : Nat) : Option Nat :=
  go (cs.size - start) start
where
  go : Nat → Nat → Option Nat
    | 0, _ => none
    | fuel + 1, i =>
      if i ≥ cs.size then none
      else if cs.getD i ' ' == '\x7b' then some i
      else go fuel (i + 1)

/-- The JSON objects that start at a `{` of the text, left to right, and the error that
stopped the search early, if one did. -/
def inlineObjects (room : Nat) (text : String) : List Members × Option ReadError :=
  let cs := text.toList.toArray
  go cs (cs.size + 1) (nextBrace cs 0)
where
  go (cs : Array Char) : Nat → Option Nat → List Members × Option ReadError
    | 0, _ => ([], none)
    | _ + 1, none => ([], none)
    | fuel + 1, some pos =>
      match readPrefix room text pos with
      | .ok (v, stop) =>
        let (more, stopped) := go cs fuel (nextBrace cs stop)
        match v with
        | .obj ms => (ms :: more, stopped)
        | _ => (more, stopped)
      | .error e =>
        if e.isMalformed then go cs fuel (nextBrace cs (pos + 1)) else ([], some e)

/-- The call an object stands for, without its id. -/
def inlineCall? (room : Nat) (ms : Members) : Except ShapeError (Option (String × Value)) := do
  let name := Members.get? ms "name"
  let arguments : Option Value ← match Members.get? ms "arguments" with
    | some (.str s) => match readLenient room s with
      | .ok v => pure v
      | .error e => throw (.beyondLimits e)
    | some v => pure (some v)
    | none => pure (some .null)
  match name, arguments with
  | some (.str n), some (.obj args) =>
    pure (if isBlankText n then none else some (trim n, .obj args))
  | _, _ => pure none

/-- The calls of objects in order, each with a fresh id. -/
def objectCalls (room : Nat) :
    List Members → IdSource → Except ShapeError (List ToolCall × IdSource)
  | [], ids => .ok ([], ids)
  | ms :: rest, ids => do
    match ← inlineCall? room ms with
    | none => objectCalls room rest ids
    | some (name, args) =>
      let (id, ids) := ids.freshText
      let (more, ids) ← objectCalls room rest ids
      pure ({ id := .str id, name := .str name, arguments := args } :: more, ids)

/-- The calls written as inline JSON objects, each with a fresh id. -/
def inlineCalls (room : Nat) (text : String) (ids : IdSource) :
    Except ShapeError (List ToolCall × IdSource) := do
  let (objects, stopped) := inlineObjects (room + 1) text
  let found ← objectCalls room objects ids
  match stopped with
  | some e => throw (.beyondLimits e)
  | none => pure found

/-- The calls written into a text: tagged blocks when there are any, else inline objects. -/
def textCalls (room : Nat) (text : String) (ids : IdSource) :
    Except ShapeError (List ToolCall × IdSource) :=
  let (tagged, ids') := taggedCalls text ids
  if tagged.isEmpty then inlineCalls (room - 1) text ids else .ok (tagged, ids')

end CodingAgent.Recovery
