import CodingAgent.Json.Writer
import CodingAgent.Json.Display
import CodingAgent.Json.Shape

/-!
# Tool calls and tool definitions

A `ToolCall` is a request of the model to run a tool: an id, the tool's name and the decoded
arguments. A call normally carries text for its id and name and an object of arguments;
other values reach the agent from a model that sends them and are kept as they came, so that
every later step sees what the model sent. A name of `null` is a call without a name.

A `CallRecord` is the call as an assistant message records it, arguments written as JSON
text; arguments holding an integer too long to be written have none (`ToolCall.toRef`). A `ToolDefinition` is what the model is told about a tool.
-/

namespace CodingAgent

open CodingAgent.Json

/-- A call of a tool as the model requested it. -/
structure ToolCall where
  id : Value
  name : Value
  arguments : Value

/-- A call as recorded on an assistant message. -/
structure CallRecord where
  id : Value
  name : Value
  arguments : String := "\x7b\x7d"
  kind : String := "function"

/-- What the model is told about a tool. -/
structure ToolDefinition where
  /-- The name: text, or the value a host named the tool by. -/
  name : Value
  description : Value
  parameters : Value

namespace ToolCall

/-- The name, or empty text for a name that counts as false. -/
def nameOrEmpty (c : ToolCall) : Value :=
  c.name.orElse (.str "")

/-- The name as messages show it: text as itself, `None` for a call without a name. -/
def nameShown (c : ToolCall) : String :=
  c.name.display

/-- The name as text, for a text operation `method` (such as `strip` or `lower`): a name that
counts as false is empty text, and a name that is not text has no such operation. -/
def nameText? (c : ToolCall) (method : String) : Except ShapeError String :=
  match c.nameOrEmpty with
  | .str s => .ok s
  | v => .error (.noAttribute v.kindName method)

/-- The text a name is looked up by: the name shown as text, empty for a name that counts as
false. -/
def lookupName (c : ToolCall) : String :=
  c.nameOrEmpty.display

/-- The name as text, when it is text. -/
def nameString? (c : ToolCall) : Option String :=
  match c.name with
  | .str s => some s
  | _ => none

/-- Arguments that count as empty are recorded as an empty object. -/
def recordedArguments (c : ToolCall) : Value :=
  c.arguments.orElse (.obj [])

/-- The record of the call: arguments written as JSON text with characters kept. -/
def record (c : ToolCall) : CallRecord :=
  { id := c.id, name := c.name, arguments := c.recordedArguments.dump }

/-- The record of the call as it is taken for an assistant message: writing the arguments fails
on an integer of more than `digitLimit` digits. -/
def toRef (c : ToolCall) : Except ShapeError CallRecord :=
  if c.recordedArguments.intsFit then .ok c.record else .error .longInteger

/-- The value of an argument. -/
def arg? (c : ToolCall) (key : String) : Option Value :=
  c.arguments.get? key

/-- Whether the arguments have `key`. -/
def hasArg (c : ToolCall) (key : String) : Bool :=
  c.arguments.hasKey key

end ToolCall

/-- The parameters of a tool that declares none. -/
def emptyParameters : Value :=
  .obj [("type", .str "object"), ("properties", .obj [])]

/-- The function-tool object sent to the model: a missing description becomes empty text,
missing parameters an empty object schema. -/
def ToolDefinition.payload (d : ToolDefinition) : Value :=
  .obj [("type", .str "function"),
    ("function", .obj [("name", d.name),
      ("description", d.description.orElse (.str "")),
      ("parameters", d.parameters.orElse emptyParameters)])]

/-- The names of the parameters a definition marks as required. -/
def ToolDefinition.required (d : ToolDefinition) : List Value :=
  match d.parameters.get? "required" with
  | some (.arr xs) => xs
  | _ => []

end CodingAgent
