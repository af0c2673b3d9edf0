import CodingAgent.Conversation.ToolCall

/-!
# Messages

A conversation is a list of messages. Each has a role, a content, and for a tool result the
id of the call it answers; an assistant message may record the tool calls it made. The
content is text, except where a caller hands in another value: it is kept as given, and a
missing content is empty text.

`Message.payload` is the message as a chat-completions API takes it: the call id only on a
tool message whose id counts as true, the recorded calls only when there are any.
-/

namespace CodingAgent

open CodingAgent.Json

/-- Who speaks a message. -/
inductive Role where
  | system
  | user
  | assistant
  | tool
deriving DecidableEq, Inhabited

/-- The role's name in a payload. -/
def Role.name : Role → String
  | .system => "system"
  | .user => "user"
  | .assistant => "assistant"
  | .tool => "tool"

/-- The role a name stands for. -/
def Role.ofName? : String → Option Role
  | "system" => some .system
  | "user" => some .user
  | "assistant" => some .assistant
  | "tool" => some .tool
  | _ => none

/-- The role a value stands for; anything else is refused with its quoted form. -/
def Role.ofValue (v : Value) : Except String Role :=
  match v with
  | .str s => match Role.ofName? s with
    | some r => .ok r
    | none => .error ("Unsupported message role: " ++ v.quotedText)
  | _ => .error ("Unsupported message role: " ++ v.quotedText)

/-- A message of a conversation. -/
structure Message where
  role : Role
  /-- The content: text, or the value a caller handed in. -/
  content : Value
  /-- The id of the call a tool message answers; `null` for none. -/
  toolCallId : Value := .null
  toolCalls : List CallRecord := []
deriving Inhabited

/-- A message whose content is text. -/
def Message.text (role : Role) (content : String) : Message :=
  { role, content := .str content }

/-- A message with the content a caller handed in; a missing one (`null`) is empty text. -/
def Message.given (role : Role) (content : Value) : Message :=
  { role, content := if content.isNull then .str "" else content }

/-- The payload of a recorded call. -/
def CallRecord.payload (r : CallRecord) : Value :=
  .obj [("id", r.id), ("type", .str r.kind),
    ("function", .obj [("name", r.name), ("arguments", .str r.arguments)])]

/-- The message as a chat-completions API takes it. -/
def Message.payload (m : Message) : Value :=
  let base : List (String × Value) := [("role", .str m.role.name), ("content", m.content)]
  let withId := match m.role with
    | .tool => if m.toolCallId.truthy then base ++ [("tool_call_id", m.toolCallId)] else base
    | _ => base
  let withCalls := if m.toolCalls.isEmpty then withId
    else withId ++ [("tool_calls", .arr (m.toolCalls.map CallRecord.payload))]
  .obj withCalls

end CodingAgent
