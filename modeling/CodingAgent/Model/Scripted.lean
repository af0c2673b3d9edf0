import CodingAgent.Model.Http

/-!
# Scripted models and the model the agent talks to

A scripted model plays one turn per request: a turn fails at once, or delivers its events.
It records every request (the conversation it was sent and the names of the tools offered)
and counts how often it was told to abort. With no turn left, a request fails.

`Provider` is the model the agent talks to: a scripted one or one behind an HTTP endpoint.
Telling it to abort only counts for a scripted model: an HTTP model has no request in flight
between two requests.
-/

namespace CodingAgent.Model

open CodingAgent CodingAgent.Json

/-- One turn of a scripted model. -/
inductive ScriptedTurn where
  /-- The request fails at once. -/
  | failing (f : Failure)
  /-- The request delivers these events. -/
  | streaming (events : List Event)

/-- A request as a scripted model records it. -/
structure ScriptedRequest where
  messages : List Message
  toolNames : List Value

/-- A scripted model: the turns still to play, the requests so far, and the aborts. -/
structure ScriptedModel where
  turns : List ScriptedTurn
  requests : List ScriptedRequest := []
  aborts : Nat := 0

/-- The record of a request. -/
def ScriptedRequest.of (messages : List Message) (tools : List ToolDefinition) :
    ScriptedRequest :=
  { messages := messages, toolNames := tools.map ToolDefinition.name }

/-- The conversation of a request as the API takes it. -/
def ScriptedRequest.payloads (r : ScriptedRequest) : List Value :=
  r.messages.map Message.payload

/-- The failure of a request no one expected. -/
def unexpectedRequest : Failure := .model "unexpected model request"

/-- Send a conversation to a scripted model. -/
def ScriptedModel.send (m : ScriptedModel) (messages : List Message)
    (tools : List ToolDefinition) : List Event × ScriptedModel :=
  let m := { m with requests := m.requests ++ [ScriptedRequest.of messages tools] }
  match m.turns with
  | [] => ([.failure unexpectedRequest], m)
  | .failing f :: rest => ([.failure f], { m with turns := rest })
  | .streaming events :: rest => (events, { m with turns := rest })

/-- The model the agent talks to. -/
inductive Provider where
  | scripted (m : ScriptedModel)
  | http (m : HttpModel)

namespace Provider

/-- Send a conversation; `cancelled` says whether the caller has already cancelled, and an
answer is read with `room` levels of nesting. -/
def send (p : Provider) (room : Nat) (messages : List Message) (tools : List ToolDefinition)
    (cancelled : Bool) (ids : IdSource) : List Event × Provider × IdSource :=
  match p with
  | .scripted m =>
    let (events, m) := m.send messages tools
    (events, .scripted m, ids)
  | .http m =>
    let (events, m, ids) := m.send room messages tools cancelled ids
    (events, .http m, ids)

/-- Tell the model to abort its request. -/
def abort : Provider → Provider
  | .scripted m => .scripted { m with aborts := m.aborts + 1 }
  | .http m => .http m

end Provider

end CodingAgent.Model
