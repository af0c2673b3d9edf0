import CodingAgent.Tool.Result
import CodingAgent.Workspace.Workspace
import CodingAgent.Conversation.ToolCall

/-!
# Tools and the world they act on

A tool runs against a `Host`: the workspace, the display (when one is attached) that shows
progress messages, the record that scripted tools keep of what they were asked, the abort
signal of the current call (absent when the caller gave none), whether an agent runs the
tools, and a flag by which a tool asks the agent to stop.

Running a tool gives a `Run`: a result; a value that is no result; a raised error; a
cancellation from inside the tool; or a wait for the abort signal, which only the signal ends.

Errors are `Raised`: a tool error with its message, or another error with its class name and
text.
-/

namespace CodingAgent.Tool

open CodingAgent CodingAgent.Json CodingAgent.Workspace

/-- An entry of the record that scripted tools keep. -/
inductive LogEntry where
  /-- The preview of a call was asked for. -/
  | preview (tool : Value)
  /-- A call ran with these arguments. -/
  | call (tool : Value) (arguments : Value)

/-- The world a tool acts on. -/
structure Host where
  workspace : Workspace
  /-- Whether a display is attached; without one, progress messages are dropped. -/
  display : Bool := true
  progress : List String := []
  log : List LogEntry := []
  /-- The abort signal of the current call: absent, or whether it is set. -/
  signal : Option Bool := none
  /-- Whether the tools run for an agent, which a tool can ask to stop or whose task it can
  cancel; elsewhere there is no agent to ask. -/
  agent : Bool := false
  /-- A tool asked the agent to stop. -/
  halt : Bool := false
  /-- How many calls the scripted tools of each name have served. -/
  calls : List (String × Nat) := []

/-- Show a progress message. -/
def Host.showProgress (h : Host) (message : String) : Host :=
  if h.display then { h with progress := h.progress ++ [message] } else h

/-- Whether the abort signal of the current call is set. -/
def Host.signalled (h : Host) : Bool :=
  h.signal == some true

/-- An error raised while running a tool. -/
inductive Raised where
  /-- The tool refused the call with this message. -/
  | toolError (message : String)
  /-- Another error: its class name and text. -/
  | error (kind : String) (text : String)
  /-- The record named `record` could not be read from the fields given. -/
  | invalid (record : String) (issues : List Issue)

/-- What running a tool gave. -/
inductive Run where
  | done (r : ToolResult)
  /-- A value that is not a result. -/
  | invalid (v : Value)
  | raised (e : Raised)
  | cancelledItself
  /-- The tool waits until the abort signal is set. -/
  | waitsForAbort

/-- A run from a computation that may raise. -/
def Run.ofExcept : Except Raised ToolResult → Run
  | .ok r => .done r
  | .error e => .raised e

/-- The value under `key` of the arguments (null when absent); arguments that are no object
have no keys to look up. -/
def argGet (args : Value) (key : String) : Except Raised Value :=
  match args with
  | .obj ms => .ok ((Members.get? ms key).getD .null)
  | v => .error (.error "AttributeError" ("'" ++ v.kindName ++ "' object has no attribute 'get'"))

/-- The value under `key`, or `default` when absent. -/
def argGetD (args : Value) (key : String) (default : Value) : Except Raised Value :=
  match args with
  | .obj ms => .ok ((Members.get? ms key).getD default)
  | v => .error (.error "AttributeError" ("'" ++ v.kindName ++ "' object has no attribute 'get'"))

/-- A workspace error as a raised error. -/
def raisedOf (e : WorkspaceError) : Raised :=
  .error e.className e.message

/-- Whether a request names a path inside the workspace; a path that cannot be read raises. -/
def accessible (h : Host) (path : String) : Except Raised Bool :=
  (h.workspace.isAccessible path).mapError (fun e => raisedOf (.access e))

/-- Whether a request names a file inside the workspace. -/
def exists? (h : Host) (path : String) : Except Raised Bool :=
  (h.workspace.fileExists path).mapError raisedOf

end CodingAgent.Tool
