import CodingAgent.Tool.Tool
import CodingAgent.Json.Writer
import CodingAgent.Json.Display

/-!
# Scripted tools

A scripted tool behaves as its script says, which lets a host stand in for tools it does not
have. Every scripted tool records each call it runs (and each preview it is asked for) in the
host's log.

* `fixed`: a success with the given content, or a failure with the given error.
* `echo`: a success whose content is the arguments as JSON with sorted keys.
* `sequence`: the `i`-th call to a tool of its name gives the `i`-th result of a list (the
  last one repeats); the host counts the calls by name, so a tool registered again under the
  same name goes on counting. An empty list has no result to give, and an item that is no
  object cannot be spread into the fields of a result. Results given as text are its
  characters, results given as an object are looked up by position (which is never one of
  its keys), and any other value has no length; without results there is nothing to look up.
* `raise`: raises the error of the given class; a list or an object cannot name one.
* `invalid`: gives a value that is no result.
* `selfCancel`: is cancelled from inside.
* `awaitAbort`: sets the caller's abort signal and waits for it; without a signal it fails.
* `halt`: asks the agent to stop, and succeeds with its content.
* `cancel`: cancels the agent's task, and succeeds with its content.

Outside an agent, `halt` and `cancel` find no agent and fail as a missing key.

A preview may be quiet, may fail (the failure is ignored by whoever asked), or may show a
progress message.
-/

namespace CodingAgent.Tool

open CodingAgent CodingAgent.Json

/-- What a scripted tool does when it runs. -/
inductive Script where
  | fixed (success : Bool) (content error : Value)
  | echo
  | sequence (results : Option Value)
  | raise (e : Raised)
  | invalid (v : Value)
  | selfCancel
  | awaitAbort
  | halt (content : Value)
  | cancel (content : Value)

/-- What a scripted tool does when its preview is asked for. -/
inductive Preview where
  | quiet
  | fails
  | progress

/-- The name of the record of a tool's result, as reports of its fields name it. -/
def resultRecord : String := "ToolResult"

/-- The full name of the record of a tool's result, as the program spells it when a value
cannot be spread into its fields. -/
def resultRecordPath : String := "codeloop.tools.registry.ToolResult"

/-- A result from loose fields; fields that do not fit raise, and so does a value that is no
object, which cannot be spread into fields. -/
def resultOfFields (fields : Value) : Except Raised ToolResult :=
  match fields with
  | .obj ms =>
    match ToolResult.read ms with
    | .ok r => .ok r
    | .error is => .error (.invalid resultRecord is)
  | v => .error (.error "TypeError"
      (resultRecordPath ++ "() argument after ** must be a mapping, not " ++ v.kindName))

/-- The error a scripted tool raises, named by `kind` with the message `message`: a tool
error keeps its message, a missing key shows the message written as a value, and a name that
is none of the known classes is itself a missing key. -/
def scriptedError (kind : Value) (message : Value) : Raised :=
  match kind with
  | .str "ToolExecutionError" => .toolError message.display
  | .str "KeyError" => .error "KeyError" message.quotedText
  | .str "RuntimeError" => .error "RuntimeError" message.display
  | .str "ValueError" => .error "ValueError" message.display
  | .str "OSError" => .error "OSError" message.display
  | .arr _ => .error "TypeError" "unhashable type: 'list'"
  | .obj _ => .error "TypeError" "unhashable type: 'dict'"
  | k => .error "KeyError" k.quotedText

/-- The calls a tool of this name has served so far. -/
def Host.served (h : Host) (name : String) : Nat :=
  (h.calls.lookup name).getD 0

/-- The host with one more call served by the tools of this name. -/
def Host.serve (h : Host) (name : String) : Host :=
  let n := h.served name + 1
  { h with calls := (name, n) :: h.calls.filter (fun e => e.1 != name) }

/-- The result a sequence gives on the call after `served` others: the item at that
position, or at the last one. -/
def sequenceItem (results : Option Value) (served : Nat) : Except Raised ToolResult :=
  match results with
  | none => .error (.error "KeyError" "'results'")
  | some (.arr xs) =>
    match xs.getLast? with
    | none => .error (.error "IndexError" "list index out of range")
    | some last => resultOfFields (xs.getD served last)
  | some (.str s) =>
    let cps := CodingAgent.Text.codePoints s.toList
    if cps.isEmpty then .error (.error "IndexError" "string index out of range")
    else resultOfFields (.str (CodingAgent.Text.ofCodePoints [cps.getD served (cps.getLastD 0)]))
  | some (.obj ms) =>
    -- the position is looked up as a key, and keys are text
    let place : Int := min (served : Int) ((ms.length : Int) - 1)
    .error (.error "KeyError" (toString place))
  | some v => .error (.error "TypeError" ("object of type '" ++ v.kindName ++ "' has no len()"))

/-- Run a script for a call; the host counts the call. -/
def Script.run (s : Script) (name : Value) (call : ToolCall) (h : Host) : Run × Host :=
  let served := h.served name.display
  let h := { h.serve name.display with log := h.log ++ [.call name call.arguments] }
  match s with
  | .fixed success content error =>
    let r := if success then ToolResult.okOf content else ToolResult.failOf error
    match r with
    | .ok r => (.done r, h)
    | .error is => (.raised (.invalid resultRecord is), h)
  | .echo => (.done (ToolResult.ok call.arguments.dumpSorted), h)
  | .sequence results => (Run.ofExcept (sequenceItem results served), h)
  | .raise e => (.raised e, h)
  | .invalid v => (.invalid v, h)
  | .selfCancel => (.cancelledItself, h)
  | .awaitAbort =>
    match h.signal with
    | some _ => (.waitsForAbort, { h with signal := some true })
    | none => (.done (ToolResult.fail "no abort signal"), h)
  | .halt content =>
    if !h.agent then (.raised (.error "KeyError" "'agent'"), h)
    else (given content, { h with halt := true })
  | .cancel content =>
    if !h.agent then (.raised (.error "KeyError" "'cancel'"), h)
    else (given content, { h with signal := h.signal.map (fun _ => true) })
where
  /-- A success with the given content, which must be text. -/
  given (content : Value) : Run :=
    match ToolResult.okOf content with
    | .ok r => .done r
    | .error is => .raised (.invalid resultRecord is)

/-- Ask a scripted tool for the preview of a call; the flag says whether the preview failed. -/
def Preview.run (p : Preview) (name : Value) (h : Host) : Host × Bool :=
  let h := { h with log := h.log ++ [.preview name] }
  match p with
  | .quiet => (h, false)
  | .fails => (h, true)
  | .progress => (h.showProgress ("partial " ++ name.display), false)

end CodingAgent.Tool
