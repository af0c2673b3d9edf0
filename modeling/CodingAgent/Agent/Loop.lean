import CodingAgent.Agent.Session
import CodingAgent.Agent.Counters
import CodingAgent.Context.Truncate
import CodingAgent.Context.Condense
import CodingAgent.Recovery.Signature
import CodingAgent.Recovery.Heuristics
import CodingAgent.Tool.FileTools

/-!
# The agent loop

The agent works on a request in turns. Each turn it asks the model (trimming the
conversation to its token budget first), reports the reply's text, runs the tool calls of the
reply and writes their results into the conversation. The task ends when the completion tool
succeeds, on an error, when the user cancels, or after the last allowed turn.

Asking the model retries failures that may pass: an overfull context is retried with half the
budget, a transient failure as it is after a pause, each at most `maxRetries` times, with a
notice to the user before each retry.

The rules of a reply, in order:

* a reply without tool calls gets its text read for calls written as text;
* on the first turn, a request that reads as small talk is answered with the reply's text;
* long text is not shown beside tool calls (unless one completes the task), nor on the first
  turn as a reply without calls; such a first reply does not end the task;
* listing calls become recursive when the request asks for a whole tree;
* the calls are written into the conversation with their arguments as text; an argument
  holding an integer too long to be written crashes the task;
* a reply without calls that was cut off asks the model to go on; on the first turn it is the
  answer; later ones nudge the model to use tools, until the streak passes its limit;
* a call with the signature of an earlier one is refused without running;
* a successful completion ends the task with the text after the marker, and a successful
  condense call replaces the conversation by its summary and ends the turn;
* a streak of failed calls that reaches its limit ends the task.

The loop runs at most `maxIterations` turns, and each turn asks the model at most
`maxRetries + 1` times.
-/

namespace CodingAgent.Agent

open CodingAgent CodingAgent.Json CodingAgent.Model CodingAgent.Tool CodingAgent.Settings
open CodingAgent.Recovery CodingAgent.Text

/-- The system prompt used when none is given. -/
def defaultSystemPrompt : String :=
  "You are a coding agent working inside the user's workspace. Use the available " ++
  "tools to inspect and change files. When the task is done, call attempt_completion " ++
  "with a summary of the result."

/-- The error of a cancelled task. -/
def cancelledTask : String := "Operation cancelled."

/-- The notice before a retry with a shorter conversation. -/
def contextRetryNotice : String := "\n⚠️ Context window is full, trimming conversation history...\n"

/-- The failure when even the shortest conversation is too long. -/
def contextExhausted : String :=
  "Context window exceeded even after automatic truncation. Please start a new conversation."

/-- The request to go on after a reply without calls was cut off. -/
def continueAfterCutoff : String :=
  "[System: Your response was cut off due to token limit. " ++
  "Please continue from where you left off.]"

/-- The request to go on after a reply with calls was cut off. -/
def continueAfterTools : String :=
  "[System: Your previous text response was cut off due to token limit. " ++
  "The tool calls have been executed and their results are above. " ++
  "Please continue your response from where it was cut off.]"

/-- The nudge after a reply without calls. -/
def noToolsNudge : String :=
  "You did not use any tools in your response. If the task is complete, please use " ++
  "the attempt_completion tool to present your result. Otherwise, continue using " ++
  "tools to complete the task."

/-- The notice after the conversation was condensed. -/
def condensedNotice : String := "\n\n📝 *Conversation condensed to save context space.*\n\n"

/-- The notice before retrying a transient failure. -/
def retryNotice (attempt maxRetries : Nat) : String :=
  "\n⏳ Request failed, retrying (" ++ toString attempt ++ "/" ++ toString maxRetries ++ ")...\n"

/-- The refusal of a call that repeats an earlier one. -/
def duplicateRefusal (call : ToolCall) : ToolResult :=
  ToolResult.fail ("Duplicate call: You already called " ++ call.nameShown ++
    " with the same arguments. Use the previous result instead of calling again. " ++
    "If you need different information, change the parameters.")

/-- The error after a streak of failed calls. -/
def mistakesError (n : Nat) : String :=
  "The Agent has encountered " ++ toString n ++ " consecutive errors. This may indicate " ++
  "a problem with the current approach. Consider providing guidance."

/-- The error after the last allowed turn. -/
def iterationsError (n : Int) : String :=
  "Maximum iterations (" ++ toString n ++ ") reached. The Agent may be stuck in a loop."

/-- Whether a call names a tool, compared trimmed and without case; a name that is no text
cannot be trimmed. -/
def sameTool (call : ToolCall) (target : String) : Except ShapeError Bool := do
  let n ← call.nameText? "strip"
  pure (lower (trim n) == lower (trim target))

/-- Whether any of the calls names the tool, asked in order up to the first that does. -/
def anyNames : List ToolCall → String → Except ShapeError Bool
  | [], _ => .ok false
  | c :: rest, target => do if ← sameTool c target then pure true else anyNames rest target

/-- Whether the call names any of the tools, asked in order up to the first it names. -/
def namesAny (call : ToolCall) : List String → Except ShapeError Bool
  | [] => .ok false
  | t :: rest => do if ← sameTool call t then pure true else namesAny call rest

/-- The first `limit` code points; a negative limit drops that many from the end. -/
def leading (ns : List Nat) (limit : Int) : List Nat :=
  if limit ≥ 0 then ns.take limit.toNat else ns.take (ns.length - limit.natAbs)

/-- A tool result as the conversation holds it: the content, or the error; cut at `limit`
characters with a note of the full length. -/
def toolContent (r : ToolResult) (limit : Int) : String :=
  let content := if r.success then r.content.getD "" else "Error: " ++ r.error.getD "None"
  let codes := Text.codePoints content.toList
  let n := codes.length
  if (n : Int) > limit then
    Text.ofCodePoints (leading codes limit) ++ "\n... (truncated, total length: " ++
      toString n ++ " chars)"
  else content

/-- What a task is given. -/
structure Task where
  settings : Settings
  request : Value
  definitions : List ToolDefinition
  budget : Int

/-- The time limit of a task's tool calls: the configured one, at least a second; a limit
that is no real gives way to the default. -/
def Task.timeout (t : Task) : Float :=
  match callTimeout (.num t.settings.agent.toolTimeoutSeconds) (.num 60.0) with
  | .ok x => x
  | .error _ => 60.0

/-- What one turn leaves for the next. -/
structure Loop where
  history : List Message
  counters : Counters
  guard : DuplicateGuard

/-- Whether the loop goes on after a turn. -/
inductive Flow where
  | stop
  | next (l : Loop)

open Session

/-- A message of the assistant. -/
def assistantMessage (text : String) (calls : List ToolCall) : Message :=
  { role := .assistant, content := .str text, toolCalls := calls.map ToolCall.record }

/-- A message of the user. -/
def userMessage (text : String) : Message :=
  .text .user text

/-- A message with a tool's result. -/
def toolMessage (text : String) (call : ToolCall) : Message :=
  { role := .tool, content := .str text, toolCallId := call.id }

/-- The pause before the retry after try `attempt` (counted from 0), in milliseconds: that
try's entry of the table, the last entry past its end, and none without a table. -/
def retryDelay (delays : List Int) (attempt : Nat) : Int :=
  delays.getD (min attempt (delays.length - 1)) 0

/-- Ask the model, retrying failures that may pass; `attempt` counts the tries so far. -/
def askWithRetries (t : Task) (maxRetries : Nat) :
    Nat → Nat → List Message → Int → AgentM (Attempt × List Message)
  | 0, _, history, _ =>
    pure ({ outcome := .fatal, turn := {}, message := "No request was made" }, history)
  | fuel + 1, attempt, history, budget => do
    let result ← Session.attempt history t.definitions
    match result.outcome with
    | .success | .cancelled => return (result, history)
    | .contextExceeded =>
      let budget := max 1 (Int.fdiv budget 2)
      let history ← shaped
        (Context.truncate history (.whole budget) t.settings.agent.keepRecentMessages)
      if attempt < maxRetries then
        emit (.text contextRetryNotice)
        askWithRetries t maxRetries fuel (attempt + 1) history budget
      else return ({ outcome := .fatal, turn := result.turn, message := contextExhausted }, history)
    | .transient =>
      if attempt < maxRetries then
        emit (.text (retryNotice (attempt + 1) maxRetries))
        if ← backoff (retryDelay t.settings.agent.retryDelaysMs attempt) then
          return ({ outcome := .cancelled, turn := result.turn }, history)
        askWithRetries t maxRetries fuel (attempt + 1) history budget
      else return (result, history)
    | .fatal => return (result, history)

/-- Ask the model for the next reply. -/
def ask (t : Task) (history : List Message) : AgentM (Attempt × List Message) :=
  let maxRetries := t.settings.agent.maxRetries.toNat
  askWithRetries t maxRetries (maxRetries + 1) 0 history t.budget

/-- After the calls of a reply: ask to go on after a cut-off reply, and end the task after
too many failed calls. -/
def afterCalls (turn : Turn) (l : Loop) : AgentM Flow := do
  let l := if turn.truncated then { l with history := l.history ++ [userMessage continueAfterTools] }
    else l
  if l.counters.mistakeLimitReached then
    emit (.error (mistakesError l.counters.mistakes))
    return .stop
  return .next l

/-- Run the calls of a reply in order. -/
def runCalls (t : Task) (turn : Turn) : List ToolCall → Loop → AgentM Flow
  | [], l => afterCalls turn l
  | call :: rest, l => do
    if ← cancelled then
      emit (.error cancelledTask)
      return .stop
    let (seen, guard) ← shaped (l.guard.check call)
    if seen then
      let r := duplicateRefusal call
      emit (.toolStart call)
      emit (.toolResult call r)
      let history := l.history ++ [toolMessage ("Error: " ++ r.error.getD "None") call]
      runCalls t turn rest { l with history := history, guard := guard }
    else
      let policy := t.settings.policy
      preview call
      emit (.toolStart call)
      let c := { l.counters with lastTool := call.name }
      let r ← execute call t.timeout
      let c ← if r.success then do
          let edits ← shaped (namesAny call policy.editTools)
          pure { c.clearMistakes with editedFile := c.editedFile || edits }
        else pure c.addMistake.2
      emit (.toolResult call r)
      let content := r.content.getD ""
      if (← shaped (sameTool call policy.completionTool)) && r.success &&
          content.startsWith completedMarker then
        emit (.complete (String.ofList (content.toList.drop completedMarker.length)))
        return .stop
      if (← shaped (sameTool call policy.condenseTool)) && r.success &&
          content.startsWith condenseMarker then
        let summary := String.ofList (content.toList.drop condenseMarker.length)
        emit (.text condensedNotice)
        return .next { history := Context.condense l.history summary, counters := c,
                       guard := guard }
      let history := l.history ++
        [toolMessage (toolContent r t.settings.agent.maxToolResultChars) call]
      runCalls t turn rest { history := history, counters := c, guard := guard }

/-- Report the pieces of a reply's text. -/
def showText (turn : Turn) : AgentM Unit := do
  for s in turn.segments do
    emit (.text s)

/-- The calls of a reply: those it made, or, when it made none, those written into its text. -/
def replyCalls (turn : Turn) : AgentM (List ToolCall) :=
  if turn.calls.isEmpty && !turn.text.isEmpty then recoverCalls turn.text else pure turn.calls

/-- Whether a reply answers small talk: on the first turn, a request that reads as such. -/
def isSmallTalk (t : Task) (c : Counters) : AgentM Bool :=
  if c.iteration == 1 then
    shaped (isConversational t.request (t.settings.policy.taskKeywords.map .str)
      t.settings.policy.conversationalMaxChars)
  else pure false

/-- Report the pieces of a reply's text, unless the text is held back. -/
def showTextUnless (held : Bool) (turn : Turn) : AgentM Unit :=
  if held then pure () else showText turn

/-- Listing calls become recursive when the request asks for a whole tree. -/
def augmentCalls (t : Task) (calls : List ToolCall) : AgentM (List ToolCall) :=
  if calls.isEmpty then pure calls
  else shaped (augmentListing calls t.request t.settings.policy.recursiveListingTool
    (t.settings.policy.recursiveKeywords.map .str))

/-- A reply without calls, already written into the conversation: a cut-off one asks the
model to go on; on the first turn (unless its long text was held back) it is the answer;
later ones nudge the model to use tools, until the streak passes its limit. -/
def replyWithoutCalls (l : Loop) (turn : Turn) (text : String) (deferred : Bool) :
    AgentM Flow := do
  if turn.truncated then
    return .next { l with history := l.history ++ [userMessage continueAfterCutoff] }
  if l.counters.iteration == 1 && !deferred then
    emit (.complete text)
    return .stop
  let (past, c) := l.counters.addWithoutTools
  if past then
    emit (.complete text)
    return .stop
  return .next { l with history := l.history ++ [userMessage noToolsNudge], counters := c }

/-- Handle a reply. -/
def reply (t : Task) (l : Loop) (turn : Turn) : AgentM Flow := do
  let policy := t.settings.policy
  let c := l.counters
  let calls ← replyCalls turn
  if ← isSmallTalk t c then
    showText turn
    emit (.complete turn.text)
    return .stop
  let hasCompletion ← shaped (anyNames calls policy.completionTool)
  let long := (Text.codeLength turn.text : Int) > policy.suppressionThresholdChars
  let suppress := !calls.isEmpty && !hasCompletion && long
  let defer := calls.isEmpty && c.iteration == 1 && long
  showTextUnless (suppress || defer) turn
  let calls ← augmentCalls t calls
  let _ ← shaped (calls.mapM ToolCall.toRef)
  let text := if suppress || defer then "" else turn.text
  let l := { l with history := l.history ++ [assistantMessage text calls] }
  if calls.isEmpty then replyWithoutCalls l turn text defer
  else runCalls t turn calls { l with counters := { c.clearWithoutTools with usedTools := true } }

/-- The conversation trimmed to the task's budget, when the task has one. -/
def trimToBudget (t : Task) (history : List Message) : AgentM (List Message) :=
  if t.budget > 0 then
    shaped (Context.truncate history (.whole t.budget) t.settings.agent.keepRecentMessages)
  else pure history

/-- One turn of the loop. -/
def turnOnce (t : Task) (l : Loop) : AgentM Flow := do
  let c := { l.counters with iteration := l.counters.iteration + 1,
                             requests := l.counters.requests + 1 }
  let history ← trimToBudget t l.history
  let (result, history) ← ask t history
  match result.outcome with
  | .cancelled =>
    emit (.error cancelledTask)
    return .stop
  | .success => reply t { l with history := history, counters := c } result.turn
  | _ =>
    emit (.error ("LLM communication error: " ++ result.message))
    return .stop

/-- Whether the loop goes on: turns are left, and the task is neither cancelled nor stopped.
(A task that is done has already left the loop.) -/
def goesOn (t : Task) (c : Counters) : AgentM Bool := do
  return (c.iteration : Int) < t.settings.agent.maxIterations && !(← cancelled) && !c.aborted

/-- The end of the loop, which comes when the task is cancelled, stopped or out of turns: a
cancelled or stopped task reports the cancellation, any other the limit of turns. -/
def finish (t : Task) (c : Counters) : AgentM Unit := do
  if (← cancelled) || c.aborted then emit (.error cancelledTask)
  else emit (.error (iterationsError t.settings.agent.maxIterations))

/-- Turns of the loop, at most `fuel` of them: the turns still allowed. -/
def loop (t : Task) : Nat → Loop → AgentM Unit
  | 0, l => do
    finish t { l.counters with aborted := l.counters.aborted || (← get).halted }
  | fuel + 1, l => do
    let c := { l.counters with aborted := l.counters.aborted || (← get).halted }
    if ← goesOn t c then
      match ← turnOnce t { l with counters := c } with
      | .stop => pure ()
      | .next l => loop t fuel l
    else finish t c

/-- The system prompt of a task: the one given, or the default one when none is given. -/
def systemPromptOrDefault (systemPrompt : String) : String :=
  if systemPrompt.isEmpty then defaultSystemPrompt else systemPrompt

/-- The loop before its first turn: the system prompt (the default one when none is given)
and the request open the conversation, no streak has begun, and the guard exempts the
completion and condense tools. -/
def Loop.start (settings : Settings) (systemPrompt : String) (request : Value) : Loop :=
  { history := [.text .system (systemPromptOrDefault systemPrompt), .given .user request],
    counters := { maxMistakes := settings.agent.maxConsecutiveMistakes,
                  maxWithoutTools := settings.agent.maxConsecutiveNoTool },
    guard := DuplicateGuard.exempting [settings.policy.completionTool,
                                       settings.policy.condenseTool] }

/-- Run a task: the system prompt and the request open the conversation. -/
def runTask (settings : Settings) (systemPrompt : String) (request : Value) : AgentM Unit := do
  let st ← get
  let budget ← match settings.conversationBudget with
    | .ok b => pure b
    | .error e => throw (.budget e)
  let t : Task := { settings := settings, request := request,
                    definitions := st.registry.definitions, budget := budget }
  loop t settings.agent.maxIterations.toNat (Loop.start settings systemPrompt request)

/-- Run a task on a session; a crash is reported as the last step. -/
def Session.run (s : Session) (settings : Settings) (systemPrompt : String) (request : Value) :
    Session :=
  match (runTask settings systemPrompt request).run s with
  | (.ok (), s) => s
  | (.error e, s) => { s with steps := s.steps ++ [.error ("Agent error: " ++ e.message)] }

end CodingAgent.Agent
