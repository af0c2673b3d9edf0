import CodingAgent.Agent.Step
import CodingAgent.Model.Scripted
import CodingAgent.Tool.Registry
import CodingAgent.Settings.Read
import CodingAgent.Recovery.Inline

/-!
# The world of a running task

A task runs against a `Session`: the model it asks, the registry of its tools, the host the
tools act on, the source of fresh call ids, whether the agent was told to stop, the steps
reported so far and the token usage. The task's cancel signal is the host's abort signal:
tools see it, and a tool may set it.

`AgentM` is a computation on the session that may crash; a crash keeps the steps reported
before it.

Before a retry the task pauses (`Session.backoff`); the pause answers whether the task was
cancelled by then, and a pause too long to be waited crashes the task.

A request to the model is `Session.attempt`: it sends the conversation and takes in the
events that come back. A chunk that arrives once the task is cancelled ends the request as
cancelled, as does the end of the response; otherwise the response's usage is recorded. A
failure ends it with the failure's outcome and text.

Usage is recorded as the response reported it (`lastUsage`, copied into an object as
`Value.toMembers` does, so a sequence of key and value pairs passes too), and its three
counts (prompt, completion, total; absent or false ones count as zero) are added to the
totals one by one, so that a count that is no integer crashes the task after the counts
before it were added. Usage that is no object is recorded, then crashes the task.
-/

namespace CodingAgent.Agent

open CodingAgent CodingAgent.Json CodingAgent.Model CodingAgent.Tool CodingAgent.Settings

/-- Token counts summed over a task. -/
structure Usage where
  prompt : Int := 0
  completion : Int := 0
  total : Int := 0

/-- Why a task crashed. -/
inductive Crash where
  /-- A value had a shape the agent cannot handle. -/
  | shape (e : ShapeError)
  /-- The conversation budget cannot be computed. -/
  | budget (e : BudgetError)
  /-- A number was past the largest double. -/
  | overflow (message : String)

/-- The text of a crash. -/
def Crash.message : Crash → String
  | .shape e => e.message
  | .budget e => e.message
  | .overflow m => m

/-- The world of a running task. -/
structure Session where
  provider : Provider
  registry : Registry
  host : Host
  ids : IdSource := {}
  /-- The agent was told to stop. -/
  halted : Bool := false
  steps : List Step := []
  lastUsage : Value := .obj []
  totalUsage : Usage := {}

/-- A computation of a running task. -/
abbrev AgentM := ExceptT Crash (StateM Session)

/-- How one model request ended. -/
structure Attempt where
  outcome : Outcome
  turn : Turn
  message : String := ""

namespace Session

/-- Report a step. -/
def emit (s : Step) : AgentM Unit :=
  modify fun st => { st with steps := st.steps ++ [s] }

/-- Whether the task is cancelled. -/
def cancelled : AgentM Bool := do
  return (← get).host.signalled

/-- Cancel the task. -/
def cancel : AgentM Unit :=
  modify fun st => { st with host := { st.host with signal := some true } }

/-- Tell the agent to stop: it stops at the next turn of its loop, and the model is told to
abort its request. -/
def halt : AgentM Unit :=
  modify fun st => { st with halted := true, provider := st.provider.abort }

/-- Whether a pause of `delay` milliseconds cannot be waited: a positive delay is waited as
`delay / 1000` seconds, a double, and these seconds are past the largest double. -/
def pauseOverflows (delay : Int) : Bool :=
  delay > 0 && Decimal.nearestBits delay.toNat 1000 == 0x7FF0000000000000

/-- Wait `delay` milliseconds before a retry; the answer says whether the task was cancelled
by then (nothing else runs meanwhile that could cancel it). -/
def backoff (delay : Int) : AgentM Bool := do
  if pauseOverflows delay then throw (.overflow Tool.quotientOverflow)
  cancelled

/-- Run a computation that may meet a value of the wrong shape. -/
def shaped (r : Except ShapeError α) : AgentM α :=
  match r with
  | .ok a => pure a
  | .error e => throw (.shape e)

/-- A usage count: an absent or false one is zero. -/
def usageCount (ms : Members) (key : String) : Except ShapeError Int :=
  (((Members.get? ms key).getD (.int 0)).orElse (.int 0)).toInt.mapError ShapeError.notInteger

/-- Record the usage a response reported, if it reported one. -/
def recordUsage (usage : Value) : AgentM Unit := do
  if !usage.truthy then return
  let copy ← shaped usage.toMembers
  modify fun st => { st with lastUsage := .obj copy }
  let ms ← shaped (match usage with
    | .obj ms => .ok ms
    | v => .error (.noAttribute v.kindName "get"))
  let p ← shaped (usageCount ms "prompt_tokens")
  modify fun st => { st with totalUsage := { st.totalUsage with prompt := st.totalUsage.prompt + p } }
  let c ← shaped (usageCount ms "completion_tokens")
  modify fun st =>
    { st with totalUsage := { st.totalUsage with completion := st.totalUsage.completion + c } }
  let t ← shaped (usageCount ms "total_tokens")
  modify fun st => { st with totalUsage := { st.totalUsage with total := st.totalUsage.total + t } }

/-- Take in the events of a request. -/
def consume : List Event → Turn → AgentM Attempt
  | [], turn => do
    if ← cancelled then return { outcome := .cancelled, turn := turn }
    recordUsage turn.usage
    return { outcome := .success, turn := turn }
  | .chunk c :: rest, turn => do
    if ← cancelled then return { outcome := .cancelled, turn := turn }
    consume rest (turn.add c)
  | .failure f :: _, turn => return { outcome := f.outcome, turn := turn, message := f.text }
  | .cancel :: rest, turn => do
    cancel
    consume rest turn
  | .halt :: rest, turn => do
    halt
    consume rest turn

/-- The nesting room of a turn's own decoding (the calls recovered from its text): the event
loop and the task that runs the agent lie between the entry point and the turn. -/
def turnRoom : Nat := entryRoom - 8

/-- The nesting room of the reading of an answer: the retries, the attempt and the provider's
stream lie between the turn and the reading. -/
def answerRoom : Nat := turnRoom - 3

/-- Ask the model once. -/
def attempt (history : List Message) (tools : List ToolDefinition) : AgentM Attempt := do
  let st ← get
  let (events, provider, ids) := st.provider.send answerRoom history tools st.host.signalled st.ids
  set { st with provider := provider, ids := ids }
  consume events {}

/-- Show the preview of a call. -/
def preview (call : ToolCall) : AgentM Unit :=
  modify fun st => { st with host := st.registry.preview call st.host }

/-- Run a call through the registry. A tool that asked the agent to stop is obeyed. -/
def execute (call : ToolCall) (timeout : Float) : AgentM ToolResult := do
  let st ← get
  let (r, host, registry) := st.registry.execute call timeout st.host
  set { st with host := { host with halt := false }, registry := registry }
  if host.halt then halt
  return r

/-- Recover calls written into the text of a reply. -/
def recoverCalls (text : String) : AgentM (List ToolCall) := do
  let st ← get
  let (calls, ids) ← shaped (Recovery.textCalls turnRoom text st.ids)
  set { st with ids := ids }
  return calls

/-- The steps as the caller receives them, each copied; a step it cannot copy
(`Step.copyable`) fails the caller with `RecursionError`. -/
def received (s : Session) : Except (String × String) (List Step) :=
  if s.steps.all Step.copyable then .ok s.steps
  else .error ("RecursionError", "maximum recursion depth exceeded")

end Session

end CodingAgent.Agent
