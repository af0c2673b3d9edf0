import CodingAgent.Tool.Result
import CodingAgent.Conversation.ToolCall

/-!
# Steps of a running task

A running task reports what happens as a sequence of steps: pieces of text for the user, the
start and the result of each tool call, and at the end either the final answer or an error.
The last two end the task.

The caller takes a copy of every step it receives. The copy recurses through a call's
arguments two levels of the stack per level of nesting, above the levels of the caller, so
arguments nested deeper than `copyableNesting` cannot be copied: the caller fails with
`RecursionError`.
-/

namespace CodingAgent.Agent

open CodingAgent CodingAgent.Tool

/-- One observable event of a running task. -/
inductive Step where
  /-- A piece of text for the user. -/
  | text (s : String)
  /-- A tool call starts. -/
  | toolStart (call : ToolCall)
  /-- A tool call ended with this result. -/
  | toolResult (call : ToolCall) (r : ToolResult)
  /-- The task is done; this is the final answer. -/
  | complete (answer : String)
  /-- The task ends with this error. -/
  | error (message : String)

/-- Whether a step ends the task. -/
def Step.isTerminal : Step → Bool
  | .complete _ | .error _ => true
  | _ => false

/-- The deepest nesting of a call's arguments that the caller can copy. -/
def copyableNesting : Nat := 489

/-- Whether the caller can copy a step. -/
def Step.copyable : Step → Bool
  | .toolStart c | .toolResult c _ => c.arguments.nesting ≤ copyableNesting
  | _ => true

end CodingAgent.Agent
