import CodingAgent.Json.Display
import CodingAgent.Text.Search

/-!
# Failures of a model request

A request to the model can fail in several ways, and the agent's retry policy depends only on
the kind of failure. `Failure` lists the kinds: an error status of the API, a lost
connection, a cancelled request, a generic model error, a timeout, a failure of the transport
below the API, and any other error of the program.

`Failure.outcome` maps a failure onto the retry policy: cancellation ends the task; an API
error that reports an overfull context is retried with a shorter history; API errors with a
transient status (429, 500, 502, 503, 504), connection, transport and timeout failures are
retried as they are; everything else is fatal.

An API error reports an overfull context only with status 400 and a message that contains
one of a few phrases, compared exactly.
-/

namespace CodingAgent.Model

open CodingAgent.Json

/-- How a request failed. -/
inductive Failure where
  /-- The API answered with an error status (if any) and this message. -/
  | api (message : String) (status : Option Int)
  /-- The connection to the API was lost. -/
  | connection (message : String)
  /-- The request was cancelled by the caller. -/
  | cancelled (message : String)
  /-- Another error of the model layer. -/
  | model (message : String)
  /-- A wait ran out of time. -/
  | timeout (message : String)
  /-- The transport below the API failed; `kind` names the failure. -/
  | transport (kind : String) (message : String)
  /-- Any other error; `kind` names it. -/
  | other (kind : String) (message : String)

/-- How one model request ended. -/
inductive Outcome where
  | success
  | cancelled
  | contextExceeded
  | transient
  | fatal
  deriving DecidableEq

/-- The name of an outcome. -/
def Outcome.name : Outcome → String
  | .success => "success"
  | .cancelled => "cancelled"
  | .contextExceeded => "context_exceeded"
  | .transient => "transient"
  | .fatal => "fatal"

/-- Phrases by which an API reports an overfull context. -/
def contextPhrases : List String :=
  ["context_length_exceeded", "maximum context length", "context window", "token limit",
   "max_tokens", "too long", "exceeds the model"]

/-- Statuses worth retrying. -/
def transientStatuses : List Int := [429, 500, 502, 503, 504]

namespace Failure

/-- The class name of the failure, as errors are reported. -/
def className : Failure → String
  | .api _ _ => "LLMAPIError"
  | .connection _ => "LLMConnectionError"
  | .cancelled _ => "LLMCancelledError"
  | .model _ => "LLMError"
  | .timeout _ => "TimeoutError"
  | .transport k _ => k
  | .other k _ => k

/-- The text of the failure. A missing key reports the key quoted. -/
def text : Failure → String
  | .api m _ | .connection m | .cancelled m | .model m | .timeout m | .transport _ m => m
  | .other k m => if k == "KeyError" then quoted m else m

/-- Whether an API error reports an overfull context. -/
def isContextExceeded : Failure → Bool
  | .api m (some 400) => contextPhrases.any (fun p => CodingAgent.Text.occurs p m)
  | _ => false

/-- Whether an API error has a status worth retrying. -/
def isTransient : Failure → Bool
  | .api _ (some s) => transientStatuses.contains s
  | _ => false

/-- The retry policy's view of a failure. -/
def outcome (f : Failure) : Outcome :=
  match f with
  | .cancelled _ => .cancelled
  | .api _ _ =>
    if f.isContextExceeded then .contextExceeded
    else if f.isTransient then .transient
    else .fatal
  | .connection _ | .timeout _ | .transport _ _ => .transient
  | .model _ | .other _ _ => .fatal

end Failure

end CodingAgent.Model
