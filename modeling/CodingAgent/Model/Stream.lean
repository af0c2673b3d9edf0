import CodingAgent.Model.Failure
import CodingAgent.Stream.Chunk

/-!
# What a model request delivers

A request to the model delivers a sequence of events: chunks of the response, in order, and
possibly a failure, after which nothing more arrives. Two things can also happen from outside
while the response streams in, and they take their place in the sequence: the user cancels
the task, or the agent is told to stop.
-/

namespace CodingAgent.Model

open CodingAgent

/-- One event of a model request. -/
inductive Event where
  /-- A chunk of the response. -/
  | chunk (c : Chunk)
  /-- The request fails. -/
  | failure (f : Failure)
  /-- The user cancels the task. -/
  | cancel
  /-- The agent is told to stop. -/
  | halt

/-- The events of a response that consists of these chunks. -/
def Event.ofChunks (cs : List Chunk) : List Event :=
  cs.map .chunk

end CodingAgent.Model
