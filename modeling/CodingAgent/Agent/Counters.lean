import CodingAgent.Json.Value
/-!
# Counters of one task

`Counters` is the bookkeeping of one run of the agent loop: the iteration, the requests made,
and two streaks. A streak of failed tool calls ends the task once it reaches its limit; a
streak of replies without a tool call ends it once it goes past its limit. A successful tool
call resets the first streak, a reply with tool calls the second.
-/

namespace CodingAgent.Agent

/-- The bookkeeping of one task. -/
structure Counters where
  iteration : Nat := 0
  requests : Nat := 0
  mistakes : Nat := 0
  maxMistakes : Int := 3
  withoutTools : Nat := 0
  maxWithoutTools : Int := 2
  usedTools : Bool := false
  editedFile : Bool := false
  completed : Bool := false
  aborted : Bool := false
  lastTool : CodingAgent.Json.Value := .str ""

namespace Counters

/-- Whether the streak of failed tool calls has reached its limit. -/
def mistakeLimitReached (c : Counters) : Bool :=
  decide ((c.mistakes : Int) ≥ c.maxMistakes)

/-- Count a failed tool call; the answer says whether the limit is now reached. -/
def addMistake (c : Counters) : Bool × Counters :=
  let c := { c with mistakes := c.mistakes + 1 }
  (c.mistakeLimitReached, c)

/-- End the streak of failed tool calls. -/
def clearMistakes (c : Counters) : Counters :=
  { c with mistakes := 0 }

/-- Count a reply without tool calls; the answer says whether the streak is now past its
limit. -/
def addWithoutTools (c : Counters) : Bool × Counters :=
  let c := { c with withoutTools := c.withoutTools + 1 }
  (decide ((c.withoutTools : Int) > c.maxWithoutTools), c)

/-- End the streak of replies without tool calls. -/
def clearWithoutTools (c : Counters) : Counters :=
  { c with withoutTools := 0 }

end Counters

end CodingAgent.Agent
