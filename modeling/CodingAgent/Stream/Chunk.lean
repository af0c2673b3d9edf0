import CodingAgent.Conversation.ToolCall

/-!
# Chunks and turns

A model's response arrives as chunks: a piece of text, a complete tool call, or the end of
the response with its finish reason and token usage. A finish reason of `length` or
`max_tokens` means the text was cut off by a length limit.

A `Turn` collects the chunks of one response: the text pieces in order, the calls in order,
whether the text was cut off, and the last usage that counts as true.
-/

namespace CodingAgent

open CodingAgent.Json

/-- One unit of a model response. -/
inductive Chunk where
  | text (s : String)
  | call (c : ToolCall)
  /-- The end of a response; `null` stands for an absent finish reason or usage. -/
  | done (finishReason : Value) (usage : Value)

/-- Whether a finish reason says the text was cut off by a length limit. -/
def cutOffReason : Value → Bool
  | .str "length" => true
  | .str "max_tokens" => true
  | _ => false

/-- Whether the chunk ends a response that was cut off. -/
def Chunk.isTruncation : Chunk → Bool
  | .done reason _ => cutOffReason reason
  | _ => false

/-- The chunks of one response, collected. -/
structure Turn where
  segments : List String := []
  calls : List ToolCall := []
  truncated : Bool := false
  usage : Value := .null
deriving Inhabited

/-- Add a chunk to a turn. -/
def Turn.add (t : Turn) : Chunk → Turn
  | .text s => { t with segments := t.segments ++ [s] }
  | .call c => { t with calls := t.calls ++ [c] }
  | .done reason usage =>
    let t := if cutOffReason reason then { t with truncated := true } else t
    if usage.truthy then { t with usage := usage } else t

/-- The turn's text: its pieces joined. -/
def Turn.text (t : Turn) : String :=
  String.join t.segments

/-- The turn made of chunks. -/
def Turn.ofChunks (cs : List Chunk) : Turn :=
  cs.foldl Turn.add {}

end CodingAgent
