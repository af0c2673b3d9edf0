import CodingAgent.Conversation.Message
import CodingAgent.Json.Shape
import CodingAgent.Text.Wide
import CodingAgent.Text.CodePoints

/-!
# Token estimates

A text's token estimate counts one and a half tokens per wide character and a quarter token
per other character, rounded up, and at least one for any non-empty text. Costs are counted
in quarter tokens so that every sum is exact.

A content that is no text counts nothing when it counts as false. Otherwise it is counted by
its items (a list) or its keys (an object), each of which must be a single character; any
other value has no items to count.

A message is estimated by its content plus, for each recorded call, its name (counted the
same way) and its arguments text; a conversation by the sum over its messages.
-/

namespace CodingAgent.Context

open CodingAgent CodingAgent.Json

/-- The cost of a code point in quarter tokens. -/
def codeQuarters (n : Nat) : Nat :=
  if CodingAgent.Text.isWideCode n then 6 else 1

/-- The cost of code points in quarter tokens. -/
def quarters : List Nat → Nat
  | [] => 0
  | n :: rest => codeQuarters n + quarters rest

/-- The token estimate of a text. -/
def estimateTokens (s : String) : Nat :=
  if s.isEmpty then 0 else max 1 ((quarters (CodingAgent.Text.codePoints s.toList) + 3) / 4)

/-- The cost in quarter tokens of one item of a content that is a list or an object: a
single character. -/
def itemQuarters : Value → Except ShapeError Nat
  | .str s =>
    match CodingAgent.Text.codePoints s.toList with
    | [n] => .ok (codeQuarters n)
    | _ => .error (.notCharacter "str")
  | .null => .error (.notCharacter "None")
  | v => .error (.notCharacter v.kindName)

/-- The cost in quarter tokens of the items of a content, the first bad item failing. -/
def itemsQuarters : List Value → Except ShapeError Nat
  | [] => .ok 0
  | v :: rest => do
    let here ← itemQuarters v
    let more ← itemsQuarters rest
    return here + more

/-- The items a content that is no text is counted by: a list's items, an object's keys. -/
def contentItems : Value → Except ShapeError (List Value)
  | .arr xs => .ok xs
  | .obj ms => .ok ((Members.keys ms).map Value.str)
  | v => .error (.notIterable v.kindName)

/-- The token estimate of a content. -/
def contentTokens (v : Value) : Except ShapeError Nat :=
  if !v.truthy then .ok 0
  else match v with
    | .str s => .ok (estimateTokens s)
    | v => do
      let q ← itemsQuarters (← contentItems v)
      return max 1 ((q + 3) / 4)

/-- The token estimate of recorded calls: each one's name (counted as a content) and
arguments text. -/
def recordTokens : List CallRecord → Except ShapeError Nat
  | [] => .ok 0
  | r :: rest => do
    let name ← contentTokens r.name
    let more ← recordTokens rest
    return name + estimateTokens r.arguments + more

/-- The token estimate of a message with its recorded calls. -/
def messageTokens (m : Message) : Except ShapeError Nat := do
  let content ← contentTokens m.content
  let calls ← recordTokens m.toolCalls
  return content + calls

/-- The token estimate of a conversation. -/
def conversationTokens : List Message → Except ShapeError Nat
  | [] => .ok 0
  | m :: rest => do
    let here ← messageTokens m
    let more ← conversationTokens rest
    return here + more

/-- The longest prefix of code points whose cost stays within `budget` quarter tokens. -/
def prefixWithin : Nat → List Nat → List Nat
  | _, [] => []
  | budget, n :: rest =>
    if codeQuarters n ≤ budget then n :: prefixWithin (budget - codeQuarters n) rest else []

/-- The longest prefix of a text whose estimate stays within `target` tokens. -/
def truncateToTokens (s : String) (target : Nat) : String :=
  CodingAgent.Text.ofCodePoints (prefixWithin (4 * target) (CodingAgent.Text.codePoints s.toList))

end CodingAgent.Context
