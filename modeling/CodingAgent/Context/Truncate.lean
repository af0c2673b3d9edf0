import CodingAgent.Context.Estimate
import CodingAgent.Json.Order

/-!
# Fitting a conversation into a budget

`truncate` fits a conversation into a token budget in two moves. A conversation within the
budget stays as it is. Otherwise, when there are more messages than the first two plus the
`keepRecent` last ones, the span between them is replaced by one system note; if that fits,
it is the result. Failing that, long messages are shortened one by one, from the second
message on, until the whole fits: a non-system message of more than 500 tokens keeps the
prefix that fits into a third of its tokens (at least 200) and a note of its former size.

A budget is an integer or a double, and a count of tokens is compared with it exactly; a NaN
budget admits nothing. `truncateValues` takes the budget and the number of recent messages
as JSON values and fails, with the message of a type error, where they cannot be compared or
where a fractional count would have to cut the list.
-/

namespace CodingAgent.Context

open CodingAgent
open CodingAgent.Json

/-- A token budget: an integer or a double. -/
inductive Budget where
  | whole (n : Int)
  | real (x : Float)

/-- Whether `tokens` tokens fit into the budget, compared exactly. -/
def Budget.admits : Budget → Nat → Bool
  | .whole n, tokens => decide ((tokens : Int) ≤ n)
  | .real x, tokens => !x.isNaN && !floatLessInt x tokens

/-- The number a JSON value stands for, flags counting as 0 and 1. -/
def Budget.ofValue? : Value → Option Budget
  | .bool b => some (.whole (if b then 1 else 0))
  | .int n => some (.whole n)
  | .num x => some (.real x)
  | _ => none

/-- Messages of more tokens than this are shortened when the budget is still exceeded. -/
def longMessageTokens : Nat := 500

/-- A shortened message keeps at least this many tokens. -/
def shrunkFloor : Nat := 200

/-- The note that replaces `elided` messages from the middle of a conversation. -/
def truncationNote (elided : Nat) : Message :=
  .text .system ("[Context truncated: " ++ toString elided ++
    " earlier messages were removed to stay within the token budget.]")

/-- The number of leading items of a content, each a single character, whose cost stays
within `budget` quarter tokens. -/
def itemsWithin : Nat → List Value → Nat
  | _, [] => 0
  | budget, v :: rest =>
    let cost := match v with
      | .str s => quarters (CodingAgent.Text.codePoints s.toList)
      | _ => 0
    if cost ≤ budget then 1 + itemsWithin (budget - cost) rest else 0

/-- The part of a content that fits into `target` tokens, as text: a prefix of a text, the
written form of a prefix of a list, or of a whole object; an object that does not fit whole
cannot be cut. -/
def contentWithin (content : Value) (target : Nat) : Except ShapeError String :=
  match content with
  | .str s => .ok (truncateToTokens s target)
  | .arr xs => .ok (Value.display (.arr (xs.take (itemsWithin (4 * target) xs))))
  | .obj ms =>
    if itemsWithin (4 * target) ((Members.keys ms).map Value.str) < ms.length then
      .error (.unhashable "slice")
    else .ok content.display
  | v => .ok v.display

/-- The shortened form of a long content of `tokens` tokens. -/
def shortened (content : Value) (tokens : Nat) : Except ShapeError Value := do
  let kept ← contentWithin content (max shrunkFloor (tokens / 3))
  return .str (kept ++ "\n... [truncated, original ~" ++ toString tokens ++ " tokens]")

/-- A message shortened if it is long and not a system message. -/
def shrinkOne (m : Message) : Except ShapeError Message := do
  if m.role == .system then return m
  let tokens ← contentTokens m.content
  if tokens ≤ longMessageTokens then return m
  return { m with content := ← shortened m.content tokens }

/-- Shorten messages in order, from the front of `rest`, until `done ++ rest` fits into
`budget`; `done` holds the messages already passed. -/
def shrinkFrom (budget : Budget) : List Message → List Message → Except ShapeError (List Message)
  | done, [] => .ok done
  | done, m :: rest => do
    if budget.admits (← conversationTokens (done ++ m :: rest)) then return done ++ m :: rest
    shrinkFrom budget (done ++ [← shrinkOne m]) rest

/-- Shorten long messages after the first until the conversation fits into `budget`. -/
def shrinkLong (ms : List Message) (budget : Budget) : Except ShapeError (List Message) :=
  match ms with
  | [] => .ok []
  | first :: rest => shrinkFrom budget [first] rest

/-- Fit a conversation that exceeds `budget` into it, keeping the first two and the `keep`
last messages when the middle must go. -/
def truncateOver (ms : List Message) (budget : Budget) (keep : Nat) :
    Except ShapeError (List Message) := do
  if ms.length > 2 + keep then
    let tail := ms.drop (ms.length - keep)
    let result := ms.take 2 ++ truncationNote (ms.length - 2 - keep) :: tail
    if budget.admits (← conversationTokens result) then return result
    shrinkLong result budget
  else shrinkLong ms budget

/-- Fit a conversation into `budget` tokens, keeping the first two and the `keepRecent` last
messages when the middle must go. -/
def truncate (ms : List Message) (budget : Budget) (keepRecent : Int) :
    Except ShapeError (List Message) := do
  if budget.admits (← conversationTokens ms) then return ms
  truncateOver ms budget keepRecent.toNat

/-- `truncate` with the budget and the number of recent messages given as JSON values. A
budget that is not a number cannot be compared with the count of tokens; a count that is not
a number cannot be compared with zero; a positive fractional count cannot cut the list, and
fails once the conversation is longer than the first two messages and that count. Every
failure is a type error, given by its message. -/
def truncateValues (ms : List Message) (budget keep : Value) : Except String (List Message) := do
  let shape {α : Type} (r : Except ShapeError α) : Except String α := r.mapError ShapeError.message
  let tokens ← shape (conversationTokens ms)
  let some b := Budget.ofValue? budget
    | throw ("'<=' not supported between instances of 'int' and '" ++ budget.kindName ++ "'")
  if b.admits tokens then return ms
  let some k := Budget.ofValue? keep
    | throw ("'>' not supported between instances of '" ++ keep.kindName ++ "' and 'int'")
  match k with
  | .whole n => shape (truncateOver ms b n.toNat)
  | .real x =>
    if intLessFloat 0 x then
      if floatLessInt (2.0 + x) ms.length then
        throw "slice indices must be integers or None or have an __index__ method"
      else shape (shrinkLong ms b)
    else shape (truncateOver ms b 0)

end CodingAgent.Context
