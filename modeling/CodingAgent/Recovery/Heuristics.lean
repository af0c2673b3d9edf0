import CodingAgent.Conversation.ToolCall
import CodingAgent.Json.Shape
import CodingAgent.Text.Case
import CodingAgent.Text.Blank
import CodingAgent.Text.CodePoints
import CodingAgent.Text.Search

/-!
# Request heuristics

Two guesses the agent makes from the user's request.

`augmentListing` turns a directory listing into a recursive one when the request asks for a
whole tree: when the lower-cased request contains one of the lower-cased keywords, every call
of the listing tool whose arguments lack `recursive` gets `recursive = true`. An explicit
value, even `null`, is kept.

`isConversational` guesses that a request is small talk: a blank request is, a trimmed request
longer than the limit is not, and otherwise it is when it contains none of the task keywords
(all compared lower-cased). Lengths count characters.
-/

namespace CodingAgent.Recovery

open CodingAgent CodingAgent.Json CodingAgent.Text

/-- The lower-cased form of a keyword, or the error of lower-casing what is no text. -/
def lowerKeyword (kw : Value) : Except ShapeError String :=
  match kw with
  | .str s => .ok (lower s)
  | v => .error (.noAttribute v.kindName "lower")

/-- The first keyword whose lower-cased form occurs in `hay`; keywords after it are not
looked at. -/
def firstKeywordIn (hay : String) : List Value → Except ShapeError (Option String)
  | [] => .ok none
  | kw :: rest => do
    let k ← lowerKeyword kw
    if occurs k hay then pure (some k) else firstKeywordIn hay rest

/-- Mark one call of the listing tool as recursive unless its arguments say otherwise.
Arguments that are no object are asked for the key the way their kind answers membership. -/
def markRecursive (listing : String) (c : ToolCall) : Except ShapeError ToolCall :=
  if c.nameString? != some listing then .ok c
  else match c.arguments with
    | .obj ms =>
      if Members.contains ms "recursive" then .ok c
      else .ok { c with arguments := .obj (Members.set ms "recursive" (.bool true)) }
    | .arr xs =>
      if xs.any (fun x => x.asStr? == some "recursive") then .ok c
      else .error (.badIndex "list" "str")
    | .str s => if occurs "recursive" s then .ok c else .error (.noItemStore "str")
    | v => .error (.noMembers v.kindName)

/-- Listing calls made recursive when the request asks for a whole tree. -/
def augmentListing (calls : List ToolCall) (request : Value) (listing : String)
    (keywords : List Value) : Except ShapeError (List ToolCall) :=
  if !request.truthy then .ok calls
  else match request with
    | .str r => do
      match ← firstKeywordIn (lower r) keywords with
      | none => pure calls
      | some _ => calls.mapM (markRecursive listing)
    | v => .error (.noAttribute v.kindName "lower")

/-- Whether a request looks like small talk rather than a task. -/
def isConversational (message : Value) (keywords : List Value) (maxChars : Int) :
    Except ShapeError Bool :=
  if !message.truthy then .ok true
  else match message with
    | .str m =>
      let trimmed := trim m
      if trimmed.isEmpty then .ok true
      else if (Text.codeLength trimmed : Int) > maxChars then .ok false
      else do
        let hay := lower trimmed
        let found ← firstKeywordIn hay keywords
        pure found.isNone
    | v => .error (.noAttribute v.kindName "strip")

end CodingAgent.Recovery
