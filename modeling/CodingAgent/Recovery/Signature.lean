import CodingAgent.Conversation.ToolCall
import CodingAgent.Json.Shape
import CodingAgent.Json.Sort
import CodingAgent.Json.Lax
import CodingAgent.Text.Case
import CodingAgent.Text.Blank

/-!
# Call signatures and the duplicate guard

The signature of a call identifies calls that do the same thing: the name, then for each
argument key in order a part `key=value`, joined by `|`. A value is written as itself when it
is text, as nothing when it is null, and as sorted JSON otherwise. Path values (`path`,
`file_path`, `directory`) lose trailing slashes and backslashes and are lower-cased; query
values (`query`, `pattern`, `name`, `command`) are trimmed and lower-cased.

A `DuplicateGuard` remembers the signatures of the calls it has let through in one task and
stops a call whose signature it has seen, except for calls to exempt tools.

Arguments that are no object have no keys to sign in the usual way: a value that counts as
false signs as no arguments, and other values are refused the way the sorting and indexing
of their items would refuse them.
-/

namespace CodingAgent.Recovery

open CodingAgent CodingAgent.Json CodingAgent.Text

/-- Keys whose values are paths. -/
def pathKeys : List String := ["path", "file_path", "directory"]

/-- Keys whose values are queries. -/
def queryKeys : List String := ["query", "pattern", "name", "command"]

/-- The text of an argument value in a signature. -/
def signatureValue : Value → String
  | .str s => s
  | .null => ""
  | v => v.dumpSorted

/-- The signature part of one argument. -/
def signaturePart (key : String) (v : Value) : String :=
  let text := signatureValue v
  let text := if pathKeys.contains key then lower (trimEndChars ['/', '\\'] text)
    else if queryKeys.contains key then lower (trim text)
    else text
  key ++ "=" ++ text

/-- The position an item of a list used as a key stands for in a list of `len` items:
integers (booleans as 0 and 1) count from the front, or from the back when negative. -/
def listPosition (len : Nat) (key : Value) : Except ShapeError Nat :=
  match key.integerValue? with
  | some k =>
    if k < -wordBound || wordBound ≤ k then .error .indexSize
    else
      let pos := if k < 0 then (len : Int) + k else k
      if 0 ≤ pos && pos < len then .ok pos.toNat else .error .indexRange
  | none => .error (.badIndex "list" key.kindName)

/-- How an item of a list used as a key is written in a signature. -/
def keyText : Value → String
  | .bool true => "True"
  | .bool false => "False"
  | .int k => toString k
  | v => signatureValue v

/-- The signature parts of a list of arguments used as keys: the items are sorted, then each
is used as a position into the list itself. -/
def itemParts (xs : List Value) : Except ShapeError (List String) := do
  let keys ← sortValues xs
  keys.mapM (fun k => do
    let pos ← listPosition xs.length k
    pure (keyText k ++ "=" ++ signatureValue (xs.getD pos .null)))

/-- The signature parts of a call's arguments. -/
def argumentParts : Value → Except ShapeError (List String)
  | .obj ms =>
    let sorted := ms.mergeSort (fun a b => CodingAgent.Text.codeLe a.1 b.1)
    .ok (sorted.map (fun kv => signaturePart kv.1 kv.2))
  | .arr xs => if xs.isEmpty then .ok [] else itemParts xs
  | .str s => if s.isEmpty then .ok [] else .error (.badIndex "string" "str")
  | v => if v.truthy then .error (.notIterable v.kindName) else .ok []

/-- The signature of a call. A name that is no text cannot be joined to the parts, which
shows only after the parts are made. -/
def signature (c : ToolCall) : Except ShapeError String := do
  let parts ← argumentParts c.arguments
  match c.nameOrEmpty with
  | .str n => pure ("|".intercalate (n :: parts))
  | v => throw (.joinItem 0 v.kindName)

/-- The calls a task has let through, by signature. -/
structure DuplicateGuard where
  /-- Lower-cased names of the tools that are never stopped. -/
  exempt : List String
  /-- Signatures seen, in order. -/
  seen : List String := []

/-- A guard exempting the given tools. -/
def DuplicateGuard.exempting (names : List String) : DuplicateGuard :=
  { exempt := names.map lower }

/-- Whether the call's tool is exempt; a name that is no text cannot be lower-cased. -/
def DuplicateGuard.isExempt (g : DuplicateGuard) (c : ToolCall) : Except ShapeError Bool := do
  pure (g.exempt.contains (lower (← c.nameText? "lower")))

/-- Check a call: `true` when a call of the same signature went before; otherwise its
signature is remembered. -/
def DuplicateGuard.check (g : DuplicateGuard) (c : ToolCall) :
    Except ShapeError (Bool × DuplicateGuard) := do
  if ← g.isExempt c then return (false, g)
  let sig ← signature c
  if g.seen.contains sig then pure (true, g)
  else pure (false, { g with seen := g.seen ++ [sig] })

end CodingAgent.Recovery
