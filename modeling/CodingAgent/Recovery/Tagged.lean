import CodingAgent.Recovery.Sanitize
import CodingAgent.Conversation.ToolCall
import CodingAgent.Conversation.Ids
import CodingAgent.Text.Word
import CodingAgent.Text.Case

/-!
# Calls written as tagged blocks

Some models write a call into their text as a block

    <function=NAME><parameter=KEY>VALUE<parameter=KEY2>VALUE2</tool_call>

`taggedBlocks` finds the blocks from left to right: an opening `<function=`, a name of word
characters, `>`, then the body up to the first closing `</tool_call>` or `</function>`.
The opening and closing marks match without regard to letter case. A block without a
closing mark is no block, and the search goes on after its `<`.

`blockParameters` reads the parameters of a body (after trimming it): each starts with
`<parameter=`, a key of word characters and `>`, and its value is everything after the
blanks that follow, up to the next `<parameter=` or the end. Values are cleaned by
`sanitize`; a repeated key keeps its first place and its last value.

`taggedCalls` turns each block with at least one parameter into a call with a fresh id.
-/

namespace CodingAgent.Recovery

open CodingAgent CodingAgent.Json CodingAgent.Text

/-- The letter a character stands for when tag marks are compared without regard to case:
the lower case of the character alone, four letters folded by hand. -/
def foldLetter (c : Char) : Char :=
  match c.toNat with
  | 0x131 => 'i'
  | 0x17F => 's'
  | 0x212A => 'k'
  | 0x130 => 'i'
  | _ => match (lower c.toString).toList with
    | [d] => d
    | _ => c

/-- Letters equal without regard to case, as the tag marks are matched. -/
def sameLetter (a b : Char) : Bool :=
  a == b || foldLetter a == foldLetter b

/-- The rest after `word` at the front of `cs`, letters compared without regard to case. -/
def dropWordFolded : List Char → List Char → Option (List Char)
  | [], cs => some cs
  | _ :: _, [] => none
  | w :: ws, c :: cs => if sameLetter w c then dropWordFolded ws cs else none

/-- The rest after `word` at the front of `cs`, exactly. -/
def dropWordExact : List Char → List Char → Option (List Char)
  | [], cs => some cs
  | _ :: _, [] => none
  | w :: ws, c :: cs => if w == c then dropWordExact ws cs else none

/-- A name of word characters followed by `>`: the name and the rest after `>`. -/
def nameThenClose (cs : List Char) : Option (String × List Char) :=
  let name := cs.takeWhile isWordChar
  match cs.dropWhile isWordChar with
  | '>' :: rest => if name.isEmpty then none else some (String.ofList name, rest)
  | _ => none

/-- The rest after a closing mark at the front of `cs`. -/
def dropClosing (cs : List Char) : Option (List Char) :=
  match dropWordExact "</".toList cs with
  | none => none
  | some rest =>
    match dropWordFolded "tool_call>".toList rest with
    | some after => some after
    | none => dropWordFolded "function>".toList rest

/-- The body up to the first closing mark, and the rest after it; `acc` holds the body read
so far, last first. -/
def bodyUntilClosing : List Char → List Char → Option (String × List Char)
  | [], _ => none
  | c :: rest, acc =>
    match dropClosing (c :: rest) with
    | some after => some (String.ofList acc.reverse, after)
    | none => bodyUntilClosing rest (c :: acc)

/-- A block that starts at the front of `cs`: name, body and the rest after it. -/
def blockAt (cs : List Char) : Option (String × String × List Char) := do
  let rest ← dropWordFolded "<function=".toList cs
  let (name, rest) ← nameThenClose rest
  let (body, after) ← bodyUntilClosing rest []
  pure (name, body, after)

/-- All blocks, left to right, as name and body. -/
def taggedBlocks (cs : List Char) : List (String × String) :=
  go cs.length cs
where
  go : Nat → List Char → List (String × String)
    | 0, _ => []
    | _ + 1, [] => []
    | fuel + 1, c :: rest =>
      match blockAt (c :: rest) with
      | some (name, body, after) => (name, body) :: go fuel after
      | none => go fuel rest

/-- The value of a parameter: the characters up to the next `<parameter=` or the end. -/
def valueUntilNext : List Char → List Char × List Char
  | [] => ([], [])
  | c :: rest =>
    match dropWordExact "<parameter=".toList (c :: rest) with
    | some _ => ([], c :: rest)
    | none =>
      let (v, after) := valueUntilNext rest
      (c :: v, after)

/-- A parameter that starts at the front of `cs`: key, raw value and the rest. -/
def parameterAt (cs : List Char) : Option (String × String × List Char) := do
  let rest ← dropWordExact "<parameter=".toList cs
  let (key, rest) ← nameThenClose rest
  let (value, after) := valueUntilNext (rest.dropWhile isSpace)
  pure (key, String.ofList value, after)

/-- The parameters of a body, left to right, as key and raw value. -/
def parametersOf (cs : List Char) : List (String × String) :=
  go cs.length cs
where
  go : Nat → List Char → List (String × String)
    | 0, _ => []
    | _ + 1, [] => []
    | fuel + 1, c :: rest =>
      match parameterAt (c :: rest) with
      | some (key, value, after) => (key, value) :: go fuel after
      | none => go fuel rest

/-- The arguments of a block body: cleaned values by key. -/
def blockArguments (body : String) : Members :=
  (parametersOf (trim body).toList).foldl
    (fun acc kv => Members.set acc (trim kv.1) (.str (sanitize kv.2))) []

/-- The calls written as tagged blocks, each with a fresh id; blocks without parameters or
name are skipped. -/
def taggedCalls (text : String) (ids : IdSource) : List ToolCall × IdSource :=
  (taggedBlocks text.toList).foldl (fun (acc : List ToolCall × IdSource) nb =>
    let name := trim nb.1
    let args := blockArguments nb.2
    if name.isEmpty || args.isEmpty then acc
    else
      let (id, ids) := acc.2.freshText
      (acc.1 ++ [{ id := .str id, name := .str name, arguments := .obj args }], ids)) ([], ids)

end CodingAgent.Recovery
