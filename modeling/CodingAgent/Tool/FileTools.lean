import CodingAgent.Tool.Tool
import CodingAgent.Text.Numeral
import CodingAgent.Text.Case
import CodingAgent.Text.Search

/-!
# The file tools and the task tools

Five built-in tools, each a computation in `ToolM`: it reads and changes the host and may
raise.

* `attempt_completion` ends the task: its result is `TASK_COMPLETED:` and the summary, with a
  suggested command appended when one is given.
* `condense` hands back a summary to replace the history: `CONDENSE:` and the summary.
* `read_file` reads a file, or a window of its lines: `offset` is the first line (from 1) and
  `limit` the number of lines; either may be text.
* `write_to_file` creates a file that does not exist yet, after the user confirms.
* `edit` replaces a text that occurs once in a file (or every occurrence, when asked), after
  the user approves the change.

Arguments are shown as text (`Value.display`) before use; an argument that is absent or null
is missing.
-/

namespace CodingAgent.Tool

open CodingAgent CodingAgent.Json CodingAgent.Text CodingAgent.Workspace

/-- A tool's computation: it reads and changes the host and may raise. -/
abbrev ToolM := ExceptT Raised (StateM Host)

/-- Run a computation that may raise inside `ToolM`. -/
def liftRaise (e : Except Raised α) : ToolM α :=
  match e with
  | .ok a => pure a
  | .error r => throw r

/-- The start of the result of a completed task. -/
def completedMarker : String := "TASK_COMPLETED:"

/-- The start of the result of a condense call. -/
def condenseMarker : String := "CONDENSE:"

/-- `attempt_completion`. -/
def completionRun (call : ToolCall) : ToolM ToolResult := do
  let result ← liftRaise (argGet call.arguments "result")
  if result.isNull then return ToolResult.fail "Missing required parameter: result"
  let result := result.display
  if isBlankText result then return ToolResult.fail "Result cannot be empty"
  let command ← liftRaise (argGet call.arguments "command")
  let message := if !command.isNull && !isBlankText command.display then
      result ++ "\n\nSuggested command to verify:\n" ++ command.display
    else result
  return ToolResult.ok (completedMarker ++ message)

/-- `condense`. -/
def condenseRun (call : ToolCall) : ToolM ToolResult := do
  let summary ← liftRaise (argGet call.arguments "summary")
  if summary.isNull then return ToolResult.fail "Missing required parameter: summary"
  let summary := summary.display
  if isBlankText summary then return ToolResult.fail "Summary cannot be empty"
  return ToolResult.ok (condenseMarker ++ summary)

/-- A line number given as an argument: the integer its text reads as once stripped of blanks.
Anything else is no line number: booleans, text that is no numeral, and a numeral of more than
`digitLimit` digits, which `Value.toInt` refuses. -/
def lineNumber (v : Value) : Option Int :=
  match v with
  | .null | .bool _ => none
  | v => (Value.toInt (.str (trim v.display))).toOption

/-- The lines of a text: the pieces between its line feeds, so that a text of `k` line feeds
has `k + 1` lines. -/
def textLines (content : String) : List String :=
  (content.toList.splitOn '\n').map String.ofList

/-- The line a window starts at, counted from 1: the offset, and the first line for an offset
of 0 or none. -/
def firstLine (offset : Option Int) : Int :=
  match offset with
  | some o => if o == 0 then 1 else o
  | none => 1

/-- The lines `offset ..` of a text, at most `limit` of them. -/
def lineWindow (content : String) (offset limit : Option Int) : String :=
  let lines := textLines content
  let start : Int := max 0 (firstLine offset - 1)
  if start ≥ lines.length then "(empty - offset beyond file length)"
  else
    let left : Int := lines.length - start
    let count := max 0 (min (limit.getD left) left)
    "\n".intercalate ((lines.drop start.toNat).take count.toNat)

/-- `read_file`. -/
def readRun (call : ToolCall) : ToolM ToolResult := do
  let path ← liftRaise (argGet call.arguments "path")
  if path.isNull then return ToolResult.fail "Missing required parameter: path"
  let path := path.display
  let h ← get
  if !(← liftRaise (accessible h path)) then return ToolResult.fail ("Access denied: " ++ path)
  if !(← liftRaise (exists? h path)) then return ToolResult.fail ("File not found: " ++ path)
  let content ← match h.workspace.read path with
    | .ok t => pure t
    | .error (.fs (.undecodable _)) => return ToolResult.fail ("Not a text file: " ++ path)
    | .error e => throw (raisedOf e)
  let offset := lineNumber (← liftRaise (argGet call.arguments "offset"))
  let limit := lineNumber (← liftRaise (argGet call.arguments "limit"))
  if offset.isNone && limit.isNone then return ToolResult.ok content
  return ToolResult.ok (lineWindow content offset limit)

/-- The end of both tools that change a file: on the user's answer to the question asked (the
answer and the workspace that recorded the question), write `content` to the file of `path`
and report `message`. A write that fails raises, with the workspace it left. -/
def commitWrite (answer : Bool × Workspace) (path content message : String) :
    ToolM ToolResult := do
  let h ← get
  let (approved, w) := answer
  set { h with workspace := w }
  if !approved then return ToolResult.fail "Operation cancelled by user"
  let (w, failure) := w.write path content
  set { h with workspace := w }
  if let some e := failure then throw (raisedOf e)
  return ToolResult.ok message

/-- How many characters of a preview of new content are shown. -/
def previewChars : Nat := 500

/-- `write_to_file`. -/
def writeRun (call : ToolCall) : ToolM ToolResult := do
  let path ← liftRaise (argGet call.arguments "path")
  if path.isNull then return ToolResult.fail "Missing required parameter: path"
  let content ← liftRaise (argGet call.arguments "content")
  if content.isNull then return ToolResult.fail "Missing required parameter: content"
  let path := path.display
  let content := content.display
  let h ← get
  if !(← liftRaise (accessible h path)) then return ToolResult.fail ("Access denied: " ++ path)
  if ← liftRaise (exists? h path) then
    return ToolResult.fail ("File already exists: " ++ path ++
      ". Use 'edit' tool to modify existing files.")
  commitWrite (h.workspace.confirm "Create File"
      ("Create new file: " ++ path ++ "\n\nContent preview:\n" ++
        ofCodePoints ((codePoints content.toList).take previewChars) ++ "..."))
    path content ("File created: " ++ path)

/-- `edit` with its arguments read: replace `old` by `new` in the file of `path`, every
occurrence or the only one. -/
def editWith (path old new : String) (replaceAll : Bool) : ToolM ToolResult := do
  let h ← get
  if !(← liftRaise (accessible h path)) then return ToolResult.fail ("Access denied: " ++ path)
  if !(← liftRaise (exists? h path)) then return ToolResult.fail ("File not found: " ++ path)
  let content ← match h.workspace.read path with
    | .ok t => pure t
    | .error e => throw (raisedOf e)
  let occurrences := if old.isEmpty then 0 else occurrenceCount old content
  if occurrences == 0 then
    return ToolResult.fail
      "old_string not found in file. Make sure the string matches exactly including whitespace."
  if occurrences > 1 && !replaceAll then
    return ToolResult.fail ("old_string is not unique in the file. Provide more context to " ++
      "make it unique, or use replace_all=true.")
  if old == new then
    return ToolResult.fail "old_string and new_string are identical. This is a no-op."
  let updated := replaceOccurrences old new (if replaceAll then none else some 1) content
  let replaced := if replaceAll then occurrences else 1
  commitWrite (h.workspace.approveChange path) path updated
    ("File edited: " ++ path ++ " (" ++ toString replaced ++ " replacement(s) made)")

/-- `edit`. -/
def editRun (call : ToolCall) : ToolM ToolResult := do
  for key in ["file_path", "old_string", "new_string"] do
    if (← liftRaise (argGet call.arguments key)).isNull then
      return ToolResult.fail ("Missing required parameter: " ++ key)
  let path := (← liftRaise (argGet call.arguments "file_path")).display
  let old := (← liftRaise (argGet call.arguments "old_string")).display
  let new := (← liftRaise (argGet call.arguments "new_string")).display
  let replaceAll :=
    lower (trim (← liftRaise (argGetD call.arguments "replace_all" (.bool false))).display) == "true"
  editWith path old new replaceAll

/-- The preview of an `edit` call: a progress message naming the file. -/
def editPreview (call : ToolCall) (h : Host) : Host :=
  match argGet call.arguments "file_path" with
  | .ok v => if v.truthy then h.showProgress ("Editing " ++ v.display) else h
  | .error _ => h

end CodingAgent.Tool
