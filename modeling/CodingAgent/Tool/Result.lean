import CodingAgent.Json.Lax
import CodingAgent.Text.Blank

/-!
# Tool results

A `ToolResult` says how a tool call went: a success with its content, or a failure with its
error. Exactly one of `content` and `error` is present, as the success flag says.

`ToolResult.make` builds a result from loose fields and restores that rule: a success
without content has empty content and drops any error; a failure drops its content and,
when its error is blank, takes the trimmed content as the error, or `Tool execution failed`
when that is blank too.
-/

namespace CodingAgent.Tool

open CodingAgent.Json CodingAgent.Text

/-- How a tool call went. -/
structure ToolResult where
  success : Bool
  content : Option String
  error : Option String

/-- The error of a failure whose error and content are both blank. -/
def genericFailure : String := "Tool execution failed"

namespace ToolResult

/-- A result from loose fields, with exactly one of content and error. -/
def make (success : Bool) (content error : Option String) : ToolResult :=
  if success then { success := true, content := some (content.getD ""), error := none }
  else
    let err := match error with
      | some e => if isBlankText e then none else some e
      | none => none
    let err := err.getD (let fb := trim (content.getD ""); if fb.isEmpty then genericFailure else fb)
    { success := false, content := none, error := some err }

/-- A success with its content. -/
def ok (content : String) : ToolResult :=
  make true (some content) none

/-- A failure with its error. -/
def fail (error : String) : ToolResult :=
  make false none (some error)

/-- The result as an object `{success, content, error}`. -/
def toValue (r : ToolResult) : Value :=
  .obj [("success", .bool r.success),
    ("content", match r.content with | some c => .str c | none => .null),
    ("error", match r.error with | some e => .str e | none => .null)]

end ToolResult

/-- Optional text: null or text. -/
def laxOptText : Value → Except String (Option String)
  | .null => .ok none
  | .str s => .ok (some s)
  | _ => .error "string_type"

/-- A result read from an object of loose fields; fields that are absent take the defaults
(success, no content, no error). -/
def ToolResult.read (ms : Members) : Except (List Issue) ToolResult :=
  let c : Checked ToolResult := do
    let success ← field ms [] "success" (scalar laxFlag) true
    let content ← field ms [] "content" (scalar laxOptText) none
    let error ← field ms [] "error" (scalar laxOptText) none
    pure (ToolResult.make success content error)
  if c.issues.isEmpty then .ok c.value else .error c.issues

/-- A success from a loose content value. -/
def ToolResult.okOf (content : Value) : Except (List Issue) ToolResult :=
  ToolResult.read [("success", .bool true), ("content", content)]

/-- A failure from a loose error value. -/
def ToolResult.failOf (error : Value) : Except (List Issue) ToolResult :=
  ToolResult.read [("success", .bool false), ("error", error)]

end CodingAgent.Tool
