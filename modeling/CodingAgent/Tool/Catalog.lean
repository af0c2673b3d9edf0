import CodingAgent.Tool.Listing

/-!
# The built-in tools

Six tools come with the agent: `attempt_completion`, `condense`, `list_dir`, `read_file`,
`write_to_file` and `edit`. Each has a name, a description and a parameter schema, which is
what the model is told about it, and a computation (`Builtin.run`). Only `edit` shows a
preview of a call before it runs.

`Builtin.all` lists them in the order a default registry holds them.
-/

namespace CodingAgent.Tool

open CodingAgent CodingAgent.Json

/-- The built-in tools. -/
inductive Builtin where
  | completion
  | condense
  | listing
  | reading
  | writing
  | editing
  deriving DecidableEq

namespace Builtin

/-- The built-in tools in the order of a default registry. -/
def all : List Builtin :=
  [.completion, .condense, .listing, .reading, .writing, .editing]

/-- The name the model calls a built-in tool by. -/
def name : Builtin → String
  | .completion => "attempt_completion"
  | .condense => "condense"
  | .listing => "list_dir"
  | .reading => "read_file"
  | .writing => "write_to_file"
  | .editing => "edit"

/-- The built-in tool of a name. -/
def ofName? (n : String) : Option Builtin :=
  all.find? (fun b => b.name == n)

/-- What the model is told a built-in tool does. -/
def description : Builtin → String
  | .completion =>
    "Signal that the task is complete and present the final result to the user. " ++
    "Use this when you have finished all work. Include a comprehensive summary " ++
    "of what was accomplished."
  | .condense =>
    "Condense the conversation history by providing a summary of work done so far. " ++
    "Use this when the conversation is getting long and you need more context space. " ++
    "The summary will replace earlier messages in the conversation."
  | .listing =>
    "List files and directories in the specified path. " ++
    "Use recursive=true when user asks for full/complete structure, directory tree, " ++
    "完整结构, 目录树. " ++
    "For large projects, set max_depth=2 or 3 to avoid excessive output."
  | .reading => "Read the contents of a file at the specified path."
  | .writing => "Create a new file with the specified content. Use this only for new files."
  | .editing =>
    "Make a precise edit to an existing file by replacing a unique string with new content."

/-- A parameter of a schema: its type and what it means. -/
def param (kind text : String) : Value :=
  .obj [("type", .str kind), ("description", .str text)]

/-- An object schema with its properties and required names. -/
def schema (properties : List (String × Value)) (required : List String) : Value :=
  .obj [("type", .str "object"), ("properties", .obj properties),
    ("required", .arr (required.map .str))]

/-- The parameter schema of a built-in tool. -/
def parameters : Builtin → Value
  | .completion => schema
    [("result", param "string"
        "A comprehensive summary of what was accomplished, including all changes made"),
     ("command", param "string"
        "Optional command to demonstrate the result (e.g. 'pytest', 'python -m app')")]
    ["result"]
  | .condense => schema
    [("summary", param "string"
        ("A comprehensive summary of all work done so far, including files " ++
         "read/modified, tools used, decisions made, and current progress. " ++
         "This replaces the earlier conversation history."))]
    ["summary"]
  | .listing => schema
    [("path", param "string" "The directory path to list (relative to workspace root)"),
     ("recursive", param "boolean"
        "If true, list contents recursively in tree format. Default: false"),
     ("max_depth", param "integer"
        "Maximum depth for recursive listing (1-10). Default: 3. Only used when recursive=true")]
    ["path"]
  | .reading => schema
    [("path", param "string" "The path to the file to read (relative to workspace root)"),
     ("offset", param "integer" "Optional. The 1-indexed line number to start reading from."),
     ("limit", param "integer" "Optional. The number of lines to read.")]
    ["path"]
  | .writing => schema
    [("path", param "string" "The path for the new file (relative to workspace root)"),
     ("content", param "string" "The content to write to the file")]
    ["path", "content"]
  | .editing => schema
    [("file_path", param "string" "The path to the file to edit"),
     ("old_string", param "string" "The exact text to replace. MUST be unique in the file."),
     ("new_string", param "string" "The new text to replace old_string with"),
     ("replace_all", .obj [("type", .str "boolean"),
        ("description", .str "If true, replace all occurrences. Default is false."),
        ("default", .bool false)])]
    ["file_path", "old_string", "new_string"]

/-- Run a built-in tool on a call. -/
def run : Builtin → ToolCall → ToolM ToolResult
  | .completion => completionRun
  | .condense => condenseRun
  | .listing => listRun
  | .reading => readRun
  | .writing => writeRun
  | .editing => editRun

/-- The preview of a call of a built-in tool. -/
def preview : Builtin → ToolCall → Host → Host
  | .editing, call, h => editPreview call h
  | _, _, h => h

end Builtin

end CodingAgent.Tool
