import CodingAgent.Tool.Catalog
import CodingAgent.Tool.Scripted
import CodingAgent.Json.Equal
import CodingAgent.Json.Report

/-!
# The tool registry and the dispatcher

A registry holds tools under a key: the name trimmed and in lower case, so that a call finds
its tool whatever the case of the name. Registering a tool under a key that is taken puts it
in the old one's place; otherwise it comes last. Names and definitions are listed in that
order.

`Registry.execute` runs one call and never raises: every problem comes back as a failed
result. It checks, in this order, that the tool exists, that the arguments hold every
required field, and that the abort signal is not already set; then it runs the tool and
turns what the run gave into a result:

* a result stays as it is;
* a value that is no result, a tool error or another error fail as
  `Tool execution failed: ...`;
* a tool cancelled from inside, or one that waits for the abort signal once it is set,
  fails as `Operation was cancelled`;
* a tool that waits with no signal set runs out of time.

A tool keeps count of its runs: a scripted sequence answers by that count.
-/

namespace CodingAgent.Tool

open CodingAgent CodingAgent.Json CodingAgent.Text

/-- How a tool behaves. -/
inductive Behaviour where
  | builtin (b : Builtin)
  | scripted (script : Script) (preview : Preview)

end CodingAgent.Tool

namespace CodingAgent

open CodingAgent.Json CodingAgent.Tool

/-- A tool: what the model is told about it, how it behaves, and how many times it ran. -/
structure Tool where
  /-- The name: text, or the value a host named the tool by. -/
  name : Value
  description : Value
  parameters : Value
  behaviour : Behaviour

end CodingAgent

namespace CodingAgent.Tool

open CodingAgent CodingAgent.Json CodingAgent.Text

/-- Why the arguments of a call do not fit its tool. -/
inductive ArgumentError where
  /-- A required field is absent. -/
  | missing (field : String)
  /-- The schema itself cannot be read: the class of the error and its text. -/
  | unreadable (kind text : String)

/-- The text of an argument error. -/
def ArgumentError.text : ArgumentError → String
  | .missing field => "Missing required argument: " ++ field
  | .unreadable _ text => text

/-- An error of the registry. -/
inductive RegistryError where
  /-- A tool without a name cannot be registered. -/
  | unnamed
  /-- No tool has this name (as the caller gave it). -/
  | notFound (name : String)
  /-- The arguments do not fit the named tool. -/
  | arguments (tool : String) (e : ArgumentError)

/-- The class of a registry error. -/
def RegistryError.className : RegistryError → String
  | .unnamed => "ValueError"
  | .notFound _ => "ToolNotFoundError"
  | .arguments _ (.missing _) => "ToolExecutionError"
  | .arguments _ (.unreadable kind _) => kind

/-- The text of a registry error. -/
def RegistryError.message : RegistryError → String
  | .unnamed => "Tool must have a name"
  | .notFound name => "Unknown tool: " ++ name
  | .arguments tool (.missing field) =>
    "Tool '" ++ tool ++ "' failed: " ++ (ArgumentError.missing field).text
  | .arguments _ e => e.text

/-- A built-in tool. -/
def ofBuiltin (b : Builtin) : Tool :=
  { name := .str b.name, description := .str b.description, parameters := b.parameters,
    behaviour := .builtin b }

/-- What the model is told about a tool. -/
def definition (t : Tool) : ToolDefinition :=
  { name := t.name, description := t.description, parameters := t.parameters }

/-- The required fields of a schema: its `required` entry, read as a sequence (the
characters of a text, the keys of an object). -/
def requiredFields (parameters : Value) : Except ArgumentError (List Value) :=
  match parameters with
  | .obj ms =>
    match (Members.get? ms "required").getD (.arr []) with
    | .arr xs => .ok xs
    | .str s => .ok ((characters s).map .str)
    | .obj fs => .ok (fs.map (fun kv => .str kv.1))
    | v => .error (.unreadable "TypeError" ("'" ++ v.kindName ++ "' object is not iterable"))
  | v => .error (.unreadable "AttributeError"
      ("'" ++ v.kindName ++ "' object has no attribute 'get'"))

/-- Whether the arguments hold a required field, asked as membership (`Value.occursIn`):
arguments that are no object still answer, a list by its items and a text by its pieces. -/
def holdsField (args : Value) (field : Value) : Except ArgumentError Unit :=
  match field.occursIn args with
  | .ok true => .ok ()
  | .ok false => .error (.missing field.display)
  | .error e => .error (.unreadable "TypeError" e.message)

/-- Check that the arguments hold every required field, in the schema's order. -/
def validate (t : Tool) (args : Value) : Except ArgumentError Unit := do
  for field in ← requiredFields t.parameters do
    holdsField args field

/-- Run the tool on a call. -/
def run (t : Tool) (call : ToolCall) (h : Host) : Run × Host :=
  match t.behaviour with
  | .builtin b =>
    let (r, h) := ((b.run call).run).run h
    (Run.ofExcept r, h)
  | .scripted s _ => s.run t.name call h

/-- Show the preview of a call. A preview that fails changes nothing more. -/
def preview (t : Tool) (call : ToolCall) (h : Host) : Host :=
  match t.behaviour with
  | .builtin b => b.preview call h
  | .scripted _ p => (p.run t.name h).1

/-- The key a name is registered under: trimmed and in lower case. -/
def toolKey (name : String) : String :=
  lower (trim name)

/-- The text a tool's name is registered by: the name shown as text, empty for a name that
counts as false. -/
def nameKey (name : Value) : String :=
  if name.truthy then name.display else ""

/-- Tools by key, in the order their keys were first registered. -/
structure Registry where
  tools : List (String × Tool) := []

/-- The result of a call that was cancelled. -/
def cancelledMessage : String := "Operation was cancelled"

/-- A failure raised while running a tool. -/
def executionFailure (text : String) : ToolResult :=
  ToolResult.fail ("Tool execution failed: " ++ text)

/-- A time limit in seconds as messages show it: a whole number without a fraction. -/
def secondsLabel (t : Float) : String :=
  match (Value.num t).toInt with
  | .ok n => if t.floor == t then toString n else (Value.num t).display
  | .error _ => (Value.num t).display

/-- The time limit of a call: the given one as a real (the default when the given one counts
as false), at least one second; a NaN counts as less. -/
def callTimeout (given default : Value) : Except RealError Float := do
  let t ← (if given.truthy then given else default).toReal
  pure (if t > 1.0 then t else 1.0)

/-- The result of a run: what the tool gave, or the failure its way of ending stands for. -/
def settle (run : Run) (h : Host) (timeout : Float) : ToolResult :=
  match run with
  | .done r => r
  | .invalid _ => executionFailure "Tool returned invalid result payload"
  | .raised (.toolError message) => executionFailure message
  | .raised (.error _ text) => executionFailure text
  | .raised (.invalid record issues) => executionFailure (validationReport record issues)
  | .cancelledItself => ToolResult.fail cancelledMessage
  | .waitsForAbort =>
    if h.signalled then ToolResult.fail cancelledMessage
    else ToolResult.fail ("Tool execution timed out after " ++ secondsLabel timeout ++ "s")

namespace Registry

/-- The tool registered under the key of a name. -/
def find? (reg : Registry) (name : String) : Option Tool :=
  (reg.tools.find? (fun e => e.1 == toolKey name)).map (·.2)

/-- Put a tool under its key: in the place of the tool there, or last. -/
def put (reg : Registry) (t : Tool) : Registry :=
  let k := toolKey (nameKey t.name)
  if reg.tools.any (fun e => e.1 == k) then
    { tools := reg.tools.map (fun e => if e.1 == k then (k, t) else e) }
  else { tools := reg.tools ++ [(k, t)] }

/-- Register a tool; a tool needs a name. -/
def register (reg : Registry) (t : Tool) : Except RegistryError Registry :=
  if !t.name.truthy then .error .unnamed else .ok (reg.put t)

/-- Remove the tool of a name, if there is one. -/
def unregister (reg : Registry) (name : String) : Registry :=
  { tools := reg.tools.filter (fun e => e.1 != toolKey name) }

/-- Whether a tool of this name is registered. -/
def has (reg : Registry) (name : String) : Bool :=
  (reg.find? name).isSome

/-- The tool of a name; `shown` is the name as the error shows it. -/
def get (reg : Registry) (name shown : String) : Except RegistryError Tool :=
  match reg.find? name with
  | some t => .ok t
  | none => .error (.notFound shown)

/-- The names of the tools, in order. -/
def names (reg : Registry) : List Value :=
  reg.tools.map (·.2.name)

/-- What the model is told about each tool, in order. -/
def definitions (reg : Registry) : List ToolDefinition :=
  reg.tools.map (·.2.definition)

/-- The registry with the built-in tools. -/
def builtin : Registry :=
  Builtin.all.foldl (fun reg b => reg.put (Tool.ofBuiltin b)) {}

/-- Check the arguments of a call against the schema of its tool. -/
def validate (reg : Registry) (name shown : String) (args : Value) :
    Except RegistryError Unit := do
  let t ← reg.get name shown
  match t.validate args with
  | .ok () => pure ()
  | .error e => throw (.arguments t.name.display e)

/-- Run a call on its tool, skipping every check of the dispatcher. -/
def direct (t : Tool) (call : ToolCall) (h : Host) : Run × Host :=
  t.run call h

/-- Run one call: find the tool, check the arguments and the abort signal, run it, and turn
what the run gave into a result. -/
def execute (reg : Registry) (call : ToolCall) (timeout : Float) (h : Host) :
    ToolResult × Host × Registry :=
  match reg.find? call.lookupName with
  | none => (ToolResult.fail ("Unknown tool: " ++ call.nameShown), h, reg)
  | some t =>
    match t.validate call.arguments with
    | .error e => (executionFailure e.text, h, reg)
    | .ok () =>
      if h.signalled then (ToolResult.fail cancelledMessage, h, reg)
      else
        let (r, h) := t.run call h
        (settle r h timeout, h, reg)

/-- Run one call with its time limit given as values: an unknown tool fails before the
limit is read, and a limit that is no real stops the call. -/
def dispatch (reg : Registry) (call : ToolCall) (given default : Value) (h : Host) :
    Except RealError (ToolResult × Host × Registry) :=
  match reg.find? call.lookupName with
  | none => .ok (ToolResult.fail ("Unknown tool: " ++ call.nameShown), h, reg)
  | some _ => do
    let timeout ← callTimeout given default
    pure (reg.execute call timeout h)

/-- Show the preview of a call, when its tool is registered. -/
def preview (reg : Registry) (call : ToolCall) (h : Host) : Host :=
  match reg.find? call.lookupName with
  | some t => t.preview call h
  | none => h

end Registry

end CodingAgent.Tool
