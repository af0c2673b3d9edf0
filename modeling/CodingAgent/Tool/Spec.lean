import CodingAgent.Tool.Registry

/-!
# Tools described as data

A host can describe the tools of a registry as JSON: a text names a built-in tool, and an
object describes a scripted one:

* `name`, `description` and `parameters` are what the model is told; without `parameters`
  the schema is an object schema that requires the fields of `required` (none when absent);
* `kind` picks the script (`static` when absent): `static` succeeds with `content` (`ok`
  when absent) or, when `success` is false, fails with `error` (`failed` when absent);
  `echo`; `sequence` with its `results`; `raise` with `exc` (a `RuntimeError` when absent)
  and `message` (`boom` when absent); `invalid`, giving `content` (`not a result` when
  absent); `self_cancel`; `abort_wait` and `abort_wait_raise`; `halt` and `cancel`, with
  `content` (`halting` and `cancelling` when absent);
* `partial_fail` makes the preview fail and `partial_progress` makes it show progress.
-/

namespace CodingAgent.Tool

open CodingAgent CodingAgent.Json

/-- Why a tool description cannot be read. -/
inductive SpecError where
  /-- A text that names no built-in tool. -/
  | unknownBuiltin (name : String)

/-- The class of a description error. -/
def SpecError.className : SpecError → String
  | .unknownBuiltin _ => "KeyError"

/-- The text of a description error. -/
def SpecError.message : SpecError → String
  | .unknownBuiltin name => quoted name

/-- The text of a field, or `default` when it is absent or not text. -/
def textField (spec : Value) (key : String) (default : String) : String :=
  match spec.get? key with
  | some (.str s) => s
  | _ => default

/-- The value of a field, or `default` when it is absent. -/
def fieldOr (spec : Value) (key : String) (default : Value) : Value :=
  (spec.get? key).getD default

/-- The script a description asks for. -/
def scriptOf (spec : Value) : Script :=
  match textField spec "kind" "static" with
  | "echo" => .echo
  | "sequence" => .sequence (spec.get? "results")
  | "raise" => .raise (scriptedError (fieldOr spec "exc" (.str "RuntimeError"))
      (fieldOr spec "message" (.str "boom")))
  | "invalid" => .invalid (fieldOr spec "content" (.str "not a result"))
  | "self_cancel" => .selfCancel
  | "abort_wait" | "abort_wait_raise" => .awaitAbort
  | "halt" => .halt (fieldOr spec "content" (.str "halting"))
  | "cancel" => .cancel (fieldOr spec "content" (.str "cancelling"))
  | _ => .fixed (fieldOr spec "success" (.bool true)).truthy (fieldOr spec "content" (.str "ok"))
      (fieldOr spec "error" (.str "failed"))

/-- The preview a description asks for. -/
def previewOf (spec : Value) : Preview :=
  if (fieldOr spec "partial_fail" .null).truthy then .fails
  else if (fieldOr spec "partial_progress" .null).truthy then .progress
  else .quiet

/-- The parameter schema of a description. -/
def parametersOf (spec : Value) : Value :=
  match spec.get? "parameters" with
  | some p => p
  | none => .obj [("type", .str "object"), ("properties", .obj []),
      ("required", fieldOr spec "required" (.arr []))]

/-- A tool from its description. -/
def ofSpec (spec : Value) : Except SpecError Tool :=
  match spec with
  | .str n =>
    match Builtin.ofName? n with
    | some b => .ok (Tool.ofBuiltin b)
    | none => .error (.unknownBuiltin n)
  | spec =>
    .ok { name := fieldOr spec "name" (.str ""),
          description := fieldOr spec "description" (.str ""),
          parameters := parametersOf spec, behaviour := .scripted (scriptOf spec) (previewOf spec) }

/-- A registry of the described tools, registered in order; the text `default` stands for
the built-in tools. -/
def Registry.ofSpec (spec : Value) : Except (String × String) Registry :=
  match spec with
  | .null | .str "default" => .ok Registry.builtin
  | .arr specs =>
    specs.foldlM (fun reg s => do
      let t ← (Tool.ofSpec s).mapError (fun e => (e.className, e.message))
      (reg.register t).mapError (fun e => (e.className, e.message))) {}
  | _ => .ok {}

end CodingAgent.Tool
