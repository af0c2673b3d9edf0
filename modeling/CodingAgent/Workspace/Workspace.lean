import CodingAgent.Workspace.Files
import CodingAgent.Text.Blank
import CodingAgent.Json.Display

/-!
# The workspace of a task

A `Workspace` is the part of a file system that a task may touch: the directory `root` and
everything below it. A requested path is trimmed (an empty one means the root), a leading
`~` stands for the home directory and `~name` for that of the account `name` (a name without
an account has none), a relative path is taken from the root, and the result is
resolved with links followed (`Files.resolve`; a loop of links is an error, as is a path
text the system refuses). The path is
*accessible* when the resolved
path is the root or lies below it. Every read and write resolves the path and then makes that
test on the text of the path found, trimmed and resolved again, refusing a path outside with
`Access denied: <path> is outside the workspace`, naming the path as it was requested. The
two tests agree except where the path found ends in blanks: trimming them names another
path.

Text is written as UTF-8 and read back as UTF-8 with universal line ends. Writing empties the
file before it encodes the text, so a text that UTF-8 cannot hold leaves an empty file.

Some operations ask the user first. An `Approver` answers: `always` approves without asking;
`scripted` records each question and answers from its list, then with its fallback. The
workspace also keeps the task's plan.
-/

namespace CodingAgent.Workspace

open CodingAgent.Text

/-- The state of one step of a plan. -/
inductive StepStatus where
  | pending
  | inProgress
  | completed
  | failed
  deriving DecidableEq

/-- The name of a step state. -/
def StepStatus.name : StepStatus → String
  | .pending => "pending"
  | .inProgress => "in_progress"
  | .completed => "completed"
  | .failed => "failed"

/-- A step state by name. -/
def StepStatus.ofName? : String → Option StepStatus
  | "pending" => some .pending
  | "in_progress" => some .inProgress
  | "completed" => some .completed
  | "failed" => some .failed
  | _ => none

/-- A step state from a value: the name of a state, or the error of a value that names
none, which shows the value as the program writes values. -/
def StepStatus.ofValue (v : CodingAgent.Json.Value) : Except String StepStatus :=
  match v with
  | .str s => match StepStatus.ofName? s with
    | some st => .ok st
    | none => .error (v.quotedText ++ " is not a valid PlanStepStatus")
  | _ => .error (v.quotedText ++ " is not a valid PlanStepStatus")

/-- One step of a plan. -/
structure PlanStep where
  /-- What the step is, as the model wrote it (normally text). -/
  description : CodingAgent.Json.Value
  status : StepStatus := .pending

/-- The plan the model keeps for a task. -/
structure Plan where
  steps : List PlanStep := []
  /-- Why the plan is as it is, as the model wrote it (normally text). -/
  explanation : CodingAgent.Json.Value := .str ""

/-- Who answers the questions of a task. -/
inductive Approver where
  /-- Approve everything without asking. -/
  | always
  /-- Ask, record the question, and answer from the list, then with the fallback. -/
  | scripted (answers : List Bool) (fallback : Bool)

end CodingAgent.Workspace

namespace CodingAgent

open CodingAgent.Workspace

/-- The part of a file system that a task may touch. -/
structure Workspace where
  files : Files
  root : Path
  home : Path
  /-- The home directories of the accounts of the host, by user name, as its account database
  gives them. -/
  accounts : List (String × String) := []
  approver : Approver := .always
  questions : List String := []
  plan : Option Plan := none

end CodingAgent

namespace CodingAgent.Workspace

open CodingAgent.Text

/-- Why a path could not be used. -/
inductive AccessError where
  /-- The path resolves outside the root. -/
  | outside (requested : String)
  /-- The path starts with `~name` for a user without a known home. -/
  | noHome
  /-- Following the path runs into a loop of links, at the path given. -/
  | symlinkLoop (p : Path)
  /-- The system refuses the text of the path. -/
  | refused (f : PathFault)

/-- A failure of a workspace operation. -/
inductive WorkspaceError where
  | access (e : AccessError)
  | fs (e : FsError)

/-- The class name of a workspace error, as errors are reported. -/
def WorkspaceError.className : WorkspaceError → String
  | .access (.outside _) => "PermissionError"
  | .access .noHome => "RuntimeError"
  | .access (.symlinkLoop _) => "RuntimeError"
  | .access (.refused f) => f.className
  | .fs e => e.className

/-- The message of a workspace error. -/
def WorkspaceError.message : WorkspaceError → String
  | .access (.outside p) => "Access denied: " ++ p ++ " is outside the workspace"
  | .access .noHome => "Could not determine home directory."
  | .access (.symlinkLoop p) => "Symlink loop from " ++ CodingAgent.Json.quoted (pathText p)
  | .access (.refused f) => f.message
  | .fs e => e.message

/-- The home directory that `~name` stands for: the user's own for a bare `~`, that of the
account of the name otherwise. -/
def homeOf? (w : Workspace) (name : String) : Option Path :=
  if name.isEmpty then some w.home
  else (w.accounts.lookup name).map components

/-- The absolute, unresolved path a request names. -/
def locate (w : Workspace) (requested : String) : Except AccessError Path :=
  let s := trim requested
  let s := if s.isEmpty then "." else s
  let parts := components s
  if isAbsoluteText s then .ok parts
  else match parts with
    | first :: rest =>
      if first.startsWith "~" then
        match w.homeOf? (String.ofList (first.toList.drop 1)) with
        | some home => .ok (home ++ rest)
        | none => .error .noHome
      else .ok (w.root ++ parts)
    | [] => .ok w.root

/-- The canonical path a request names. -/
def resolvePath (w : Workspace) (requested : String) : Except AccessError Path := do
  let p ← w.locate requested
  (w.files.resolve p).mapError (fun
    | .refused f => .refused f
    | .loop q => .symlinkLoop q)

/-- Whether a canonical path is the root or lies below it. -/
def inside (w : Workspace) (p : Path) : Bool :=
  within w.root p

/-- Whether a request names a path inside the workspace. -/
def isAccessible (w : Workspace) (requested : String) : Except AccessError Bool := do
  let p ← w.resolvePath requested
  pure (w.inside p)

/-- The canonical path of a request, refused when it lies outside. The test is made on the
text of the path found, which is trimmed and resolved once more: that second path must lie
inside, while the path handed back is the first. -/
def resolveFile (w : Workspace) (requested : String) : Except AccessError Path := do
  let p ← w.resolvePath requested
  if ← w.isAccessible (pathText p) then pure p else .error (.outside requested)

/-- The text of a file. -/
def read (w : Workspace) (requested : String) : Except WorkspaceError String := do
  let p ← (w.resolveFile requested).mapError .access
  let bytes ← (w.files.readBytes p).mapError .fs
  let text ← (decodeUtf8 bytes).mapError (fun e => .fs (.undecodable e))
  pure (universalNewlines text)

/-- Write text to a file, making its parent directories. The file is opened, and so made
empty, before the text is encoded: text that UTF-8 cannot hold leaves it empty. A failure
comes with the workspace as it is then. -/
def write (w : Workspace) (requested content : String) : Workspace × Option WorkspaceError :=
  match w.resolveFile requested with
  | .error e => (w, some (.access e))
  | .ok p =>
    match w.files.openFile p with
    | (files, some e) => ({ w with files := files }, some (.fs e))
    | (files, none) =>
      match utf8Fault? content with
      | some message => ({ w with files := files }, some (.fs (.unencodable message)))
      | none => ({ w with files := files.set p (.file (encodeUtf8 content)) }, none)

/-- Whether a request names a file inside the workspace. -/
def fileExists (w : Workspace) (requested : String) : Except WorkspaceError Bool :=
  match w.resolveFile requested with
  | .ok p => if w.files.tooLong p then .error (.fs (.nameTooLong p)) else .ok (w.files.isFile p)
  | .error (.outside _) => .ok false
  | .error e => .error (.access e)

/-- Ask a question; the answer and the workspace with the question recorded. -/
def approve (w : Workspace) (question : String) : Bool × Workspace :=
  match w.approver with
  | .always => (true, w)
  | .scripted answers fallback =>
    let w := { w with questions := w.questions ++ [question] }
    match answers with
    | a :: rest => (a, { w with approver := .scripted rest fallback })
    | [] => (fallback, w)

/-- Ask for confirmation of an operation. -/
def confirm (w : Workspace) (operation details : String) : Bool × Workspace :=
  w.approve (operation ++ "\n" ++ details)

/-- Ask to apply a change to a file. -/
def approveChange (w : Workspace) (path : String) : Bool × Workspace :=
  w.approve ("Apply changes to " ++ path ++ "?")

/-- The root as text. -/
def workingDirectory (w : Workspace) : String :=
  pathText w.root

/-- The files below the root, links skipped. -/
def tree (w : Workspace) : List (String × List UInt8) :=
  w.files.filesBelow w.root

end CodingAgent.Workspace
