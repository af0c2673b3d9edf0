import CodingAgent.Tool.FileTools
import CodingAgent.Tool.Size
import CodingAgent.Json.Coerce

/-!
# The directory listing tool

`list_dir` lists a directory of the workspace, flat or as a tree.

The flat listing is the directory's label, then its subdirectories (`name/ (n items)`), then
its files (`name (size)`), each group by name; links count as what they point to.

The tree listing visits directories depth first but lists every entry of a level before it
descends: the subdirectories of a level, then its files, then the tree of each
subdirectory, two more spaces of indent per level. Directories of build output and tooling
(`.git`, `node_modules` and the like, compared without case) are left out, and directories
at the depth limit are listed but not entered. The listing stops at 500 entries and says so.

`recursive` is true for the boolean true or text that trims to `true` in any case;
`max_depth` is read as an integer (3 when it is not one) and kept between 1 and 10.
-/

namespace CodingAgent.Tool

open CodingAgent CodingAgent.Json CodingAgent.Text CodingAgent.Workspace

/-- Directories that the tree leaves out, lower case. -/
def excludedDirs : List String :=
  [".git", ".vs", ".vscode", "bin", "obj", "node_modules", "packages", "__pycache__", ".idea",
   "dist", ".next", ".nuget", "testresults", ".venv", ".mypy_cache", ".pytest_cache"]

/-- The most entries a tree lists. -/
def maxItems : Nat := 500

/-- The depth a tree goes to when none is given. -/
def defaultDepth : Int := 3

/-- A flag argument: the boolean itself, or text that trims to `true` in any case. -/
def flagOf : Value → Bool
  | .bool b => b
  | v => lower (trim v.display) == "true"

/-- A depth argument, kept between 1 and 10; an infinite double raises. -/
def depthOf (v : Value) : Except Raised Int :=
  let d : Except IntError Int := match v.toInt with
    | .ok n => .ok n
    | .error e => if e.absorbed then .ok defaultDepth else .error e
  match d with
  | .ok n => .ok (max 1 (min 10 n))
  | .error e => .error (.error e.className e.message)

/-- The line of a subdirectory. -/
def dirLine (fs : Files) (indent : String) (dir : Path) (name : String) : String :=
  indent ++ "  " ++ name ++ "/ (" ++ toString (fs.list (dir ++ [name])).length ++ " items)"

/-- The line of a file. A file's size is far below the sizes whose quotient overflows. -/
def fileLine (fs : Files) (indent : String) (dir : Path) (name : String) : String :=
  let size := match formatSize (.whole (fs.size (dir ++ [name]))) with
    | .ok text => text
    | .error message => message
  indent ++ "  " ++ name ++ " (" ++ size ++ ")"

/-- The flat listing of a directory. -/
def flatListing (fs : Files) (dir : Path) (label : String) : String :=
  let names := (fs.list dir).map (·.1)
  let dirs := (names.filter (fun n => fs.isDir (dir ++ [n]))).map (dirLine fs "" dir)
  let files := (names.filter (fun n => fs.isFile (dir ++ [n]))).map (fileLine fs "" dir)
  "\n".intercalate ((label ++ "/") :: (dirs ++ files)) ++ "\n"

/-- Lines of a tree listing so far, and how many entries they count. -/
structure Listing where
  lines : List String := []
  count : Nat := 0

/-- Whether the listing has reached its limit. -/
def Listing.full (l : Listing) : Bool :=
  l.count ≥ maxItems

/-- Add an entry line. -/
def Listing.add (l : Listing) (line : String) : Listing :=
  { lines := l.lines ++ [line], count := l.count + 1 }

/-- Add entry lines until the listing is full; the flag is false when it filled up on the way. -/
def addAll (l : Listing) : List String → Listing × Bool
  | [] => (l, true)
  | line :: rest => if l.full then (l, false) else addAll (l.add line) rest

/-- The tree below `dir`, added to the listing; `below` more levels of subdirectories are
entered (the depth limit less the depth of `dir`). The flag says whether the listing went on
to the end of this directory. -/
def treeListing (fs : Files) : Nat → Path → String → Listing → Listing × Bool
  | below, dir, indent, l =>
    if l.full then (l, false)
    else
      let names := (fs.list dir).map (·.1)
      let subdirs := names.filter (fun n =>
        fs.isDir (dir ++ [n]) && !excludedDirs.contains (lower n))
      let files := names.filter (fun n => fs.isFile (dir ++ [n]))
      let (l, more) := addAll l (subdirs.map (dirLine fs indent dir))
      if !more then (l, false)
      else
        let (l, more) := addAll l (files.map (fileLine fs indent dir))
        if !more then (l, false)
        else
          match below with
          | 0 => (l, true)
          | b + 1 =>
            subdirs.foldl (fun (acc : Listing × Bool) n =>
              if !acc.2 || acc.1.full then (acc.1, false)
              else treeListing fs b (dir ++ [n]) (indent ++ "  ") acc.1)
              (l, true)

/-- The text of a listing of `dir`, labelled `relative`: flat, or a tree `maxDepth` levels
deep that stops at `maxItems` entries and then says so. -/
def listingText (fs : Files) (dir : Path) (relative : String) (recursive : Bool)
    (maxDepth : Int) : String :=
  if !recursive then flatListing fs dir relative
  else
    let start : Listing := { lines := [relative ++ "/"] }
    let (l, _) := treeListing fs (maxDepth - 1).toNat dir "" start
    let text := "\n".intercalate l.lines ++ "\n"
    if l.full then text ++ "\n... (output truncated at " ++ toString maxItems ++ " items)\n"
    else text

/-- `list_dir`. -/
def listRun (call : ToolCall) : ToolM ToolResult := do
  let raw ← liftRaise (argGet call.arguments "path")
  let relative := trim (raw.orElse (.str "")).display
  let relative := if ["", "/", "\\"].contains relative then "." else relative
  let h ← get
  if !(← liftRaise (accessible h relative)) then
    return ToolResult.fail ("Access denied: " ++ relative)
  let dir ← match h.workspace.resolveFile relative with
    | .ok p => pure p
    | .error e => throw (raisedOf (.access e))
  let fs := h.workspace.files
  if fs.tooLong dir then throw (raisedOf (.fs (.nameTooLong dir)))
  if !fs.isDir dir then return ToolResult.fail ("Directory not found: " ++ relative)
  let recursive := flagOf (← liftRaise (argGetD call.arguments "recursive" (.bool false)))
  let maxDepth ← liftRaise (depthOf
    (← liftRaise (argGetD call.arguments "max_depth" (.int defaultDepth))))
  return ToolResult.ok (listingText fs dir relative recursive maxDepth)

end CodingAgent.Tool
