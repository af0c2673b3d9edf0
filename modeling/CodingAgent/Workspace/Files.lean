import CodingAgent.Text.Utf8
import CodingAgent.Text.Encode
import CodingAgent.Json.Display

/-!
# A file system

`Files` is a file system as a table from absolute paths to nodes: directories, files with
their bytes, and symbolic links with their target text. A path is the list of its
components; the file system root `/` is the empty path and is always a directory. Every
other directory is listed in the table.

`Files.resolve` turns a path into the canonical path it names: components are taken from
left to right, `..` goes up one level from what has been resolved so far, and a component
that names a link is replaced by the resolved target of the link (relative targets start from
the link's directory). Components that do not exist are kept as they are. A link met again
while it is being resolved closes a loop; the walk then keeps the rest of the path as text.
The path found is then followed the way the system opens a path, and when that runs into more
than 40 links, the path is refused as the place of a loop of links.

Before the system looks at a path it writes its text as bytes (`nameBytes`), which refuses
a surrogate that escapes no byte, and then refuses a null character. The walk of
`Files.resolve` hands the system each component it looks up, so the first component that
cannot be written stops it, the place of the fault counted in the whole path looked up.

Reading and writing follow the rules of a POSIX file system and report its errors:
a missing component (`ENOENT`), a file used as a directory (`ENOTDIR`), a directory where a
file is expected (`EISDIR`), a file where a directory is to be made (`EEXIST`), and a name
too long (`ENAMETOOLONG`): a path of 4096 bytes or more, or a component of more than 255
bytes met while every component before it is a directory.

Writing is not all or nothing. The parent directories are made one by one, and those made
stay when a later one fails; opening a file for writing makes it empty before anything is
written to it.
-/

namespace CodingAgent.Workspace

open CodingAgent.Text CodingAgent.Json

/-- An absolute path as its components. -/
abbrev Path := List String

/-- What a path names. -/
inductive Node where
  | dir
  | file (bytes : List UInt8)
  | link (target : String)

/-- A file system: absolute paths and their nodes. -/
structure Files where
  nodes : List (Path × Node) := []

/-- The text of an absolute path. -/
def pathText (p : Path) : String :=
  "/" ++ "/".intercalate p

/-- The components of a path text: separators and `.` components dropped. -/
def components (s : String) : List String :=
  ((s.toList.splitOn '/').map String.ofList).filter (fun c => c != "" && c != ".")

/-- Whether a path text is absolute. -/
def isAbsoluteText (s : String) : Bool :=
  s.startsWith "/"

/-- Why the system refuses a path text before it looks at it. -/
inductive PathFault where
  /-- A run of surrogates that no byte of a file name stands for, and its place. -/
  | unencodable (start : Nat) (run : List Nat)
  /-- A null character. -/
  | nullByte

/-- The fault placed `k` code points further on. -/
def PathFault.after (k : Nat) : PathFault → PathFault
  | .unencodable start run => .unencodable (k + start) run
  | .nullByte => .nullByte

/-- The class name of a path fault, as errors are reported. -/
def PathFault.className : PathFault → String
  | .unencodable _ _ => "UnicodeEncodeError"
  | .nullByte => "ValueError"

/-- The message of a path fault. -/
def PathFault.message : PathFault → String
  | .unencodable start run => refusalMessage "utf-8" "surrogates not allowed" start run
  | .nullByte => "embedded null byte"

/-- Why a path text is refused, if it is: the encoding is checked before the null
character. -/
def textFault? (s : String) : Option PathFault :=
  match nameRefusedRun? s with
  | some (start, run) => some (.unencodable start run)
  | none => if s.toList.contains (Char.ofNat 0) then some .nullByte else none

/-- Whether `p` lies at or below `dir`. -/
def within (dir p : Path) : Bool :=
  dir.isPrefixOf p

/-- Whether `p` lies strictly below `dir`. -/
def strictlyWithin (dir p : Path) : Bool :=
  dir.isPrefixOf p && p.length > dir.length

namespace Files

/-- The node at a path, without following links. The root is a directory. -/
def get? (fs : Files) (p : Path) : Option Node :=
  if p.isEmpty then some .dir else (fs.nodes.find? (fun e => e.1 == p)).map (·.2)

/-- The table with the node at `p` set. -/
def set (fs : Files) (p : Path) (n : Node) : Files :=
  if fs.nodes.any (fun e => e.1 == p) then
    { nodes := fs.nodes.map (fun e => if e.1 == p then (p, n) else e) }
  else { nodes := fs.nodes ++ [(p, n)] }

/-- Insert an entry before the first entry whose name is not below its own; inserting the
entries of a list from its last one on sorts them by name, entries of one name in their order. -/
def insertByName (e : String × Node) : List (String × Node) → List (String × Node)
  | [] => [e]
  | x :: rest => if e.1 ≤ x.1 then e :: x :: rest else x :: insertByName e rest

/-- The names and nodes directly inside a directory, by name. -/
def entries (fs : Files) (dir : Path) : List (String × Node) :=
  let inside := fs.nodes.filterMap (fun e =>
    if e.1.length == dir.length + 1 && dir.isPrefixOf e.1 then
      some (e.1.getLastD "", e.2)
    else none)
  inside.foldr insertByName []

/-- Links being resolved (`none`) and links resolved, with the canonical paths they name; a
later entry of a link comes first. -/
abbrev Seen := List (Path × Option Path)

/-- Components appended to a path by their text alone: `..` goes up one level (the root stays
the root). -/
def appendLexical (p : Path) : List String → Path
  | [] => p
  | name :: rest => appendLexical (if name == ".." then p.dropLast else p ++ [name]) rest

/-- The total length of the targets of the links in the table, in components. -/
def targetWeight (fs : Files) : Nat :=
  fs.nodes.foldl (fun acc e => match e.2 with
    | .link target => acc + (components target).length + 1
    | _ => acc) 0

/-- Resolve the components `rest` on top of the canonical path `p`, following links (relative
targets start from the link's directory) and remembering each link resolved. A link met
again while it is being resolved closes a loop: the walk stops there and gives the path to
that link with the components left unresolved, flagged `false`. Components that do not exist
are kept as they are. A component the system refuses stops the walk with the fault, placed in
the path text looked up (`p` and the component). -/
def joinReal (fs : Files) : Nat → Path → List String → Seen →
    Except PathFault (Path × Bool × Seen)
  | 0, p, rest, seen => .ok (p ++ rest, false, seen)
  | _ + 1, p, [], seen => .ok (p, true, seen)
  | fuel + 1, p, name :: rest, seen =>
    if name == ".." then joinReal fs fuel p.dropLast rest seen
    else
      match textFault? name with
      | some fault => .error (fault.after (if p.isEmpty then 1 else codeLength (pathText p) + 1))
      | none =>
      let next := p ++ [name]
      match fs.get? next with
      | some (.link target) =>
        match seen.lookup next with
        | some (some resolved) => joinReal fs fuel resolved rest seen
        | some none => .ok (next ++ rest, false, seen)
        | none => do
          let start := if isAbsoluteText target then [] else p
          let (q, ok, seen) ← joinReal fs fuel start (components target) ((next, none) :: seen)
          if ok then joinReal fs fuel q rest ((next, some q) :: seen)
          else pure (q ++ rest, false, seen)
      | _ => joinReal fs fuel next rest seen

/-- Enough fuel to resolve the path `p`: every component and every link target is walked at
most once. -/
def fuel (fs : Files) (p : Path) : Nat :=
  p.length + fs.targetWeight + fs.nodes.length + 2

/-- The canonical path an absolute path names, found by `joinReal` and then tidied by its
text (`..` taken lexically), with whether no loop of links stopped the walk. -/
def realPath (fs : Files) (p : Path) : Except PathFault (Path × Bool) := do
  let (q, ok, _) ← fs.joinReal (fs.fuel p) [] p []
  pure (appendLexical [] q, ok)

/-- How following a path the way the system opens it ends. -/
inductive Walk where
  /-- The walk reached a path of the table, following `links` links on the way. -/
  | reached (p : Path) (links : Nat)
  /-- A component is missing, or a file stands where a directory should. -/
  | stopped
  /-- More than 40 links were followed. -/
  | tooManyLinks

/-- Follow the components `rest` from the directory `dir`: each link met, however deeply,
counts toward a limit of 40 links; `..` goes to the parent of where the walk is. -/
def walkLinks (fs : Files) : Nat → Path → List String → Nat → Walk
  | 0, _, _, _ => .stopped
  | _ + 1, dir, [], n => .reached dir n
  | fuel + 1, dir, name :: rest, n =>
    if name == ".." then walkLinks fs fuel dir.dropLast rest n
    else
      let next := dir ++ [name]
      match fs.get? next with
      | some (.link target) =>
        if n ≥ 40 then .tooManyLinks
        else
          let start := if isAbsoluteText target then [] else dir
          match walkLinks fs fuel start (components target) (n + 1) with
          | .reached q m => walkLinks fs fuel q rest m
          | other => other
      | some .dir => walkLinks fs fuel next rest n
      | some (.file _) => if rest.isEmpty then .reached next n else .stopped
      | none => .stopped

/-- Follow an absolute path the way the system opens it. -/
def walk (fs : Files) (p : Path) : Walk :=
  fs.walkLinks (p.length + 41 * (fs.targetWeight + 1) + 1) [] p 0

/-- Why a path cannot be resolved. -/
inductive ResolveError where
  /-- The system refuses the text of a component, or of the path found. -/
  | refused (f : PathFault)
  /-- Following the path found runs into a loop of links; the path found is given. -/
  | loop (p : Path)

/-- The canonical path an absolute path names (`realPath`), which the system must accept as
text; when following that path runs into too many links, the path is refused as the place
of a loop of links. -/
def resolve (fs : Files) (p : Path) : Except ResolveError Path := do
  let (q, _) ← (fs.realPath p).mapError .refused
  if let some fault := textFault? (pathText q) then throw (.refused fault)
  match fs.walk q with
  | .tooManyLinks => .error (.loop q)
  | _ => .ok q

/-- What a path names after following links; nothing for a path that cannot be followed. -/
def follow? (fs : Files) (p : Path) : Option Node :=
  match fs.walk p with
  | .reached q _ => fs.get? q
  | _ => none

/-- Whether a path names a directory, links followed. -/
def isDir (fs : Files) (p : Path) : Bool :=
  match fs.follow? p with
  | some .dir => true
  | _ => false

/-- Whether a path names a file, links followed. -/
def isFile (fs : Files) (p : Path) : Bool :=
  match fs.follow? p with
  | some (.file _) => true
  | _ => false

/-- The size in bytes of what a path names, links followed; zero for all but files. -/
def size (fs : Files) (p : Path) : Nat :=
  match fs.follow? p with
  | some (.file bytes) => bytes.length
  | _ => 0

/-- The entries of the directory a path names, links followed. -/
def list (fs : Files) (p : Path) : List (String × Node) :=
  match fs.walk p with
  | .reached q _ => fs.entries q
  | _ => []

/-- The most bytes a path may have, its terminating null byte included. -/
def pathMax : Nat := 4096

/-- The most bytes of one component of a path. -/
def nameMax : Nat := 255

/-- Whether looking up the components `rest` below the directory `dir` meets a component of
more than `nameMax` bytes before a component that is missing or is no directory. -/
def longNameAhead (fs : Files) : Path → List String → Bool
  | _, [] => false
  | dir, name :: rest =>
    if (nameBytes name).length > nameMax then true
    else match fs.get? (dir ++ [name]) with
      | some .dir => longNameAhead fs (dir ++ [name]) rest
      | _ => false

/-- Whether the system refuses to look up a path as too long: the whole path, or one of its
components reached on the way. -/
def tooLong (fs : Files) (p : Path) : Bool :=
  (nameBytes (pathText p)).length + 1 > pathMax || fs.longNameAhead [] p

end Files

/-- A failure of the file system. -/
inductive FsError where
  | notFound (p : Path)
  | isDirectory (p : Path)
  | notDirectory (p : Path)
  | fileExists (p : Path)
  | nameTooLong (p : Path)
  | undecodable (e : Utf8Error)
  /-- Text that UTF-8 cannot hold, with the encoder's message. -/
  | unencodable (message : String)

/-- The class name of a file system error, as errors are reported. -/
def FsError.className : FsError → String
  | .notFound _ => "FileNotFoundError"
  | .isDirectory _ => "IsADirectoryError"
  | .notDirectory _ => "NotADirectoryError"
  | .fileExists _ => "FileExistsError"
  | .nameTooLong _ => "OSError"
  | .undecodable _ => "UnicodeDecodeError"
  | .unencodable _ => "UnicodeEncodeError"

/-- The message of a file system error: the error number, its text and the path. -/
def FsError.message : FsError → String
  | .notFound p => "[Errno 2] No such file or directory: " ++ quoted (pathText p)
  | .isDirectory p => "[Errno 21] Is a directory: " ++ quoted (pathText p)
  | .notDirectory p => "[Errno 20] Not a directory: " ++ quoted (pathText p)
  | .fileExists p => "[Errno 17] File exists: " ++ quoted (pathText p)
  | .nameTooLong p => "[Errno 36] File name too long: " ++ quoted (pathText p)
  | .undecodable e => e.message
  | .unencodable message => message

namespace Files

/-- The first proper prefix of `p` (the root excluded) that is not a directory: missing or a
file. -/
def blockedPrefix (fs : Files) (p : Path) : Option (Path × Bool) :=
  let prefixes := (List.range p.length).filterMap (fun k =>
    if k == 0 then none else some (p.take k))
  prefixes.findSome? (fun q =>
    match fs.get? q with
    | some .dir => none
    | some (.file _) => some (q, true)
    | some (.link _) => some (q, true)
    | none => some (q, false))

/-- The bytes of the file at a canonical path. -/
def readBytes (fs : Files) (p : Path) : Except FsError (List UInt8) :=
  if fs.tooLong p then .error (.nameTooLong p) else
  match fs.blockedPrefix p with
  | some (_, true) => .error (.notDirectory p)
  | some (_, false) => .error (.notFound p)
  | none =>
    match fs.get? p with
    | some (.file bytes) => .ok bytes
    | some .dir => .error (.isDirectory p)
    | _ => .error (.notFound p)

/-- Make one directory whose parents exist; an existing directory is fine. -/
def makeDir (fs : Files) (q : Path) : Except FsError Files :=
  if fs.tooLong q then .error (.nameTooLong q) else
  match fs.blockedPrefix q with
  | some (_, true) => .error (.notDirectory q)
  | some (_, false) => .error (.notFound q)
  | none =>
    match fs.get? q with
    | some .dir => .ok fs
    | some _ => .error (.fileExists q)
    | none => .ok (fs.set q .dir)

/-- The table after a step that may fail, with its failure: a failed step changes nothing. -/
def step (fs : Files) (r : Except FsError Files) : Files × Option FsError :=
  match r with
  | .ok fs' => (fs', none)
  | .error e => (fs, some e)

/-- Make a directory and its missing parents; an existing directory is fine. A file among
the parents stops the making at the directory asked for. Directories made before a failure
stay made: the failure comes with the table as it is then. -/
def makeDirs (fs : Files) : Nat → Path → Files × Option FsError
  | 0, q => fs.step (fs.makeDir q)
  | fuel + 1, q =>
    if q.isEmpty then (fs, none)
    else if fs.tooLong q then (fs, some (.nameTooLong q))
    else match fs.blockedPrefix q with
      | some (_, false) =>
        match fs.makeDirs fuel q.dropLast with
        | (fs, none) => fs.step (fs.makeDir q)
        | failed => failed
      | _ => fs.step (fs.makeDir q)

/-- Open the file at a canonical path for writing, making its parent directories first: the
file is made empty, and made when absent. Directories made before a failure stay made. -/
def openFile (fs : Files) (p : Path) : Files × Option FsError :=
  match fs.makeDirs (p.length + 1) p.dropLast with
  | (fs, some e) => (fs, some e)
  | (fs, none) =>
    if fs.tooLong p then (fs, some (.nameTooLong p)) else
    match fs.blockedPrefix p with
    | some (_, true) => (fs, some (.notDirectory p))
    | some (_, false) => (fs, some (.notFound p))
    | none =>
      match fs.get? p with
      | some .dir => (fs, some (.isDirectory p))
      | _ => (fs.set p (.file []), none)

/-- The files below a directory, as paths relative to it with their bytes. Links are
neither listed nor followed: every node lies at a path without links. -/
def filesBelow (fs : Files) (dir : Path) : List (String × List UInt8) :=
  let found := fs.nodes.filterMap (fun e =>
    match e.2 with
    | .file bytes =>
      if strictlyWithin dir e.1 then some ("/".intercalate (e.1.drop dir.length), bytes)
      else none
    | _ => none)
  found.mergeSort (fun a b => decide (a.1 ≤ b.1))

end Files

/-- A success keeps its value when failures are renamed. -/
theorem mapError_ok {ε ε' α : Type} (f : ε → ε') (a : α) :
    (Except.ok a : Except ε α).mapError f = .ok a := rfl

/-- A failure is renamed. -/
theorem mapError_error {ε ε' α : Type} (f : ε → ε') (e : ε) :
    (Except.error e : Except ε α).mapError f = .error (f e) := rfl

end CodingAgent.Workspace
