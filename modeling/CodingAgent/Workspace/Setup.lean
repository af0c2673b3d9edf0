import CodingAgent.Workspace.Workspace

/-!
# Building a file tree

A host lays out a file system before a task starts: directories, files with their bytes, and
links. Each of these makes the directories above it.
-/

namespace CodingAgent.Workspace

namespace Files

/-- The table with `p` and every directory above it present as directories. -/
def ensureDir (fs : Files) (p : Path) : Files :=
  (List.range p.length).foldl (fun fs k =>
    let q := p.take (k + 1)
    match fs.get? q with
    | some _ => fs
    | none => fs.set q .dir) fs

/-- Put a file with its bytes at `p`. -/
def putFile (fs : Files) (p : Path) (bytes : List UInt8) : Files :=
  (fs.ensureDir p.dropLast).set p (.file bytes)

/-- Put a link with its target text at `p`. -/
def putLink (fs : Files) (p : Path) (target : String) : Files :=
  (fs.ensureDir p.dropLast).set p (.link target)

end Files

/-- An empty workspace at `root`, inside a file system where only the root and its parents
exist. -/
def empty (root home : Path) : Workspace :=
  { files := ({} : Files).ensureDir root, root := root, home := home }

end CodingAgent.Workspace
