import SyscallGuard.Files.Path
import SyscallGuard.Files.Tree

set_option autoImplicit false

/-! # Changes

What differs between two trees, as it is shown to a user: files by their content, directories and
links only by being there. A name with a slash behind it is a directory, one with an at sign a
link. -/

namespace SyscallGuard

/-- What is shown of an entry. -/
inductive Shown where
  | content (bytes : Bytes)
  | directory
  | link
deriving DecidableEq

namespace FileTree

/-- A line of the table as it is shown. -/
def showLine (e : Location × Entry) : Bytes × Shown :=
  let name := [Path.slash].intercalate e.1
  match e.2 with
  | .file content _ => (name, .content content)
  | .directory => (name ++ [Path.slash], .directory)
  | .link _ => (name ++ [64], .link)

/-- The whole tree as it is shown. -/
def shown (t : FileTree) : List (Bytes × Shown) := t.table.map showLine

/-- The names whose showing differs, with the new one, or nothing if there is none any more. -/
def changes (before after : FileTree) : List (Bytes × Option Shown) :=
  let old := before.shown
  let new := after.shown
  ((old.filter fun o => new.all fun n => n.1 != o.1).map fun o => (o.1, none))
    ++ (new.filter fun n => !old.contains n).map fun n => (n.1, some n.2)

end FileTree

end SyscallGuard
