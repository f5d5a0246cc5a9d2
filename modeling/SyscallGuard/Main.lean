import SyscallGuard.Cli.Command
import SyscallGuard.Files.Changes
import SyscallGuard.Log.Instant
import SyscallGuard.Process.Programs

set_option autoImplicit false

/-! # The program

The outer layer of the command. What there is to look at is listed on standard input, one entry to a
line, each directory in front of what it holds. The files are read, the command runs on the tree that
the listing makes up, and the files that it changed are written back. Log lines carry the time that
the environment names. -/

namespace SyscallGuard.Program

/-- The bytes of a list in one piece. -/
def pack (b : Bytes) : ByteArray := ⟨b.toArray⟩

/-- A line of the listing, as `find -printf '%M\t%p\t%l\n'` prints it: what the entry is and who may
    do what with it, its path, and the target if it is a link. -/
structure Listed where
  mode : List Char
  path : Bytes
  target : Bytes

namespace Listed

/-- Reads a line. -/
def ofLine (line : String) : Listed :=
  match line.splitOn "\t" with
  | mode :: path :: rest => ⟨mode.toList, .ofString path, .ofString (rest.headD "")⟩
  | _ => ⟨[], [], []⟩

/-- Whether the owner may read it. -/
def readable (l : Listed) : Bool := l.mode[1]? == some 'r'

/-- Whether the owner may execute it. -/
def executable (l : Listed) : Bool := l.mode[3]? == some 'x'

end Listed

/-- Why a file could not be read. -/
def cause : IO.Error → OsError
  | .permissionDenied .. => .denied
  | .noFileOrDirectory .. => .notFound
  | _ => .other 5 "Input/output error"

/-- The tree with one more entry of the listing. A file that cannot be read stands in the tree
    without a content, and cannot be opened; entries that are no files, directories or links are
    left out. -/
def load (t : FileTree) (l : Listed) : IO FileTree :=
  match l.mode.head? with
  | some '-' => do
    try
      let content ← IO.FS.readBinFile (Utf8.display l.path)
      return t.placeFile l.path content.data.toList l.executable
    catch e => return (t.placeFile l.path [] l.executable).barPath l.path (cause e)
  | some 'd' =>
    let t := t.placeDirectory l.path
    return if l.readable then t else t.barPath l.path .denied
  | some 'l' => return t.placeLink l.path l.target
  | _ => return t

/-- Writes back the files that differ. -/
def store (before after : FileTree) : IO Unit :=
  (before.changes after).forM fun change =>
    match change.2 with
    | some (.content content) => IO.FS.writeBinFile (Utf8.display change.1) (pack content)
    | _ => pure ()

/-- The time that log lines carry. -/
def time : IO String := do
  let seconds := ((← IO.getEnv "SOURCE_DATE_EPOCH").bind String.toNat?).getD 0
  return Instant.text seconds

/-- Runs the command. Only a job needs the files. -/
def run (args : List String) : IO UInt32 := do
  let arguments := args.map Bytes.ofString
  let before ← match Cli.Request.read arguments with
    | .ok (.job _) =>
      let listing ← (← IO.getStdin).readToEnd
      ((listing.splitOn "\n").map Listed.ofLine).foldlM load .empty
    | _ => pure .empty
  let result := Cli.run ⟨.standard, ← time, false⟩ before arguments
  store before result.tree
  (← IO.getStderr).putStr result.stderr
  (← IO.getStdout).putStr result.stdout
  return if result.succeeds then 0 else 1

end SyscallGuard.Program

/-- The entry of the program. -/
def main (args : List String) : IO UInt32 := SyscallGuard.Program.run args
