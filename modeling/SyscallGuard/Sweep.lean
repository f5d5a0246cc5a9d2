import SyscallGuard.Files.Walk
import SyscallGuard.Log.Event
import SyscallGuard.Process.Host

set_option autoImplicit false

/-! # Guarding files

Guarding the sources of a file tree in place, one file after the other. The first file that cannot
be read, parsed or written ends the sweep; the files before it stay as they have become. A dry run
does everything but write. -/

namespace SyscallGuard

/-! ## Failures and results -/

/-- Why a file could not be guarded. -/
inductive FileError where
  | read (path : Bytes) (cause : OsError)
  | parse (path : Bytes) (cause : SyntaxError)
  | write (path : Bytes) (cause : OsError)
  /-- A directory cannot be looked into. -/
  | walk (path : Bytes) (cause : OsError)
deriving DecidableEq

namespace FileError

/-- The path that the error is about. -/
def path : FileError → Bytes
  | read path _ | parse path _ | write path _ | walk path _ => path

/-- The text of an error. -/
def text : FileError → String
  | read path cause => "failed to read " ++ Utf8.display path ++ ": " ++ cause.text
  | parse path cause => "failed to parse " ++ Utf8.display path ++ ": " ++ cause.text
  | write path cause => "failed to write " ++ Utf8.display path ++ ": " ++ cause.text
  | walk path cause =>
    "failed to traverse " ++ Utf8.display path ++ ": IO error for operation on "
      ++ Utf8.display path ++ ": " ++ cause.text

end FileError

/-- What guarding a file came to. -/
inductive FileOutcome where
  | unchanged
  | guarded (insertions : Nat) (formatted written : Bool)
deriving DecidableEq

/-- The totals of a sweep. -/
structure Totals where
  /-- The Go sources that were visited. -/
  visited : Nat
  /-- Those that were given guards. -/
  guarded : Nat
  /-- The guards they were given. -/
  insertions : Nat
  /-- Those that could not be formatted. -/
  unformatted : Nat
deriving DecidableEq

namespace Totals

/-- Before the first file. -/
def zero : Totals := ⟨0, 0, 0, 0⟩

/-- Counts one more file. -/
def record (t : Totals) : FileOutcome → Totals
  | .unchanged => { t with visited := t.visited + 1 }
  | .guarded insertions formatted _ =>
    { visited := t.visited + 1,
      guarded := t.guarded + 1,
      insertions := t.insertions + insertions,
      unformatted := if formatted then t.unformatted else t.unformatted + 1 }

end Totals

/-! ## Sweeping -/

/-- What was done to a tree: the events, the tree as it is now, and the result. -/
structure Effect (α : Type) where
  events : List Event
  tree : FileTree
  result : Except FileError α

/-- How files are guarded. -/
structure Sweeper where
  formatter : Formatter
  dryRun : Bool

namespace Sweeper

/-- The events about formatting a file. -/
def formatEvents (path : Bytes) (r : Rendered) : List Event :=
  match r.formatError? with
  | some reason => [.unformatted path reason]
  | none => []

/-- The tree with a new content of the file at a spot, or of the one that a path leads to if there
    is no file at the spot any more. -/
def store (t : FileTree) (path : Bytes) (spot : Spot) (content : Bytes) : Except OsError FileTree :=
  match t.world.entry? spot with
  | some (.file ..) => .ok (t.world.refill spot content).tree
  | _ => (t.world.write (.inside []) path content).map fun w => w.1.tree

/-- Formats a draft that has guards and writes it back. -/
def finish (w : Sweeper) (t : FileTree) (path : Bytes) (spot : Spot) (d : Injected) :
    Effect FileOutcome :=
  let (result, t) := w.formatter.run t d.output
  let rendered := Rendered.ofResult d.output result
  let events := d.outcomes.map Event.ofOutcome ++ formatEvents path rendered
  let outcome := FileOutcome.guarded d.insertions rendered.formatError?.isNone (!w.dryRun)
  let done := events ++ [.guarded path d.insertions w.dryRun]
  if w.dryRun then ⟨done, t, .ok outcome⟩
  else match store t path spot rendered.bytes with
    | .error e => ⟨events, t, .error (.write path e)⟩
    | .ok t => ⟨done, t, .ok outcome⟩

/-- Guards the file at a spot. -/
def guardSpot (w : Sweeper) (t : FileTree) (path : Bytes) (spot : Spot) : Effect FileOutcome :=
  match t.world.content spot with
  | .error e => ⟨[], t, .error (.read path e)⟩
  | .ok content =>
    match draft content with
    | .error e => ⟨[], t, .error (.parse path e)⟩
    | .ok d =>
      if d.insertions = 0 then
        ⟨d.outcomes.map Event.ofOutcome ++ [.unchanged path d.sites], t, .ok .unchanged⟩
      else w.finish t path spot d

/-- Guards the file that a path leads to. -/
def guardFile (w : Sweeper) (t : FileTree) (path : Bytes) : Effect FileOutcome :=
  match t.resolve true path with
  | .error e => ⟨[], t, .error (.read path e)⟩
  | .ok spot => w.guardSpot t path spot

/-- Guards the file that a walk has come to. -/
def guardVisit (w : Sweeper) (t : FileTree) (v : Visit) : Effect FileOutcome :=
  match t.settle v with
  | .error e => ⟨[], t, .error (.read v.path e)⟩
  | .ok spot => w.guardSpot t v.path spot

/-- Walks on through some entries and guards the Go sources among and below them, up to the first
    failure. To run out of steps is a failure of the walk. -/
def guardAll (w : Sweeper) : Nat → FileTree → Totals → List Visit → Effect Totals
  | _, t, totals, [] => ⟨[], t, .ok totals⟩
  | 0, t, _, v :: _ => ⟨[], t, .error (.walk v.path .endless)⟩
  | fuel + 1, t, totals, v :: rest =>
    match v.kind with
    | .link => guardAll w fuel t totals rest
    | .directory =>
      match t.entriesOf v with
      | .error e => ⟨[], t, .error (.walk v.path e)⟩
      | .ok entries => guardAll w fuel t totals (entries ++ rest)
    | .file =>
      if !Path.isGoSource v.path then guardAll w fuel t totals rest
      else
        let first := w.guardVisit t v
        match first.result with
        | .error e => ⟨first.events, first.tree, .error e⟩
        | .ok outcome =>
          let others := guardAll w fuel first.tree (totals.record outcome) rest
          ⟨first.events ++ others.events, others.tree, others.result⟩

/-- The entries that a formatter may add to a tree while it is walked, before the walk counts as one
    that does not come to an end. -/
def growth : Nat := 0x100000

/-- Guards every Go source that a root path leads to. -/
def guardTree (w : Sweeper) (t : FileTree) (root : Bytes) : Effect Totals :=
  match t.start root with
  | .error e => ⟨[], t, .error (.walk root e)⟩
  | .ok v => w.guardAll (t.table.length + growth) t .zero [v]

end Sweeper

end SyscallGuard
