import SyscallGuard.Cli.Arguments
import SyscallGuard.Sweep

set_option autoImplicit false

/-! # The command

One run of the command: from arguments and a file tree to an exit status, two outputs and a file
tree. A run succeeds if it answers a request for information, or if it sweeps the tree without a
failure and can write its summary. -/

namespace SyscallGuard.Cli

/-- What a run leaves behind. -/
structure Transcript where
  succeeds : Bool
  stdout : String
  stderr : String
  tree : FileTree

/-- Where a run takes place. -/
structure Setting where
  /-- Where formatters run. -/
  host : Host
  /-- The time that log lines carry. -/
  time : String
  /-- Whether everything written to standard output is lost because the disk is full. -/
  stdoutFull : Bool

/-- Why a run failed after its arguments were read. -/
inductive RunError where
  | filter (cause : FilterError)
  | file (cause : FileError)
  | summary (cause : OsError)
deriving DecidableEq

/-- The text of an error. -/
def RunError.text : RunError → String
  | filter cause => "invalid log filter: " ++ cause.text
  | file cause => cause.text
  | summary cause => "failed to write summary: " ++ cause.text

/-- The line that sums up a sweep. -/
def summary (t : Totals) (dryRun : Bool) : String :=
  (if dryRun then "would insert " else "inserted ") ++ toString t.insertions ++ " guard(s) in "
    ++ toString t.guarded ++ " of " ++ toString t.visited ++ " Go file(s)"
    ++ if t.unformatted > 0 then "; " ++ toString t.unformatted ++ " file(s) left unformatted" else ""

namespace Job

/-- The formatter that a job uses. -/
def formatter (j : Job) (h : Host) : Formatter :=
  if j.noFormat then .ofCanonicalizer .verbatim else .ofProgram h j.gofmt

/-- A failed run. -/
def fail (log : String) (t : FileTree) (e : RunError) : Transcript :=
  ⟨false, "", log ++ "error: " ++ e.text ++ "\n", t⟩

/-- Does a job. The filter is read before anything else.

    The log is set up once for a process, by the first job that it runs, and a log of another's
    making would keep it from being set up at all. Here each job is a process of its own with no log
    but that one, so neither shows. Of the ways in which writing the summary can fail there is one,
    a full disk. -/
def run (j : Job) (s : Setting) (t : FileTree) : Transcript :=
  match Filter.read (Utf8.lossy j.logFilter) with
  | .error e => fail "" t (.filter e)
  | .ok filter =>
    let effect := Sweeper.guardTree ⟨j.formatter s.host, j.dryRun⟩ t j.root
    let log := logText filter j.logFormat s.time effect.events
    match effect.result with
    | .error e => fail log effect.tree (.file e)
    | .ok totals =>
      if s.stdoutFull then fail log effect.tree (.summary .full)
      else ⟨true, summary totals j.dryRun ++ "\n", log, effect.tree⟩

end Job

/-- Runs the command. -/
def run (s : Setting) (t : FileTree) (arguments : List Bytes) : Transcript :=
  match Request.read arguments with
  | .error e => ⟨false, "", e.text, t⟩
  | .ok (.inquiry i) => ⟨true, if s.stdoutFull then "" else i.answer, "", t⟩
  | .ok (.job j) => j.run s t

end SyscallGuard.Cli
