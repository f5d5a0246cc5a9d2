import SyscallGuard.Files.OsError
import SyscallGuard.Parse.Fault
import SyscallGuard.Text.Blank

set_option autoImplicit false

/-! # Formatting

An edited source is brought into canonical form before it is written. A *canonicaliser* is any
function that either gives the formatted bytes or fails. Failing is never fatal: `Rendered.of` falls
back to the edited bytes and keeps the reason. The usual canonicaliser hands the source to a
formatter program; what such a run can look like is an `Execution`, and `Canonicalizer.gofmt` says
which of the possible failures is reported. -/

namespace SyscallGuard

/-! ## Failures -/

/-- How a program ended. -/
inductive ExitStatus where
  | code (n : Nat)
  /-- Ended by a signal. -/
  | signal (n : Nat)
deriving DecidableEq

namespace ExitStatus

/-- The status of a program without a failure. -/
def success : ExitStatus := code 0

/-- The names of the signals, counted from one. -/
def signalNames : List String :=
  ["HUP", "INT", "QUIT", "ILL", "TRAP", "ABRT", "BUS", "FPE", "KILL", "USR1", "SEGV", "USR2", "PIPE",
    "ALRM", "TERM", "STKFLT", "CHLD", "CONT", "STOP", "TSTP", "TTIN", "TTOU", "URG", "XCPU", "XFSZ",
    "VTALRM", "PROF", "WINCH", "IO", "PWR", "SYS"]

/-- The text of a status. -/
def text : ExitStatus → String
  | code n => "exit status: " ++ toString n
  | signal n =>
    "signal: " ++ toString n ++ match signalNames[n - 1]? with
      | some name => " (SIG" ++ name ++ ")"
      | none => ""

end ExitStatus

/-- Why a source could not be formatted. -/
inductive FormatError where
  /-- The source is not valid, so the formatter was not started. -/
  | invalidSyntax (cause : SyntaxError)
  /-- The formatter could not be started. -/
  | spawn (program : Bytes) (cause : OsError)
  /-- The formatter did not take all of the source, or its end was not learned. -/
  | pipe (program : Bytes) (cause : OsError)
  /-- The formatter exited with a failure. -/
  | rejected (program : Bytes) (status : ExitStatus) (stderr : String)
deriving DecidableEq

namespace FormatError

/-- The text of an error. -/
def text : FormatError → String
  | invalidSyntax cause => "edited source is not valid Go: " ++ cause.text
  | spawn program cause => "failed to run " ++ Utf8.display program ++ ": " ++ cause.text
  | pipe program cause =>
    "failed to exchange source with " ++ Utf8.display program ++ ": " ++ cause.text
  | rejected program status stderr =>
    Utf8.display program ++ " exited with " ++ status.text ++ ": " ++ stderr

end FormatError

/-! ## Canonicalisers -/

/-- How a program came to its end. -/
structure Ending where
  status : ExitStatus
  stdout : Bytes
  stderr : Bytes
deriving DecidableEq

/-- A run of a program that could be started. -/
structure Execution where
  /-- Why the program was not given all of its input, if it was not. -/
  unwritten : Option OsError
  /-- Its end, unless waiting for it failed. -/
  ending : Except OsError Ending

/-- Formats a source or fails. -/
abbrev Canonicalizer := Bytes → Except FormatError Bytes

namespace Canonicalizer

/-- The formatter that is used if none is named. -/
def defaultProgram : String := "gofmt"

/-- Leaves the source as it is. -/
def verbatim : Canonicalizer := fun source => .ok source

/-- Fails on every source. -/
def reject : Canonicalizer := fun _ => .error (.invalidSyntax .noTree)

/-- Capitalises the source. -/
def upper : Canonicalizer := fun source => .ok (Bytes.toUpper source)

/-- The result of a run of a formatter. Without its end nothing is known of its status; a failing
    status counts before input that was not taken. -/
def ofExecution (program : Bytes) : Except OsError Execution → Except FormatError Bytes
  | .error cause => .error (.spawn program cause)
  | .ok x =>
    match x.ending with
    | .error cause => .error (.pipe program cause)
    | .ok e =>
      if e.status ≠ .success then
        .error (.rejected program e.status (String.ofList (Blank.trim (Utf8.lossy e.stderr))))
      else match x.unwritten with
        | some cause => .error (.pipe program cause)
        | none => .ok e.stdout

/-- Formats with a program, which `run` runs on its input. The program is only started on sources
    that are valid. -/
def gofmt (program : Bytes) (run : Bytes → Except OsError Execution) : Canonicalizer :=
  fun source =>
    match Parsed.strict source with
    | .error cause => .error (.invalidSyntax cause)
    | .ok _ => ofExecution program (run source)

end Canonicalizer

/-! ## Rendering -/

/-- A source after formatting was tried. -/
inductive Rendered where
  | formatted (bytes : Bytes)
  | unformatted (source : Bytes) (reason : FormatError)
deriving DecidableEq

namespace Rendered

/-- What the result of formatting makes of a source: without it, the source stays. -/
def ofResult (edited : Bytes) : Except FormatError Bytes → Rendered
  | .ok bytes => formatted bytes
  | .error reason => unformatted edited reason

/-- Formats a source, or keeps it with the reason why it could not be formatted. -/
def of (c : Canonicalizer) (edited : Bytes) : Rendered := ofResult edited (c edited)

/-- The bytes to be written. -/
def bytes : Rendered → Bytes
  | formatted b => b
  | unformatted b _ => b

/-- The failure, if formatting failed. -/
def formatError? : Rendered → Option FormatError
  | formatted _ => none
  | unformatted _ reason => some reason

end Rendered

end SyscallGuard
