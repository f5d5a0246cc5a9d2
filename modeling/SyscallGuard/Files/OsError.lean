set_option autoImplicit false

/-! # Failures of the operating system

Why a file could not be read or written, a directory not listed, or a program not run, with the
number that the system gives the failure and its text. -/

namespace SyscallGuard

/-- The failures of the operating system. -/
inductive OsError where
  | notFound | badExecutable | badDescriptor | denied | exists_ | notDirectory | isDirectory
  | invalid | busy | full | brokenPipe | nameTooLong | notEmpty | linkLoop
  /-- Any other failure of the system. -/
  | other (number : Nat) (description : String)
  /-- A path with a zero byte in it. -/
  | nulInName
  /-- A program name with a zero byte in it. -/
  | nulInProgram
  /-- More entries in a tree than a walk has steps for. -/
  | endless
deriving DecidableEq

namespace OsError

/-- The number that the system gives a failure, if it comes from the system. -/
def number? : OsError → Option Nat
  | notFound => some 2
  | badExecutable => some 8
  | badDescriptor => some 9
  | denied => some 13
  | busy => some 16
  | exists_ => some 17
  | notDirectory => some 20
  | isDirectory => some 21
  | invalid => some 22
  | full => some 28
  | brokenPipe => some 32
  | nameTooLong => some 36
  | notEmpty => some 39
  | linkLoop => some 40
  | other number _ => some number
  | nulInName | nulInProgram | endless => none

/-- The description of a failure. -/
def describe : OsError → String
  | notFound => "No such file or directory"
  | badExecutable => "Exec format error"
  | badDescriptor => "Bad file descriptor"
  | denied => "Permission denied"
  | busy => "Device or resource busy"
  | exists_ => "File exists"
  | notDirectory => "Not a directory"
  | isDirectory => "Is a directory"
  | invalid => "Invalid argument"
  | full => "No space left on device"
  | brokenPipe => "Broken pipe"
  | nameTooLong => "File name too long"
  | notEmpty => "Directory not empty"
  | linkLoop => "Too many levels of symbolic links"
  | other _ description => description
  | nulInName => "file name contained an unexpected NUL byte"
  | nulInProgram => "nul byte found in provided data"
  | endless => "the walk does not come to an end"

/-- The text of a failure. -/
def text (e : OsError) : String :=
  match e.number? with
  | some n => e.describe ++ " (os error " ++ toString n ++ ")"
  | none => e.describe

end OsError

end SyscallGuard
