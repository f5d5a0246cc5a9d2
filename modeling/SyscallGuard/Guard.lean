import SyscallGuard.Text.Bytes

set_option autoImplicit false

/-! # Guards

A *primitive* is a function that traps into the operating system. In front of a statement that
calls one, a *guard* is inserted: a line that panics with a message naming the call. The line
carries a fixed marker, by which a statement that already has its guard is recognised. -/

namespace SyscallGuard

/-! ## Primitives -/

/-- The functions whose calls are guarded. -/
inductive Primitive where
  | syscall | syscall6 | rawSyscall | rawSyscall6 | syscallNoError | rawSyscallNoError
deriving DecidableEq

namespace Primitive

/-- The name under which a primitive is called. -/
def name : Primitive → String
  | syscall => "Syscall"
  | syscall6 => "Syscall6"
  | rawSyscall => "RawSyscall"
  | rawSyscall6 => "RawSyscall6"
  | syscallNoError => "SyscallNoError"
  | rawSyscallNoError => "RawSyscallNoError"

/-- Every primitive. -/
def all : List Primitive :=
  [syscall, syscall6, rawSyscall, rawSyscall6, syscallNoError, rawSyscallNoError]

/-- The primitive with exactly this name. -/
def ofName? (name : Bytes) : Option Primitive :=
  all.find? fun p => Bytes.ofString p.name == name

end Primitive

/-! ## The guard line -/

namespace Guard

/-- The function a guard calls. -/
def call : String := "panic"

/-- What every guard's message starts with. -/
def messageStart : String := "syscall not supported in wasm"

/-- The text by which a guard is recognised. -/
def marker : String := call ++ "(\"" ++ messageStart ++ ":"

/-- A byte as it is written inside a string literal. -/
def escapeByte (b : UInt8) : Bytes :=
  if b = 92 then [92, 92]
  else if b = 34 then [92, 34]
  else if b = 10 then [92, 110]
  else if b = 13 then [92, 114]
  else [b]

/-- Bytes as they are written inside a string literal: no line break, no bare quote. -/
def escape (text : Bytes) : Bytes := text.flatMap escapeByte

/-- The guard for a call, indented like the statement it stands above. -/
def line (indent callText : Bytes) : Bytes :=
  indent ++ Bytes.ofString (marker ++ " ") ++ escape callText ++ Bytes.ofString "\")"

/-- Whether a line is a guard: whether the marker stands anywhere in it. -/
def isGuard (line : Bytes) : Bool := Bytes.contains (Bytes.ofString marker) line

end Guard

end SyscallGuard
