import SyscallGuard.Files.Resolve

set_option autoImplicit false

/-! # Hosts

Where formatters run. A host answers what running a program on some input comes to, and what the
file tree looks like afterwards. A formatter is a canonicaliser together with what it leaves behind
in the tree; one that is a plain function leaves everything as it is. -/

namespace SyscallGuard

/-- A place where programs run. -/
structure Host where
  run : FileTree → (program input : Bytes) → Except OsError Execution × FileTree

/-- A canonicaliser with its traces in the tree. -/
structure Formatter where
  run : FileTree → Bytes → Except FormatError Bytes × FileTree

namespace Formatter

/-- The formatter that is just a function. -/
def ofCanonicalizer (c : Canonicalizer) : Formatter := ⟨fun t source => (c source, t)⟩

/-- The formatter that runs a program. It is started on valid sources only. -/
def ofProgram (h : Host) (program : Bytes) : Formatter where
  run t source :=
    match Parsed.strict source with
    | .error cause => (.error (.invalidSyntax cause), t)
    | .ok _ =>
      let (result, after) := h.run t program source
      (Canonicalizer.ofExecution program result, after)

/-- The canonicaliser that a formatter is on a given tree. -/
def canonicalizer (f : Formatter) (t : FileTree) : Canonicalizer := fun source => (f.run t source).1

end Formatter

end SyscallGuard
