import SyscallGuard.Format
import SyscallGuard.Inject

set_option autoImplicit false

/-! # Guarding a source

The whole job for one source, in memory: parse it, find its sites, inject the guards and format the
result. A source that needs no guard is not formatted and counts as unchanged. -/

namespace SyscallGuard

/-- The source with guards, before formatting. -/
def draft (source : Bytes) : Except SyntaxError Injected :=
  match Parsed.strict source with
  | .error e => .error e
  | .ok p => .ok (injectGuards p.source p.sites)

/-- The number of sites that were looked at. -/
def Injected.sites (i : Injected) : Nat := i.outcomes.length

/-- What guarding a source comes to. -/
inductive Guarded where
  /-- No guard was needed. -/
  | unchanged (sites : Nat)
  /-- Guards were inserted. -/
  | changed (sites insertions : Nat) (rendered : Rendered)
deriving DecidableEq

/-- Formats a draft unless nothing was inserted. -/
def Guarded.ofDraft (c : Canonicalizer) (d : Injected) : Guarded :=
  if d.insertions = 0 then .unchanged d.sites else .changed d.sites d.insertions (.of c d.output)

/-- Guards a source. -/
def guardSource (source : Bytes) (c : Canonicalizer) : Except SyntaxError Guarded :=
  match draft source with
  | .error e => .error e
  | .ok d => .ok (.ofDraft c d)

end SyscallGuard
