import SyscallGuard.Detect
import SyscallGuard.Text.Lines

set_option autoImplicit false

/-! # Injecting guards

Guards are inserted one site at a time. A site names a line of the source as it was read; every
insertion pushes the later lines down by one, so the injector adds the number of insertions made so
far. That is the right line as long as sites arrive in ascending order. A site whose line stands
directly below a guard is left alone, which also gives two sites on one line a single guard. -/

namespace SyscallGuard

/-! ## One site -/

/-- What became of a site. -/
inductive Outcome where
  /-- A guard was inserted and stands at this index of the edited lines. -/
  | inserted (index : Nat)
  /-- The line above is a guard. -/
  | alreadyGuarded
  /-- There is no such line. -/
  | outOfBounds
deriving DecidableEq

/-- Lines under edit, with the bytes that the call ranges refer to. -/
structure Injector where
  source : Bytes
  lines : Lines
  insertions : Nat

namespace Injector

/-- Before the first site. -/
def start (source : Bytes) : Injector := ⟨source, .split source, 0⟩

/-- The index of a site's line among the edited lines. -/
def index? (i : Injector) (s : Site) : Option Nat :=
  if s.position.line = 0 then none else some (s.position.line - 1 + i.insertions)

/-- Whether the line above an index is a guard. -/
def guardAbove (i : Injector) : Nat → Bool
  | 0 => false
  | above + 1 => (i.lines.line? above).any Guard.isGuard

/-- The guard for a site whose line is `target`. -/
def guardFor (i : Injector) (s : Site) (target : Bytes) : Bytes :=
  Guard.line (Bytes.leadingIndent target) (i.source.slice s.start s.stop)

/-- Guards one site. -/
def inject (i : Injector) (s : Site) : Outcome × Injector :=
  match i.index? s with
  | none => (.outOfBounds, i)
  | some index =>
    match i.lines.line? index with
    | none => (.outOfBounds, i)
    | some target =>
      if i.guardAbove index then (.alreadyGuarded, i)
      else match i.lines.insert? index (i.guardFor s target) with
        | none => (.outOfBounds, i)
        | some lines => (.inserted index, ⟨i.source, lines, i.insertions + 1⟩)

/-- Guards sites one after the other and keeps what became of each. -/
def injectAll (i : Injector) : List Site → List (Site × Outcome) × Injector
  | [] => ([], i)
  | s :: rest =>
    let (outcome, next) := i.inject s
    let (outcomes, last) := injectAll next rest
    ((s, outcome) :: outcomes, last)

/-- The edited source. -/
def output (i : Injector) : Bytes := i.lines.join

end Injector

/-! ## A whole source -/

/-- A source with guards inserted. -/
structure Injected where
  output : Bytes
  insertions : Nat
  /-- What became of each site, in the order of the sites. -/
  outcomes : List (Site × Outcome)

/-- How many sites already had their guard. -/
def Injected.alreadyGuarded (i : Injected) : Nat :=
  i.outcomes.countP fun o => o.2 == .alreadyGuarded

/-- Inserts a guard above every site; the sites have to be in the order of their lines. -/
def injectGuards (source : Bytes) (sites : List Site) : Injected :=
  let (outcomes, last) := (Injector.start source).injectAll sites
  ⟨last.output, last.insertions, outcomes⟩

end SyscallGuard
