import SyscallGuard.Guarded

set_option autoImplicit false

/-! # Events

What is worth logging while sources are guarded: one event for each site, and one or two for each
file. An event has a level, the target under which filters find it, a message, and named values. -/

namespace SyscallGuard

/-- How much an event matters, the most important first. -/
inductive Level where
  | error | warn | info | debug | trace
deriving DecidableEq

namespace Level

/-- The place of a level among the numbers by which filters name them. -/
def rank : Level → Nat
  | error => 1
  | warn => 2
  | info => 3
  | debug => 4
  | trace => 5

/-- The name of a level. -/
def name : Level → String
  | error => "ERROR"
  | warn => "WARN"
  | info => "INFO"
  | debug => "DEBUG"
  | trace => "TRACE"

end Level

/-- Something that happened. -/
inductive Event where
  /-- A guard was inserted for the site on `line`, at `index` of the edited lines. -/
  | inserted (line index : Nat) (primitive : Primitive)
  /-- The site already had its guard. -/
  | alreadyGuarded (line : Nat) (primitive : Primitive)
  /-- The site's line does not exist. -/
  | outOfBounds (line : Nat)
  /-- A file needed no guard. -/
  | unchanged (path : Bytes) (sites : Nat)
  /-- A file could not be formatted. -/
  | unformatted (path : Bytes) (reason : FormatError)
  /-- A file was given guards, or would have been. -/
  | guarded (path : Bytes) (insertions : Nat) (dryRun : Bool)
deriving DecidableEq

/-- A value that an event names. -/
inductive Value where
  | number (n : Nat)
  /-- A text that is shown in quotes. -/
  | quoted (text : String)
  /-- A text that is shown as it is. -/
  | bare (text : String)

namespace Event

/-- The event for what became of a site. -/
def ofOutcome : Site × Outcome → Event
  | (s, .inserted index) => inserted s.position.line index s.primitive
  | (s, .alreadyGuarded) => alreadyGuarded s.position.line s.primitive
  | (s, .outOfBounds) => outOfBounds s.position.line

/-- The level of an event. -/
def level : Event → Level
  | inserted .. => .trace
  | alreadyGuarded .. => .debug
  | outOfBounds .. => .debug
  | unchanged .. => .debug
  | unformatted .. => .warn
  | guarded .. => .info

/-- The target of an event. -/
def target : Event → String
  | inserted .. | alreadyGuarded .. | outOfBounds .. => "wasmguard_syntax::injector"
  | unchanged .. | unformatted .. | guarded .. => "wasmguard_syntax::orchestrator"

/-- The message of an event. -/
def message : Event → String
  | inserted .. => "inserted guard"
  | alreadyGuarded .. => "site already guarded"
  | outOfBounds .. => "site line outside buffer; skipped"
  | unchanged .. => "no guards needed"
  | unformatted .. => "formatting failed; writing unformatted source"
  | guarded _ _ true => "would insert syscall guards"
  | guarded _ _ false => "inserted syscall guards"

/-- The values of an event with their names. -/
def fields : Event → List (String × Value)
  | inserted line index primitive =>
    [("line", .number line), ("index", .number index), ("primitive", .quoted primitive.name)]
  | alreadyGuarded line primitive =>
    [("line", .number line), ("primitive", .quoted primitive.name)]
  | outOfBounds line => [("line", .number line)]
  | unchanged path sites => [("path", .bare (Utf8.display path)), ("sites", .number sites)]
  | unformatted path reason =>
    [("path", .bare (Utf8.display path)), ("error", .bare reason.text)]
  | guarded path insertions _ =>
    [("path", .bare (Utf8.display path)), ("insertions", .number insertions)]

end Event

end SyscallGuard
