import SyscallGuard.Process.Options
import SyscallGuard.Process.Shell.Arithmetic

set_option autoImplicit false

/-! # The state of a shell

What a shell knows while it runs a script: its variables, the arguments, the directory and the
descriptors, and the status of the last command. Anything that ends more than one command, from
leaving a loop to the end of the shell itself, is a `Stop`. -/

namespace SyscallGuard.Shell

/-- Which of two shells runs a script. They differ in how they print and complain. -/
inductive Dialect where
  | plain | rich
deriving DecidableEq

/-- A variable. One without a value has only its mark. -/
structure Variable where
  value : Option Bytes
  exported : Bool := false

/-- What ends more than one command. -/
inductive Stop where
  | exit
  /-- Only the line is given up. -/
  | discard
  | break_ (loops : Nat)
  | continue_ (loops : Nat)
  /-- Ended by a signal. -/
  | killed (signal : Nat)

/-- The state of a shell. -/
structure State where
  dialect : Dialect
  /-- What the shell was started as. -/
  name : Bytes
  line : Nat := 0
  arguments : List Bytes
  bindings : List (Bytes × Variable)
  status : Nat := 0
  directory : Spot
  /-- The names that led to the directory, from the top or from where the shell was started. -/
  route : Option (Bool × List Bytes) := some (false, [])
  descriptors : List (Nat × Nat)
  /-- The letters of the options that are on. -/
  options : List Char := []
  /-- How many loops are running. -/
  loops : Nat := 0
  /-- The status of the last command that was run for a word of the current one. -/
  inner : Option Nat := none

/-- What a shell does. -/
abbrev Job := ExceptT Stop (StateT State (StateM Session))

/-- The number by which a shell knows itself. -/
def ownNumber : Nat := 4096

/-- What separates fields if nothing else is said. -/
def defaultSeparators : Bytes := [32, 9, 10]

namespace State

/-- The variable with a name. -/
def binding? (s : State) (name : Bytes) : Option Variable := s.bindings.lookup name

/-- The value of a variable. -/
def value? (s : State) (name : Bytes) : Option Bytes := (s.binding? name).bind Variable.value

/-- The state with a variable. -/
def setVariable (s : State) (name : Bytes) (v : Variable) : State :=
  { s with bindings := (name, v) :: s.bindings.filter fun p => p.1 != name }

/-- The state without a variable. -/
def unsetVariable (s : State) (name : Bytes) : State :=
  { s with bindings := s.bindings.filter fun p => p.1 != name }

/-- The bytes that separate fields. -/
def separators (s : State) : Bytes := (s.value? (Bytes.ofString "IFS")).getD defaultSeparators

/-- Whether an option is on. -/
def has (s : State) (option : Char) : Bool := s.options.contains option

/-- What programs are started with. -/
def task (s : State) : Task :=
  { directory := s.directory
    descriptors := s.descriptors
    environment := s.bindings.filterMap fun (name, v) =>
      if v.exported then v.value.map fun value => (name, value) else none }

end State

namespace Job

/-- Does something with the files and streams of the shell. -/
def work {α : Type} (w : Work α) : Job α := do
  let t := (← get).task
  let session ← (getThe Session : StateT State (StateM Session) Session)
  let (a, session) := (w.run t).run session
  (set session : StateT State (StateM Session) Unit)
  return a

/-- Writes to a descriptor. -/
def write (descriptor : Nat) (bytes : Bytes) : Job Unit := work (Work.write descriptor bytes)

/-- Writes to standard output. -/
def say (bytes : Bytes) : Job Unit := write 1 bytes

/-- Sets the status. -/
def setStatus (n : Nat) : Job Unit := modify fun s => { s with status := n }

/-- What complaints of the shell start with. -/
def heading : Job String := do
  let s ← get
  let line := match s.dialect with
    | .plain => toString s.line
    | .rich => "line " ++ toString s.line
  return Utf8.display s.name ++ ": " ++ line ++ ": "

/-- Complains in the name of the shell. -/
def complain (text : String) : Job Unit := do
  write 2 (Bytes.ofString ((← heading) ++ text ++ "\n"))

/-- The status of the shell when it fails itself. -/
def failureStatus : Job Nat := return if (← get).dialect = .plain then 2 else 1

/-- Ends the shell with a complaint. -/
def abort {α : Type} (text : String) : Job α := do
  complain text
  setStatus (← failureStatus)
  throw .exit

/-- Gives up a line with a complaint, where the plain shell ends. -/
def discard {α : Type} (text : String) : Job α := do
  complain text
  setStatus (← failureStatus)
  throw (if (← get).dialect = .plain then .exit else .discard)

/-- Sets a variable. -/
def assign (name value : Bytes) : Job Unit := modify fun s =>
  s.setVariable name { (s.binding? name).getD ⟨none, s.has 'a'⟩ with value := some value }

end Job

end SyscallGuard.Shell
