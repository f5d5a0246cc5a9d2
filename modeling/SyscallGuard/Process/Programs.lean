import SyscallGuard.Process.Host
import SyscallGuard.Process.Utility.Edit
import SyscallGuard.Process.Utility.Environment
import SyscallGuard.Process.Utility.Exchange
import SyscallGuard.Process.Utility.Lines
import SyscallGuard.Process.Utility.Search

set_option autoImplicit false

/-! # The standard host

The programs of an ordinary system, and the executables that the file tree holds. A name without a
slash is looked for among the programs of the system; anything else is a path. An executable of the
tree names the program that interprets it in its first line. -/

namespace SyscallGuard.Host

/-! ## Programs of the system -/

/-- Checks a condition. -/
def checkCondition (name : String) (args : List Bytes) : Work Nat := do
  match ← Condition.test name args with
  | .ok holds => return if holds then 0 else 1
  | .error text =>
    Work.complain (name ++ ": " ++ text ++ "\n")
    return 2

/-- Prints by a format. -/
def printFormat (args : List Bytes) : Work Nat := do
  match args with
  | [] => Utility.misuse "printf" "missing operand"
  | text :: args =>
    let p := Print.printf true text args
    Work.say p.bytes
    p.faults.forM fun f =>
      Work.complain ("printf: " ++ Utility.quoted f ++ ": expected a numeric value\n")
    match p.invalid with
    | some place =>
      Work.complain ("printf: " ++ Utf8.display place ++ ": invalid conversion specification\n")
      return 1
    | none => return if p.faults.isEmpty then 0 else 1

/-- What a program of the system does with its arguments, if it starts no others. -/
def utility? (name : String) : Option (List Bytes → Work Nat) :=
  match name with
  | "[" => some (checkCondition "[")
  | "cat" => some Utility.cat
  | "chmod" => some Utility.chmod
  | "cp" => some Utility.cp
  | "cut" => some Utility.cut
  | "echo" => some fun args => do
    Work.say (Print.echoPlain args)
    return 0
  | "false" => some fun _ => return 1
  | "grep" => some Search.grep
  | "head" => some Utility.head
  | "ln" => some Utility.ln
  | "ls" => some Utility.ls
  | "mkdir" => some Utility.mkdir
  | "mv" => some Utility.mv
  | "printf" => some printFormat
  | "rm" => some Utility.rm
  | "rmdir" => some Utility.rmdir
  | "sed" => some Editor.sed
  | "sleep" => some Utility.sleep
  | "sort" => some Utility.sort
  | "tac" => some Utility.tac
  | "tail" => some Utility.tail
  | "tee" => some Utility.tee
  | "test" => some (checkCondition "test")
  | "touch" => some Utility.touch
  | "tr" => some Exchange.tr
  | "true" => some fun _ => return 0
  | "uniq" => some Utility.uniq
  | "wc" => some Utility.wc
  | _ => none

/-- Runs a program of the system, given what it is called and its arguments. -/
def runProgram (launch : Shell.Launcher) (name : String) (argv : List Bytes) : Work ExitStatus := do
  let args := argv.drop 1
  let calledAs := Utf8.display (argv.head?.getD [])
  withReader (fun t => { t with name, calledAs }) (
    match name with
    | "sh" | "dash" => Shell.start launch .plain argv
    | "bash" => Shell.start launch .rich argv
    | "env" => Utility.env launch args
    | name =>
      match utility? name with
      | some body => do
        let status ← body args
        return .code status
      | none => return .code 1)

/-! ## Executables -/

/-- How much of an executable is looked at to find its interpreter. -/
def headSize : Nat := 256

/-- The interpreter of an executable with its argument, if its first line names one. -/
def interpreter? (content : Bytes) : Option (Bytes × Option Bytes) :=
  match content.take headSize with
  | 35 :: 33 :: rest =>
    let line := rest.takeWhile fun b => b != 10
    let ended := line.length < rest.length
    let line := line.dropWhile Bytes.isIndent
    let line := if ended then (line.reverse.dropWhile Bytes.isIndent).reverse else line
    let path := line.takeWhile fun b => !Bytes.isIndent b && b != 0
    let argument := ((line.drop path.length).dropWhile Bytes.isIndent).takeWhile fun b => b != 0
    let isCut := !ended && content.length ≥ headSize && path.length = line.length
    if isCut || (path.isEmpty && ended) then none
    else some (path, if argument.isEmpty then none else some argument)
  | _ => none

/-- How many interpreters may stand behind each other. -/
def interpreterLimit : Nat := 6

/-- Runs the executable at a path, through at most so many interpreters. -/
def runPath (launch : Shell.Launcher) : Nat → Shell.Launcher
  | 0, _, _ => return .error .linkLoop
  | level + 1, path, argv => do
    let w := (← get).world
    match w.resolve (← read).directory true path with
    | .error e => return .error e
    | .ok spot =>
      let program? := match spot with
        | .around place => System.program? place
        | _ => none
      match program?, w.entry? spot with
      | some name, some (.file _ true) => return .ok (← runProgram launch name argv)
      | _, some (.file content true) =>
        match interpreter? content with
        | none => return .error .badExecutable
        | some (interpreter, argument) =>
          runPath launch level interpreter (interpreter :: argument.toList ++ path :: argv.drop 1)
      | _, _ => return .error .denied

/-- Runs executables that start others, so deep at most. -/
def launchUpTo : Nat → Shell.Launcher
  | 0 => fun _ _ => return .error .notFound
  | depth + 1 => runPath (launchUpTo depth) interpreterLimit

/-- More programs than will run inside each other. -/
def launchLimit : Nat := 100

/-! ## The host -/

/-- The variables that a program is given. -/
def environment : List (Bytes × Bytes) :=
  [(Bytes.ofString "PATH", Task.searched), (Bytes.ofString "HOME", Bytes.ofString "/root")]

/-- The path of a program. -/
def locate (t : FileTree) (program : Bytes) : Except OsError Bytes :=
  if program.isEmpty then .error .notFound
  else if List.contains program Path.slash then .ok program
  else if program.length > World.longestName then .error .nameTooLong
  else Shell.executablePath t.world (.inside []) (Bytes.splitBy (· == 58) Task.searched) program

/-- How much input a pipe holds that its reader has not taken. -/
def pipeCapacity : Nat := 65536

/-- The size of the pieces in which a pipe is emptied. -/
def pipePage : Nat := 4096

/-- Whether a writer could hand over all of its input before the reader, which has taken some of it,
    was gone. -/
def isDrained (length taken : Nat) : Bool :=
  decide (length ≤ pipeCapacity + taken / pipePage * pipePage)

/-- Runs the program at a path on some input. -/
def runOn (t : FileTree) (path program input : Bytes) : Except OsError Execution × FileTree :=
  let task : Task := {
    directory := .inside []
    descriptors := [(0, 0), (1, 1), (2, 2)]
    environment }
  let session : Session := { world := t.world, streams := #[.source input, .sink [], .sink []] }
  let (result, session) := ((launchUpTo launchLimit path [program]).run task).run session
  match result with
  | .error e => (.error e, t)
  | .ok status =>
    let taken := input.length - (session.pending 0).length
    (.ok {
      unwritten := if isDrained input.length taken then none else some .brokenPipe
      ending := .ok ⟨status, session.written 1, session.written 2⟩ }, session.world.tree)

/-- The standard host. -/
def standard : Host where
  run t program input :=
    if List.contains program 0 then (.error .nulInProgram, t)
    else match locate t program with
      | .error e => (.error e, t)
      | .ok path => runOn t path program input

end SyscallGuard.Host
