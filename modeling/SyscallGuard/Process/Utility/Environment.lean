import SyscallGuard.Process.Shell.Run
import SyscallGuard.Process.Utility.Files

set_option autoImplicit false

/-! # Environments

The program that starts another one with other variables, and the one that only waits. -/

namespace SyscallGuard.Utility

open Work (complain say)

/-- What a program comes to that was started by another one. -/
def startedBy (w : World) (t : Task) (launch : Shell.Launcher) (name : Bytes)
    (args : List Bytes) : Work (Except OsError ExitStatus) := do
  let directories := Bytes.splitBy (· == 58) 
    ((t.environment.lookup (Bytes.ofString "PATH")).getD Task.searched)
  let path := if List.contains name Path.slash then .ok name
    else Shell.executablePath w t.directory directories name
  match path with
  | .error e => return .error e
  | .ok path => withReader (fun _ => t) (launch path (name :: args))

/-! ## Environments -/

/-- The arguments with the words of an argument for several of them split. -/
def splitArguments : List Bytes → List Bytes
  | [45, 83] :: text :: rest => (Bytes.splitBy Bytes.isSpace text).filter (!·.isEmpty) ++ rest
  | (45 :: 83 :: text) :: rest => (Bytes.splitBy Bytes.isSpace text).filter (!·.isEmpty) ++ rest
  | args => args

/-- Reads the changes of an environment in front of a program. -/
def environmentChanges (environment : List (Bytes × Bytes)) :
    List Bytes → Except Bytes (List (Bytes × Bytes) × List Bytes)
  | [] => .ok (environment, [])
  | [45, 105] :: rest | [45] :: rest => environmentChanges [] rest
  | [45, 117] :: name :: rest => environmentChanges (environment.filter fun v => v.1 != name) rest
  | [45, 45] :: rest => .ok (environment, rest)
  | arg :: rest =>
    let name := arg.takeWhile fun b => b != 61
    if arg.head? == some 45 then .error arg
    else if name.length < arg.length then
      let others := environment.filter fun v => v.1 != name
      environmentChanges (others ++ [(name, arg.drop (name.length + 1))]) rest
    else .ok (environment, arg :: rest)

/-- Prints variables. -/
def printEnvironment (environment : List (Bytes × Bytes)) : Work ExitStatus := do
  say (Bytes.unlines (environment.map fun v => v.1 ++ 61 :: v.2))
  return .success

/-- Starts a program with another environment, or prints the environment. -/
def env (launch : Shell.Launcher) (args : List Bytes) : Work ExitStatus := do
  let t ← read
  match environmentChanges t.environment (splitArguments args) with
  | .error arg =>
    complain (OptionError.text "env" (if arg.take 2 == [45, 45] then .unknownName arg
      else .unknown (Char.ofNat ((arg.drop 1).head?.getD 0).toNat)))
    return .code 125
  | .ok (environment, []) => printEnvironment environment
  | .ok (environment, name :: args) =>
    let t := { t with environment, name := "", calledAs := "" }
    match ← startedBy (← get).world t launch name args with
    | .ok status => return status
    | .error e =>
      complain ("env: " ++ quoted name ++ ": " ++ e.describe ++ "\n")
      if e = .notFound && List.contains name 32 then
        complain "env: use -[v]S to pass options in shebang lines\n"
      return .code (if e = .notFound then 127 else 126)

/-! ## Waiting -/

/-- Waits. -/
def sleep (args : List Bytes) : Work Nat :=
  match args.find? fun a => !((a.head?.map Shell.isDigit).getD false) with
  | some a => misuse "sleep" ("invalid time interval " ++ quoted a)
  | none => if args.isEmpty then misuse "sleep" "missing operand" else return 0

end SyscallGuard.Utility
