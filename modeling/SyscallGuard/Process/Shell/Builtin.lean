import SyscallGuard.Process.Shell.Expand
import SyscallGuard.Process.Utility.Condition
import SyscallGuard.Process.Utility.Print

set_option autoImplicit false

/-! # Commands of the shell itself

The commands that a shell carries out without starting a program, as far as they do not run other
commands. Those that belong to the language end a script when they fail. -/

namespace SyscallGuard.Shell

/-- The commands that belong to the language. -/
def specialBuiltins : List String :=
  [":", "break", "continue", "exec", "exit", "export", "set", "shift", "unset"]

/-- The other commands that a shell carries out itself. -/
def plainBuiltins : List String :=
  ["[", "cd", "echo", "false", "kill", "printf", "pwd", "read", "test", "true", "wait"]

/-- Whether a name is one of some names. -/
def isOneOf (names : List String) (name : Bytes) : Bool := names.any fun n => Bytes.ofString n == name

/-- Whether a shell carries out a command itself. -/
def isBuiltin (name : Bytes) : Bool :=
  isOneOf specialBuiltins name || isOneOf plainBuiltins name

namespace Builtin

/-- Complains about a command of the shell. -/
def complain (name text : String) : Job Unit := Job.complain (name ++ ": " ++ text)

/-- Ends the shell with a complaint about a command. -/
def abort {α : Type} (name text : String) : Job α := Job.abort (name ++ ": " ++ text)

/-- A number among the arguments of a command. -/
def number (name : String) (arg : Bytes) : Job Nat := do
  match Bytes.toNat? arg with
  | some n => return n
  | none =>
    match (← get).dialect with
    | .plain => abort name ("Illegal number: " ++ Utf8.display arg)
    | .rich =>
      complain name (Utf8.display arg ++ ": numeric argument required")
      Job.setStatus 2
      throw .exit

/-! ## Printing and checking -/

/-- Writes the output of a command of the shell. A descriptor that is closed is an error. -/
def output (name : String) (bytes : Bytes) : Job Nat := do
  modifyThe Session fun s => { s with failure := none }
  Job.say bytes
  match (← getThe Session).failure with
  | none => return 0
  | some e =>
    match (← get).dialect with
    | .plain => complain name (name ++ ": I/O error")
    | .rich => complain name ("write error: " ++ e.describe)
    return 1

/-- Prints arguments. -/
def echo (args : List Bytes) : Job Nat := do
  let bytes := match (← get).dialect with
    | .plain => Print.echoEscaped args
    | .rich => Print.echoPlain args
  output "echo" bytes

/-- Prints by a format. -/
def printf (args : List Bytes) : Job Nat := do
  let rich := (← get).dialect = .rich
  let args := if args.head? == some [45, 45] then args.drop 1 else args
  match args with
  | [] =>
    if rich then complain "printf" "usage: printf [-v var] format [arguments]"
    else complain "printf" "usage: printf format [arg ...]"
    return 2
  | text :: args =>
    let p := Print.printf rich text args
    let faults := p.faults
    let status ← output "printf" p.bytes
    faults.forM fun f =>
      let started := (f.dropWhile fun b => b == 45 || b == 43).head?.map isDigit |>.getD false
      complain "printf" (Utf8.display f ++ (if rich then ": invalid number"
        else if started then ": not completely converted" else ": expected numeric value"))
    match p.invalid with
    | none => return if faults.isEmpty then status else 1
    | some place =>
      let shown := Utf8.display place
      if rich then
        complain "printf" ("`" ++ (if place.length = 1 then shown else (shown.drop 1).toString) ++ "': "
          ++ (if place.length = 1 then "missing format character" else "invalid format character"))
        return 1
      else
        complain "printf" (if place.length = 1 then "missing format character"
          else shown ++ ": invalid directive")
        return 2

/-- Checks a condition. -/
def test (name : String) (args : List Bytes) : Job Nat := do
  match ← Job.work (Condition.test name args) with
  | .ok holds => return if holds then 0 else 1
  | .error text =>
    match (← get).dialect with
    | .plain => complain name text
    | .rich =>
      let count := (if name = "[" then args.dropLast else args).length
      complain name (
        if text = "missing ]" then "missing `]'"
        else if text.startsWith "Illegal number: " then
          (text.drop 16).toString ++ ": integer expression expected"
        else if count > 4 then "too many arguments"
        else if count = 2 then (text.takeWhile fun c => c != ':').toString ++ ": unary operator expected"
        else (args[1]?.map Utf8.display).getD "" ++ ": binary operator expected")
    return 2

/-! ## Directories -/

/-- The names that lead to a directory: a step up takes back the last name. Nothing if the steps lead
    further up than where the names start. -/
def routeAlong : List Bytes → List Bytes → Option (List Bytes)
  | names, [] => some names
  | names, step :: rest =>
    if step = Path.here then routeAlong names rest
    else if step = Path.above then
      if names.isEmpty then none else routeAlong names.dropLast rest
    else routeAlong (names ++ [step]) rest

/-- Changes the directory. -/
def cd (args : List Bytes) : Job Nat := do
  let s ← get
  let args := args.filter fun a => a != [45, 45] && a != [45, 80] && a != [45, 76]
  let target := args.head?.getD ((s.value? (Bytes.ofString "HOME")).getD [47])
  let target := if target.isEmpty then Path.here else target
  let world := (← getThe Session).world
  let fail (e : OsError) : Job Nat := do
    match s.dialect with
    | .plain =>
      complain "cd" ("can't cd to " ++ Utf8.display target)
      return 2
    | .rich =>
      complain "cd" (Utf8.display target ++ ": " ++ e.describe)
      return 1
  let before := if Path.isAbsolute target then some (true, []) else s.route
  let route := before.bind fun (top, names) =>
    (routeAlong names (Path.steps target)).map fun names => (top, names)
  let found := match route with
    | some (top, names) =>
      world.follow true World.linkLimit (if top then .around [] else .inside []) names
    | none => world.locate s.directory true target
  match found with
  | .error e => fail e
  | .ok (.absent ..) => fail .notFound
  | .ok (.present spot) =>
    if world.entry? spot = some .directory then
      set { s with directory := spot, route }
      return 0
    else fail .notDirectory

/-! ## Variables -/

/-- A name with an optional value. -/
def nameAndValue (arg : Bytes) : Bytes × Option Bytes :=
  let name := arg.takeWhile fun b => b != 61
  (name, if name.length < arg.length then some (arg.drop (name.length + 1)) else none)

/-- Hands variables on to programs, and sets them if values are given. -/
def export_ (args : List Bytes) : Job Nat := do
  (args.filter fun a => a != [45, 45]).forM fun arg => do
    let (key, value) := nameAndValue arg
    if !isName key then abort "export" (Utf8.display key ++ ": bad variable name")
    match value with
    | some v => Job.assign key v
    | none => pure ()
    modify fun s =>
      s.setVariable key { (s.binding? key).getD ⟨none, false⟩ with exported := true }
  return 0

/-- Removes variables. -/
def unset (args : List Bytes) : Job Nat := do
  let names := if args.head? == some [45, 118] then args.drop 1 else args
  names.forM fun name => do
    if !isName name then abort "unset" (Utf8.display name ++ ": bad variable name")
    modify fun s => s.unsetVariable name
  return 0

/-- Takes arguments from the front. -/
def shift (args : List Bytes) : Job Nat := do
  let n ← match args.head? with
    | some a => number "shift" a
    | none => pure 1
  let s ← get
  if n > s.arguments.length then
    match s.dialect with
    | .plain => abort "shift" "can't shift that many"
    | .rich => return 1
  else
    set { s with arguments := s.arguments.drop n }
    return 0

/-- The options with their long names. -/
def optionNames : List (String × Char) :=
  [("errexit", 'e'), ("nounset", 'u'), ("xtrace", 'x'), ("noglob", 'f'), ("allexport", 'a'),
    ("noclobber", 'C'), ("noexec", 'n'), ("verbose", 'v'), ("monitor", 'm'), ("notify", 'b'),
    ("ignoreeof", 'I'), ("interactive", 'i'), ("stdin", 's'), ("vi", 'V'), ("emacs", 'E')]

/-- The letters of the options. -/
def optionChars : List Char := "euxfaCnvmbIisVE".toList

/-- Turns an option on or off. -/
def switch (on : Bool) (c : Char) : Job Unit := modify fun s =>
  let others := s.options.filter fun o => o != c
  { s with options := if on then (if s.has c then s.options else s.options ++ [c]) else others }

/-- Reads the options in front of arguments and gives what is behind them. -/
def readOptions (name : String) : Nat → List Bytes → Job (Option (List Bytes))
  | 0, _ => return none
  | _ + 1, [] => return none
  | fuel + 1, arg :: rest => do
    match arg with
    | [45, 45] => return some rest
    | [45] => return some rest
    | sign :: letter :: letters =>
      if sign ≠ 45 ∧ sign ≠ 43 then return some (arg :: rest)
      else if letter = 111 ∧ letters.isEmpty then
        match rest with
        | [] => return none
        | long :: rest =>
          match optionNames.find? fun o => Bytes.ofString o.1 == long with
          | some (_, c) =>
            switch (sign == 45) c
            readOptions name fuel rest
          | none =>
            if (← get).dialect = .rich && long == Bytes.ofString "pipefail" then
              switch (sign == 45) 'P'
              readOptions name fuel rest
            else abort name ("Illegal option -o " ++ Utf8.display long)
      else
        (letter :: letters).forM fun b => do
          let c := Char.ofNat b.toNat
          if optionChars.contains c then switch (sign == 45) c
          else if c = 'o' ∨ ((← get).dialect = .rich ∧ "hkptBEHT".toList.contains c) then pure ()
          else abort name ("Illegal option " ++ String.singleton (Char.ofNat sign.toNat)
            ++ String.singleton c)
        readOptions name fuel rest
    | _ => return some (arg :: rest)

/-- Sets options and arguments. -/
def set_ (args : List Bytes) : Job Nat := do
  match ← readOptions "set" (args.length + 1) args with
  | some rest => modify fun s => { s with arguments := rest }
  | none => pure ()
  return 0

/-! ## Reading -/

/-- The bytes of a line, and whether each was protected by a backslash; also how many bytes the line
    has taken and whether it has ended. -/
def takeLine (raw : Bool) : Nat → Nat → List Letter → Bytes → List Letter × Nat × Bool
  | 0, used, done, _ => (done.reverse, used, false)
  | _ + 1, used, done, [] => (done.reverse, used, false)
  | fuel + 1, used, done, b :: rest =>
    if b = 10 then (done.reverse, used + 1, true)
    else if b = 92 && !raw then
      match rest with
      | [] => (done.reverse, used + 1, false)
      | c :: rest =>
        if c = 10 then takeLine raw fuel (used + 2) done rest
        else takeLine raw fuel (used + 2) (⟨c, true⟩ :: done) rest
    else takeLine raw fuel (used + 1) (⟨b, false⟩ :: done) rest

/-- Divides a line among variables; the last one takes what is left. -/
def share (separators : Bytes) : List Bytes → List Letter → List (Bytes × Bytes)
  | [], _ => []
  | names, letters =>
    let isSeparator (c : Letter) : Bool := !c.quoted && List.contains separators c.byte
    let isWhite (c : Letter) : Bool := isSeparator c && Bytes.isSpace c.byte
    let letters := letters.dropWhile isWhite
    match names with
    | [] => []
    | [last] =>
      let trimmed := (letters.reverse.dropWhile isWhite).reverse
      let field := trimmed.takeWhile fun c => !isSeparator c
      let behind := trimmed.drop field.length
      let only := behind.length == 1 && (behind.head?.map isSeparator).getD false
      [(last, lettersBytes (if only then field else trimmed))]
    | name :: rest =>
      let field := letters.takeWhile fun c => !isSeparator c
      let behind := (letters.drop field.length).dropWhile isWhite
      let behind := match behind with
        | c :: more => if isSeparator c then more else behind
        | [] => []
      (name, lettersBytes field) :: share separators rest behind

/-- Reads a line into variables. -/
def read (args : List Bytes) : Job Nat := do
  let raw := args.contains [45, 114]
  let names := args.filter fun a => a.head? != some 45
  let s ← get
  if names.isEmpty && s.dialect = .plain then
    complain "read" "arg count"
    return 2
  else match names.find? fun n => !isName n with
    | some n =>
      complain "read" (Utf8.display n ++ ": bad variable name")
      return 2
    | none =>
      let names := if names.isEmpty then [Bytes.ofString "REPLY"] else names
      let pending ← Job.work Work.glance
      let (letters, used, ended) := takeLine raw (pending.length + 1) 0 [] pending
      Job.work (Work.take used)
      (share s.separators names letters).forM fun p => Job.assign p.1 p.2
      return if ended then 0 else 1

/-! ## Signals -/

/-- The number of a signal given by name or number; zero is the end of the shell. -/
def signal? (d : Dialect) (b : Bytes) : Option Nat :=
  let name := Utf8.display (Bytes.toUpper b)
  let name := if d = .rich && name.startsWith "SIG" then (name.drop 3).toString else name
  if name = "EXIT" then some 0
  else match Bytes.toNat? b with
    | some n => if n ≤ 64 then some n else none
    | none => (ExitStatus.signalNames.findIdx? fun n => n == name).map (· + 1)

/-- What is said of a program that a signal has ended. -/
def signalText (n : Nat) : String :=
  let texts := ["Hangup", "Interrupt", "Quit", "Illegal instruction", "Trace/breakpoint trap",
    "Aborted", "Bus error", "Floating point exception", "Killed", "User defined signal 1",
    "Segmentation fault", "User defined signal 2", "Broken pipe", "Alarm clock", "Terminated",
    "Stack fault"]
  texts[n - 1]?.getD ("Signal " ++ toString n)

end Builtin

end SyscallGuard.Shell
