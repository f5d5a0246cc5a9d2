import SyscallGuard.Process.Shell.Builtin

set_option autoImplicit false

/-! # Running scripts

A shell runs the commands of a script in order. Commands in parentheses, in pipes and in words are run
by a copy of the shell, which shares the files and streams but nothing else. Other programs are
started by a *launcher*, which the shell is given. -/

namespace SyscallGuard.Shell

/-- Starts the program at a path, given what it is called and its arguments. -/
abbrev Launcher := Bytes → List Bytes → Work (Except OsError ExitStatus)

/-! ## Ends and copies -/

/-- Does something and gives what has ended it early, if anything. -/
def attempt (c : Job Unit) : Job (Option Stop) := do
  try
    c
    return none
  catch e => return some e

/-- Lets a copy of the shell do something and gives the status of the copy. -/
def inCopy (c : Job Unit) : Job Nat := do
  let before ← get
  set { before with loops := 0 }
  let stop ← attempt c
  let status := (← get).status % 256
  set { before with status }
  match stop with
  | some (.killed n) => throw (.killed n)
  | _ => return status

/-- Connects a descriptor to a stream. -/
def connect (descriptor stream : Nat) (table : List (Nat × Nat)) : List (Nat × Nat) :=
  (descriptor, stream) :: table.filter fun d => d.1 != descriptor

/-- Does something with other descriptors. -/
def withDescriptors {α : Type} (table : List (Nat × Nat)) (c : Job α) : Job α := do
  let before := (← get).descriptors
  modify fun s => { s with descriptors := table }
  try
    let a ← c
    modify fun s => { s with descriptors := before }
    return a
  catch e =>
    modify fun s => { s with descriptors := before }
    throw e

/-- Adds a stream. -/
def addStream (x : Stream) : Job Nat := do
  let (n, session) := (← getThe Session).add x
  set session
  return n

/-! ## Redirections -/

/-- Says why a file could not be opened. -/
def complainOpen (creates : Bool) (path : Bytes) (e : OsError) : Job Unit := do
  let name := Utf8.display path
  match (← get).dialect with
  | .rich => Job.complain (name ++ ": " ++ e.describe)
  | .plain =>
    let cause := if e = .notFound ∨ e = .notDirectory
      then (if creates then "Directory nonexistent" else "No such file") else e.describe
    Job.complain ((if creates then "cannot create " else "cannot open ") ++ name ++ ": " ++ cause)

/-- Opens a file for a descriptor. -/
def openFor (table : List (Nat × Nat)) (access : Access) (path : Bytes) : Job (Option Nat) := do
  let task := { (← get).task with descriptors := table }
  match (← getThe Session).openPath task access path with
  | .ok (n, session) =>
    set session
    return some n
  | .error e =>
    if e = .isDirectory && access = .read then return some (← addStream .directory)
    complainOpen (access != .read) path e
    return none

/-- The table of descriptors after a redirection. -/
def applyRedirect (run : Substitution) (table : List (Nat × Nat)) (r : Redirect) :
    Job (Option (List (Nat × Nat))) := do
  let text ← expandText run r.target
  let opened (access : Access) : Job (Option (List (Nat × Nat))) := do
    match ← openFor table access text with
    | some n => return some (connect r.descriptor n table)
    | none => return none
  match r.kind with
  | .input => opened .read
  | .output =>
    let s ← get
    let exists_ := match (← getThe Session).world.resolve s.directory true text with
      | .ok (.around place) => (System.device? place).isNone
      | .ok _ => true
      | .error _ => false
    if s.has 'C' && exists_ then
      match s.dialect with
      | .plain => complainOpen true text .exists_
      | .rich => Job.complain (Utf8.display text ++ ": cannot overwrite existing file")
      return none
    else opened .write
  | .append => opened .append
  | .both =>
    let session ← getThe Session
    match session.world.resolve (← get).directory true text with
    | .ok _ => opened .read
    | .error _ => opened .write
  | .here =>
    let n ← addStream (.source text)
    return some (connect r.descriptor n table)
  | .duplicate =>
    if text = [45] then return some (table.filter fun d => d.1 != r.descriptor)
    else match Bytes.toNat? text with
      | some n =>
        match table.lookup n with
        | some stream => return some (connect r.descriptor stream table)
        | none =>
          Job.complain (toString n ++ ": Bad file descriptor")
          return none
      | none =>
        match (← get).dialect with
        | .plain => Job.abort "Syntax error: Bad fd number"
        | .rich =>
          match ← openFor table .write text with
          | some n => return some (connect 2 n (connect r.descriptor n table))
          | none => return none

/-- The table of descriptors after some redirections. -/
def applyRedirects (run : Substitution) (table : List (Nat × Nat)) :
    List Redirect → Job (Option (List (Nat × Nat)))
  | [] => return some table
  | r :: rest => do
    match ← applyRedirect run table r with
    | some table => applyRedirects run table rest
    | none => return none

/-! ## Programs -/

/-- Where a program is found among the directories that are searched. -/
def searchPath (w : World) (directory : Spot) (directories : List Bytes) (name : Bytes) :
    Except OsError Bytes :=
  let candidates := directories.map fun d => if d.isEmpty then name else Path.child d name
  let state (path : Bytes) : Except OsError Unit := match w.resolve directory true path with
    | .ok spot =>
      match w.entry? spot with
      | some (.file _ true) => .ok ()
      | some .directory => .error .isDirectory
      | _ => .error .denied
    | .error _ => .error .notFound
  let fails (e : OsError) (path : Bytes) : Bool := match state path with
    | .ok _ => false
    | .error f => f = e
  match candidates.find? fun path => (state path).isOk with
  | some path => .ok path
  | none =>
    if candidates.any (fails .denied) then .error .denied
    else if candidates.any (fails .isDirectory) then .error .isDirectory
    else .error .notFound

/-- Where the system finds a program to start. A directory of that name may not be run. -/
def executablePath (w : World) (directory : Spot) (directories : List Bytes) (name : Bytes) :
    Except OsError Bytes :=
  match searchPath w directory directories name with
  | .error .isDirectory => .error .denied
  | found => found

/-- The directories that programs are looked for in. -/
def searchedDirectories (s : State) : List Bytes :=
  Bytes.splitBy (· == 58) ((s.value? (Bytes.ofString "PATH")).getD [])

/-- The path of a program. -/
def programPath (name : Bytes) : Job (Except OsError Bytes) := do
  if List.contains name Path.slash then return .ok name
  else
    let s ← get
    return searchPath (← getThe Session).world s.directory (searchedDirectories s) name

/-- Says why a program could not be started, and gives the status for it. -/
def complainLaunch (caller : String) (name : Bytes) (e : OsError) : Job Nat := do
  let missing := e = .notFound ∨ e = .notDirectory ∨ e = .nameTooLong ∨ e = .linkLoop
  let s ← get
  let world := (← getThe Session).world
  let isDirectory := match world.resolve s.directory true name with
    | .ok spot => world.entry? spot == some .directory
    | .error _ => false
  let cause := match s.dialect with
    | .plain =>
      if e = .notFound ∨ e = .notDirectory then "not found"
      else if e = .isDirectory then OsError.denied.describe
      else e.describe
    | .rich =>
      if (e = .notFound && !List.contains name Path.slash) || name.isEmpty then
        if caller.isEmpty then "command not found" else "not found"
      else if e = .isDirectory then
        if caller.isEmpty then "command not found" else "cannot execute: " ++ e.describe
      else if e = .denied && isDirectory then OsError.isDirectory.describe
      else e.describe
  Job.complain (caller ++ Utf8.display name ++ ": " ++ cause)
  return if missing then 127 else 126

/-- The status that the end of a program comes to. -/
def statusOf : ExitStatus → Job Nat
  | .code n => return n
  | .signal n => do
    if (← get).dialect = .plain && n != 2 && n != 13 then
      Job.write 2 (Bytes.ofString (Builtin.signalText n ++ "\n"))
    return 128 + n

/-- Starts a program and waits for it. -/
def startProgram (launch : Launcher) (caller : String) (name : Bytes) (args : List Bytes) :
    Job Nat := do
  match ← programPath name with
  | .error e =>
    let status ← complainLaunch caller name e
    let dialect := (← get).dialect
    let unfound := if dialect = .plain then caller.isEmpty
      else name.isEmpty || (caller.isEmpty && e = .isDirectory)
    return if unfound then 127 else status
  | .ok path =>
    match ← Job.work (launch path (name :: args)) with
    | .ok status => statusOf status
    | .error .badExecutable =>
      match ← Job.work (launch (Bytes.ofString "/bin/sh") (name :: path :: args)) with
      | .ok status => statusOf status
      | .error e => complainLaunch caller name e
    | .error e => complainLaunch caller name e

/-! ## Variables for one command -/

/-- Sets exported variables while a command runs. -/
def withVariables {α : Type} (bindings : List (Bytes × Bytes)) (c : Job α) : Job α := do
  let s ← get
  let saved := bindings.map fun v => (v.1, s.binding? v.1)
  bindings.forM fun v => do
    Job.assign v.1 v.2
    modify fun s => s.setVariable v.1 ⟨some v.2, true⟩
  let restore : Job Unit := modify fun s => saved.foldl (fun s v => match v.2 with
    | some old => s.setVariable v.1 old
    | none => s.unsetVariable v.1) s
  try
    let a ← c
    restore
    return a
  catch e =>
    restore
    throw e

/-! ## Commands about commands -/

/-- Prints a command before it is run. -/
def trace (words : List Bytes) : Job Unit := do
  if (← get).has 'x' then
    Job.write 2 (Bytes.ofString "+ " ++ Print.join words ++ [10])

/-- Ends the shell if a command has failed that nobody asked about. -/
def checkStatus (tested : Bool) : Job Unit := do
  let s ← get
  if s.status != 0 && !tested && s.has 'e' then throw .exit

/-- How many loops a command is about. -/
def loopCount (name : String) (args : List Bytes) : Job Nat := do
  match args.head? with
  | none => return 1
  | some a =>
    let n ← Builtin.number name a
    if n = 0 then Builtin.abort name ("Illegal number: " ++ Utf8.display a) else return n

/-- The status that a command for leaving is given. -/
def leaveStatus (name : String) (args : List Bytes) : Job Nat := do
  match args.head? with
  | none => return (← get).status
  | some a => Builtin.number name a

/-- Gives the shell over to a program, or keeps redirections. -/
def runExec (launch : Launcher) (args : List Bytes) (table : List (Nat × Nat)) : Job Unit := do
  modify fun s => { s with descriptors := table }
  match args with
  | [] => Job.setStatus 0
  | name :: args =>
    let status ← startProgram launch "exec: " name args
    Job.setStatus status
    throw .exit

/-- Sends signals. Signals that are not ignored end the shell. -/
def runKill (args : List Bytes) : Job Nat := do
  let s ← get
  let (signal?, targets) : Option (Option Nat) × List Bytes := match args with
    | [45, 115] :: name :: rest => (some (Builtin.signal? s.dialect name), rest)
    | [45, 45] :: rest => (some (some 15), rest)
    | (45 :: name) :: rest => (some (Builtin.signal? s.dialect name), rest)
    | rest => (some (some 15), rest)
  if targets.isEmpty then
    Builtin.complain "kill" ("Usage: kill [-s sigspec | -signum | -sigspec] [pid | job]... or\n"
      ++ "kill -l [exitstatus]")
    return 2
  else match signal?.join with
    | none =>
      let letter := (args.head?.getD []).drop 1 |>.take 1
      Builtin.complain "kill" ("Illegal option -" ++ Utf8.display letter)
      return 2
    | some signal =>
      targets.foldlM (fun status target => do
        match Bytes.toNat? target with
        | none =>
          Builtin.complain "kill" ("Illegal number: " ++ Utf8.display target)
          return 2
        | some n =>
          if n ≠ ownNumber && n ≠ 0 then
            Builtin.complain "kill" "No such process\n"
            return 1
          else if [0, 17, 18, 23, 28].contains signal then return status
          else throw (.killed signal)) 0

/-- Runs a command of the shell itself and gives its status. -/
def runBuiltin (name : Bytes) (args : List Bytes) : Job Nat := do
  let s ← get
  match Utf8.display name with
  | "false" => return 1
  | "echo" => Builtin.echo args
  | "printf" => Builtin.printf args
  | "test" => Builtin.test "test" args
  | "[" => Builtin.test "[" args
  | "cd" => Builtin.cd args
  | "pwd" =>
    let path := match s.directory with
      | .around place => 47 :: [47].intercalate place
      | .inside place => [47].intercalate (Bytes.ofString "/tmp" :: place)
      | .beyond => [47]
    Job.say (path ++ [10])
    return 0
  | "exit" =>
    let status ← leaveStatus "exit" args
    Job.setStatus (status % 256)
    throw .exit
  | "break" =>
    let n ← loopCount "break" args
    if s.loops = 0 then return 0 else throw (.break_ (min n s.loops))
  | "continue" =>
    let n ← loopCount "continue" args
    if s.loops = 0 then return 0 else throw (.continue_ (min n s.loops))
  | "shift" => Builtin.shift args
  | "set" => Builtin.set_ args
  | "unset" => Builtin.unset args
  | "export" => Builtin.export_ args
  | "read" => Builtin.read args
  | "kill" => runKill args
  | _ => return 0

/-- Says in the words of the rich shell why a script cannot be read. -/
def complainRich (before after : Source) (fault : Fault) : Job Unit := do
  match fault with
  | .unexpected "end of file" _ =>
    let last := if before.rest.getLast? == some 10 then after.line else after.line + 1
    modify fun s => { s with line := last }
    Job.complain "syntax error: unexpected end of file"
  | .unexpected token _ =>
    let shown := (token.replace "\"" "")
    Job.complain ("syntax error near unexpected token `" ++ shown ++ "'")
    let line := (linesOf before.rest)[after.line - before.line]?.getD []
    Job.complain ("`" ++ Utf8.display line ++ "'")
  | .unclosed quote line =>
    modify fun s => { s with line }
    Job.complain ("unexpected EOF while looking for matching `" ++ Utf8.display [quote] ++ "'")
  | .message text => Job.complain text

/-! ## Running -/

mutual

/-- Runs the commands of a text. -/
def runSource (launch : Launcher) : Nat → Source → Job Unit
  | 0, _ => return
  | fuel + 1, source => do
    match readNext.run.run source with
    | (.error fault, rest) =>
      modify fun s => { s with line := rest.line }
      match (← get).dialect with
      | .plain => Job.abort ("Syntax error: " ++ fault.text)
      | .rich =>
        complainRich source rest fault
        Job.setStatus 2
        throw .exit
    | (.ok none, _) => return
    | (.ok (some c), rest) =>
      match ← attempt (run launch fuel false c) with
      | none | some .discard => runSource launch fuel rest
      | some e => throw e

/-- Runs a command for its output. -/
def substitute (launch : Launcher) : Nat → Substitution
  | 0, _, _ => return []
  | fuel + 1, text, line => do
    let sink ← addStream (.sink [])
    let s ← get
    let status ← withDescriptors (connect 1 sink s.descriptors)
      (inCopy (runSource launch fuel ⟨text, line, 0⟩))
    modify fun s => { s with inner := some status, status }
    return (← getThe Session).written sink

/-- Runs a command. The flag says whether its failure is asked about. -/
def run (launch : Launcher) : Nat → Bool → Command → Job Unit
  | 0, _, _ => return
  | fuel + 1, tested, c => do
    if (← get).has 'n' then return
    match c with
    | .simple line assignments words redirects =>
      modify fun s => { s with line, inner := none }
      runSimple launch fuel assignments words redirects
      checkStatus tested
    | .pipeline parts =>
      runPipes launch fuel tested none 0 parts
      checkStatus tested
    | .negation c =>
      run launch fuel true c
      Job.setStatus (if (← get).status = 0 then 1 else 0)
    | .conjunction a b =>
      run launch fuel true a
      if (← get).status = 0 then run launch fuel tested b
    | .disjunction a b =>
      run launch fuel true a
      if (← get).status ≠ 0 then run launch fuel tested b
    | .sequence a b =>
      run launch fuel tested a
      run launch fuel tested b
    | .background c =>
      let none_ ← addStream .null
      let s ← get
      let _ ← withDescriptors (connect 0 none_ s.descriptors) (inCopy (run launch fuel tested c))
      Job.setStatus 0
    | .subshell c =>
      let status ← inCopy (run launch fuel tested c)
      Job.setStatus status
      checkStatus tested
    | .conditional test yes no =>
      run launch fuel true test
      if (← get).status = 0 then run launch fuel tested yes
      else match no with
        | some no => run launch fuel tested no
        | none => Job.setStatus 0
    | .loop whileFails test body =>
      modify fun s => { s with loops := s.loops + 1 }
      let stop ← attempt (repeat_ launch fuel tested whileFails test body 0)
      modify fun s => { s with loops := s.loops - 1 }
      match stop with
      | some e => throw e
      | none => return
    | .each name words body =>
      let values ← match words with
        | some words => expandWords (substitute launch fuel) words
        | none => pure (← get).arguments
      modify fun s => { s with loops := s.loops + 1, status := 0 }
      let stop ← attempt (runEach launch fuel tested name body values)
      modify fun s => { s with loops := s.loops - 1 }
      match stop with
      | some e => throw e
      | none => return
    | .select line word branches =>
      modify fun s => { s with line, inner := none }
      let text ← expandText (substitute launch fuel) word
      runBranches launch fuel tested text branches
    | .redirected line c redirects =>
      modify fun s => { s with line }
      match ← applyRedirects (substitute launch fuel) (← get).descriptors redirects with
      | some table => withDescriptors table (run launch fuel tested c)
      | none =>
        Job.setStatus (← Job.failureStatus)
        checkStatus tested

/-- Runs commands one after the other, each with the output of the one before as its input. -/
def runPipes (launch : Launcher) : Nat → Bool → Option Nat → Nat → List Command → Job Unit
  | 0, _, _, _, _ => return
  | _ + 1, _, _, _, [] => return
  | fuel + 1, tested, input, failed, c :: rest => do
    let s ← get
    let table := match input with
      | some n => connect 0 n s.descriptors
      | none => s.descriptors
    let copy (table : List (Nat × Nat)) : Job Nat :=
      withDescriptors table (inCopy (run launch fuel tested c))
    if rest.isEmpty then
      let status ← copy table
      Job.setStatus (if status = 0 && s.has 'P' then failed else status)
    else
      let sink ← addStream (.sink [])
      let status ← copy (connect 1 sink table)
      let source ← addStream (.source ((← getThe Session).written sink))
      runPipes launch fuel tested (some source) (if status = 0 then failed else status) rest

/-- Runs a loop, given the status of the last round. -/
def repeat_ (launch : Launcher) : Nat → Bool → Bool → Command → Command → Nat → Job Unit
  | 0, _, _, _, _, _ => return
  | fuel + 1, tested, whileFails, test, body, status => do
    let round : Job Unit := do
      run launch fuel true test
      if ((← get).status = 0) != whileFails then run launch fuel tested body
      else
        Job.setStatus status
        throw (.break_ 0)
    match ← attempt round with
    | some (.break_ 0) => return
    | some (.break_ 1) => Job.setStatus 0
    | some (.break_ (n + 1)) => throw (.break_ n)
    | some (.continue_ 1) => repeat_ launch fuel tested whileFails test body 0
    | some (.continue_ (n + 1)) => throw (.continue_ n)
    | some e => throw e
    | none => repeat_ launch fuel tested whileFails test body (← get).status

/-- Runs a loop over values. -/
def runEach (launch : Launcher) : Nat → Bool → Bytes → Command → List Bytes → Job Unit
  | 0, _, _, _, _ => return
  | _ + 1, _, _, _, [] => return
  | fuel + 1, tested, name, body, value :: rest => do
    Job.assign name value
    match ← attempt (run launch fuel tested body) with
    | some (.break_ 1) => Job.setStatus 0
    | some (.break_ (n + 1)) => throw (.break_ n)
    | some (.continue_ (n + 2)) => throw (.continue_ (n + 1))
    | some (.continue_ _) | none => runEach launch fuel tested name body rest
    | some e => throw e

/-- Runs the first branch of a choice that fits. -/
def runBranches (launch : Launcher) :
    Nat → Bool → Bytes → List (List Word × Option Command) → Job Unit
  | 0, _, _, _ => return
  | _ + 1, _, _, [] => Job.setStatus 0
  | fuel + 1, tested, text, (patterns, body) :: rest => do
    let hit ← patterns.foldlM (fun hit w => do
      if hit then return true
      else return Wildcard.fits (← expandPattern (substitute launch fuel) w) text) false
    if !hit then runBranches launch fuel tested text rest
    else match body with
      | some c => run launch fuel tested c
      | none => Job.setStatus 0

/-- Runs a command that consists of words. -/
def runSimple (launch : Launcher) :
    Nat → List (Bytes × Word) → List Word → List Redirect → Job Unit
  | 0, _, _, _ => return
  | fuel + 1, assignments, words, redirects => do
    let sub := substitute launch fuel
    let args ← expandWords sub words
    let table? ← applyRedirects sub (← get).descriptors redirects
    match args, table? with
    | [], none => Job.setStatus (← Job.failureStatus)
    | name :: _, none =>
      Job.setStatus (← Job.failureStatus)
      if isOneOf specialBuiltins name && (← get).dialect = .plain then throw .exit
    | [], some _ =>
      assignments.forM fun a => do
        let value ← expandText sub a.2
        trace [a.1 ++ 61 :: value]
        Job.assign a.1 value
      Job.setStatus ((← get).inner.getD 0)
    | name :: args, some table =>
      let bindings ← assignments.mapM fun a => return (a.1, ← expandText sub a.2)
      trace ((bindings.map fun v => v.1 ++ 61 :: v.2) ++ name :: args)
      let s ← get
      let special := isOneOf specialBuiltins name && s.dialect = .plain
      if special then
        bindings.forM fun v => Job.assign v.1 v.2
        if name = Bytes.ofString "exec" then runExec launch args table
        else
          let status ← withDescriptors table (runBuiltin name args)
          Job.setStatus status
      else if name = Bytes.ofString "exec" then runExec launch args table
      else
        let status ← withVariables bindings (withDescriptors table (
          if isBuiltin name then runBuiltin name args else startProgram launch "" name args))
        Job.setStatus status

end

/-! ## Starting -/

/-- More steps than a script takes. -/
def runLimit : Nat := 1000000

/-- A shell as it is started. -/
def fresh (d : Dialect) (name : Bytes) (arguments : List Bytes) (t : Task) : State where
  dialect := d
  name := name
  arguments := arguments
  bindings := (t.environment.map fun v => (v.1, ⟨some v.2, true⟩))
    ++ [(Bytes.ofString "IFS", ⟨some defaultSeparators, false⟩),
      (Bytes.ofString "OPTIND", ⟨some [49], false⟩),
      (Bytes.ofString "PPID", ⟨some [49], false⟩),
      (Bytes.ofString "PATH", ⟨some Task.searched, false⟩)]
  directory := t.directory
  route := match t.directory with
    | .inside names => some (false, names)
    | .around names => some (true, names)
    | .beyond => none
  descriptors := t.descriptors

/-- Runs a shell to its end. -/
def toEnd (s : State) (c : Job Unit) : Work ExitStatus := fun _ => do
  let (result, s) ← (c.run).run s
  match result with
  | .error (.killed n) => return .signal n
  | _ => return .code (s.status % 256)

/-- Complains about how a shell is started. -/
def misuse (d : Dialect) (name : Bytes) (text : String) (status : Nat) : Work ExitStatus := do
  Work.complain (Utf8.display name ++ ": " ++ (if d = .plain then "0: " else "") ++ text ++ "\n")
  return .code status

/-- Starts a shell: on a text behind an option, on a file, or on its input. -/
def start (launch : Launcher) (d : Dialect) (argv : List Bytes) : Work ExitStatus := do
  let name := argv.head?.getD []
  let args := argv.drop 1
  let options := args.takeWhile fun a =>
    (a.head? == some 45 || a.head? == some 43) && a.length > 1 && a != [45, 45]
  let operands := args.drop options.length
  let operands := if operands.head? == some [45, 45] || operands.head? == some [45]
    then operands.drop 1 else operands
  let letters := options.map fun a => a.filter fun b => b != 99 && b != 105 && b != 108
  let hasText := options.any fun a => List.contains a 99
  let t ← read
  let begin_ (name : Bytes) (arguments : List Bytes) (line : Nat) (text : Bytes) :
      Work ExitStatus :=
    let setup : Job Unit := do
      let _ ← Builtin.readOptions (Utf8.display name) (letters.length + 1)
        (letters.filter fun a => a.length > 1)
      runSource launch runLimit ⟨text, line, 0⟩
    toEnd (fresh d name arguments t) setup
  let known := letters.flatten.all fun b =>
    b == 45 || b == 43 || Builtin.optionChars.contains (Char.ofNat b.toNat)
  if d = .plain && !known then
    let bad := (letters.flatten.find? fun b =>
      !(b == 45 || b == 43 || Builtin.optionChars.contains (Char.ofNat b.toNat))).getD 0
    misuse d name ("Illegal option -" ++ String.singleton (Char.ofNat bad.toNat)) 2
  else if hasText then
    match operands with
    | [] =>
      if d = .plain then misuse d name "-c requires an argument" 2
      else misuse d name "-c: option requires an argument" 2
    | text :: rest => begin_ (rest.head?.getD name) (rest.drop 1) 1 text
  else match operands with
    | [] =>
      let text ← Work.input
      begin_ name [] 1 text
    | file :: rest =>
      match ← Work.contentOf file with
      | .ok text => begin_ file rest 1 text
      | .error e =>
        match d with
        | .plain =>
          let cause := if e = .notFound ∨ e = .notDirectory then "No such file" else e.describe
          misuse d name ("cannot open " ++ Utf8.display file ++ ": " ++ cause) 2
        | .rich => misuse d name (Utf8.display file ++ ": " ++ e.describe) 127

end SyscallGuard.Shell
