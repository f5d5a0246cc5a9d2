import SyscallGuard.Cli.Similarity
import SyscallGuard.Cli.UsageError

set_option autoImplicit false

/-! # Reading the command line

Arguments are read from left to right. A value is not looked at when it is met but when the next
parameter is, or at the end; so an argument that is not known is reported before a bad value right
in front of it. Requests for help or the version are answered as soon as they are met. -/

namespace SyscallGuard.Cli

/-! ## What is asked for -/

/-- A job to do. -/
structure Job where
  root : Bytes
  gofmt : Bytes
  noFormat : Bool
  dryRun : Bool
  logFilter : Bytes
  logFormat : LogFormat
deriving DecidableEq

/-- What a command line asks for. -/
inductive Request where
  | inquiry (i : Inquiry)
  | job (j : Job)
deriving DecidableEq

/-! ## Reading -/

/-- A parameter whose value has not been looked at; it may not even have one. -/
structure Pending where
  parameter : Parameter
  value : Option Bytes

/-- How far a command line has been read. -/
structure Reading where
  /-- The parameters that were settled, be it one that failed in the end, with their values. -/
  given : List (Parameter × Bytes)
  pending : Option Pending
  /-- Whether the root was met. -/
  rooted : Bool
  /-- Whether two dashes were met, behind which everything is a value. -/
  literal : Bool

namespace Reading

/-- Before the first argument. -/
def start : Reading := ⟨[], none, false, false⟩

/-- What is wrong with a value of a parameter. -/
def fault? (p : Parameter) (value : Bytes) : Option UsageError :=
  match p with
  | .root | .gofmt => if value.isEmpty then some (.valueRequired p) else none
  | .logFormat =>
    if !Utf8.isValid value then some .notText
    else if (LogFormat.ofName? (Utf8.lossy value)).isNone then some (.invalidFormat value)
    else none
  | .logFilter => if Utf8.isValid value then none else some .notText
  | .noFormat | .dryRun => none

/-- Settles a parameter. What was wrong comes with the reading, because it is not always fatal. -/
def settle (r : Reading) (p : Parameter) (value : Bytes) : Reading × Option UsageError :=
  if r.given.any fun g => g.1 == p then
    ({ r with given := r.given.filter fun g => g.1 != p }, some (.repeated p))
  else ({ r with given := r.given ++ [(p, value)] }, fault? p value)

/-- Settles the parameter that is pending. -/
def settlePending (r : Reading) : Reading × Option UsageError :=
  match r.pending with
  | none => (r, none)
  | some ⟨p, none⟩ => ({ r with pending := none }, some (.valueRequired p))
  | some ⟨p, some value⟩ => { r with pending := none }.settle p value

/-- Settles what is pending and goes on, unless something was wrong. -/
def flush (r : Reading) : Except UsageError Reading :=
  match r.settlePending with
  | (r, none) => .ok r
  | (_, some e) => .error e

/-! ## Unknown arguments -/

/-- The options that were given, as a usage shows them. -/
def options (r : Reading) : List String :=
  ((r.given.map Prod.fst).filter fun p => p != .root).map Parameter.shown

/-- The usage with the options that were given and one more, unless it is among them. -/
def usageUpTo (r : Reading) (long : String) : String :=
  let option := shownLong long
  usageWith (if r.options.contains option then r.options else r.options ++ [option])

/-- The error for a long option that does not exist. The usage takes up what was given and what is
    proposed. -/
def unknownLong (r : Reading) (name : Bytes) : UsageError :=
  let r := r.settlePending.1
  let argument := Bytes.ofString "--" ++ name
  match Similarity.closest? (Utf8.lossy name) longNames with
  | none =>
    .unexpected argument .asValue (if r.given.isEmpty then generalUsage else usageWith r.options)
  | some long => .unexpected argument (.similar long) (r.usageUpTo long)

/-- The error for a value given to something that takes none. -/
def needless (r : Reading) (long : String) (value : Bytes) : UsageError :=
  .unexpectedValue value ("--" ++ long) (r.usageUpTo long)

/-! ## One argument -/

/-- Reads an option with its name and the value behind an equals sign. -/
def long (r : Reading) (name : Bytes) (value : Option Bytes) :
    Except UsageError (Reading ⊕ Inquiry) :=
  let shown := Utf8.display name
  match Parameter.ofLong? shown, Inquiry.ofLong? shown, value with
  | some p, _, some v =>
    if p.takesValue then do
      let r ← r.flush
      match r.settle p v with
      | (r, none) => return .inl r
      | (_, some e) => .error e
    else .error (r.needless shown v)
  | some p, _, none => do
    let r ← r.flush
    if p.takesValue then return .inl { r with pending := some ⟨p, none⟩ }
    else match r.settle p [] with
      | (r, none) => return .inl r
      | (_, some e) => .error e
  | none, some _, some v => .error (r.needless shown v)
  | none, some i, none => do
    let _ ← r.flush
    return .inr i
  | none, none, _ => .error (r.unknownLong name)

/-- Reads short options. -/
def shorts (r : Reading) : List Char → Except UsageError (Reading ⊕ Inquiry)
  | [] => .ok (.inl r)
  | c :: _ =>
    match Inquiry.ofShort? c with
    | some i => do
      let _ ← r.flush
      return .inr i
    | none => .error (.unexpected (Bytes.ofString (String.ofList ['-', c])) .asValue generalUsage)

/-- Reads the root. -/
def positional (r : Reading) (argument : Bytes) : Except UsageError (Reading ⊕ Inquiry) :=
  if r.rooted then .error (.unexpected argument .none generalUsage)
  else do
    let r ← r.flush
    return .inl { r with pending := some ⟨.root, some argument⟩, rooted := true }

/-- Reads an argument: two dashes, a long option with or without a value, short options, the value
    that an option waits for, or the root. A dash alone is a value. -/
def argument (r : Reading) (a : Bytes) : Except UsageError (Reading ⊕ Inquiry) :=
  if r.literal then r.positional a
  else match a with
    | [45, 45] => .ok (.inl { r with literal := true })
    | 45 :: 45 :: rest =>
      let name := rest.takeWhile fun b => b != 61
      let behind := rest.drop name.length
      r.long name (if behind.isEmpty then none else some (behind.drop 1))
    | 45 :: b :: rest => r.shorts (Utf8.lossy (b :: rest))
    | _ =>
      match r.pending with
      | some ⟨p, none⟩ => .ok (.inl { r with pending := some ⟨p, some a⟩ })
      | _ => r.positional a

/-! ## All arguments -/

/-- The value that was given to a parameter. -/
def value? (r : Reading) (p : Parameter) : Option Bytes :=
  (r.given.find? fun g => g.1 == p).map Prod.snd

/-- The job, once all arguments are read. -/
def finish (r : Reading) : Except UsageError Job := do
  let r ← r.flush
  match r.value? .root with
  | none => .error (.missingRoot (r.given.map Prod.fst))
  | some root =>
    return {
      root := root
      gofmt := (r.value? .gofmt).getD (Bytes.ofString Canonicalizer.defaultProgram)
      noFormat := (r.value? .noFormat).isSome
      dryRun := (r.value? .dryRun).isSome
      logFilter := (r.value? .logFilter).getD (Bytes.ofString Filter.default)
      logFormat :=
        ((r.value? .logFormat).bind fun v => LogFormat.ofName? (Utf8.lossy v)).getD .default }

/-- Reads arguments. -/
def arguments (r : Reading) : List Bytes → Except UsageError Request
  | [] =>
    match r.finish with
    | .error e => .error e
    | .ok j => .ok (.job j)
  | a :: rest =>
    match r.argument a with
    | .error e => .error e
    | .ok (.inr i) => .ok (.inquiry i)
    | .ok (.inl r) => arguments r rest

end Reading

/-- What a command line asks for. -/
def Request.read (arguments : List Bytes) : Except UsageError Request :=
  Reading.start.arguments arguments

end SyscallGuard.Cli
