import SyscallGuard.Process.Session

set_option autoImplicit false

/-! # Options of programs

How most programs read their arguments: options are letters behind a dash, some with a value, or
names behind two dashes; everything else is an operand. Options and operands can be mixed, and two
dashes alone end the options. -/

namespace SyscallGuard

/-- What is wrong with the options of a program. -/
inductive OptionError where
  | unknown (letter : Char)
  | valueMissing (letter : Char)
  | unknownName (argument : Bytes)

/-- The text of an error in the options of a program. -/
def OptionError.text (program : String) (e : OptionError) : String :=
  program ++ ": " ++ (match e with
    | unknown c => "invalid option -- '" ++ String.singleton c ++ "'"
    | valueMissing c => "option requires an argument -- '" ++ String.singleton c ++ "'"
    | unknownName argument => "unrecognized option '" ++ Utf8.display argument ++ "'")
  ++ "\nTry '" ++ program ++ " --help' for more information.\n"

/-- The options that a program knows: letters without and with a value, and names for letters. -/
structure OptionRules where
  flags : String
  valued : String := ""
  names : List (String × Char) := []

/-- The options and operands that a program was given. -/
structure Options where
  options : List (Char × Bytes)
  operands : List Bytes

namespace Options

/-- Whether an option was given. -/
def has (o : Options) (c : Char) : Bool := o.options.any fun p => p.1 == c

/-- The last value of an option. -/
def value? (o : Options) (c : Char) : Option Bytes :=
  (o.options.filter fun p => p.1 == c).getLast?.map Prod.snd

/-- All values of an option. -/
def values (o : Options) (c : Char) : List Bytes :=
  (o.options.filter fun p => p.1 == c).map Prod.snd

/-- Reads letters behind a dash. A letter with a value takes the rest, or the next argument. -/
def cluster (rules : OptionRules) (next : Option Bytes) :
    Bytes → Except OptionError (List (Char × Bytes) × Bool)
  | [] => .ok ([], false)
  | b :: rest =>
    let c := Char.ofNat b.toNat
    if rules.valued.toList.contains c then
      if !rest.isEmpty then .ok ([(c, rest)], false)
      else match next with
        | some value => .ok ([(c, value)], true)
        | none => .error (.valueMissing c)
    else if rules.flags.toList.contains c then
      (cluster rules next rest).map fun r => ((c, []) :: r.1, r.2)
    else .error (.unknown c)

/-- Reads arguments. -/
def read (rules : OptionRules) : Nat → List Bytes → Except OptionError Options
  | _, [] => .ok ⟨[], []⟩
  | 0, args => .ok ⟨[], args⟩
  | fuel + 1, a :: rest =>
    match a with
    | [45, 45] => .ok ⟨[], rest⟩
    | 45 :: 45 :: name =>
      let key := name.takeWhile fun b => b != 61
      match rules.names.find? fun n => Bytes.ofString n.1 == key with
      | none => .error (.unknownName a)
      | some (_, c) =>
        let behind := (name.drop key.length).drop 1
        if rules.valued.toList.contains c && key.length == name.length then
          match rest with
          | value :: rest =>
            (read rules fuel rest).map fun o => { o with options := (c, value) :: o.options }
          | [] => .error (.valueMissing c)
        else (read rules fuel rest).map fun o => { o with options := (c, behind) :: o.options }
    | 45 :: b :: letters => do
      let (options, took) ← cluster rules rest.head? (b :: letters)
      let o ← read rules fuel (if took then rest.drop 1 else rest)
      return { o with options := options ++ o.options }
    | _ => (read rules fuel rest).map fun o => { o with operands := a :: o.operands }

end Options

namespace Work

/-- Runs a program on its options, or complains about them. -/
def withOptions (program : String) (rules : OptionRules) (args : List Bytes)
    (failure : Nat) (body : Options → Work Nat) : Work Nat := do
  match Options.read rules (args.length + 1) args with
  | .ok o => body o
  | .error e =>
    complain (e.text program)
    return failure

/-- The contents of some files, or of standard input if there are none, and a failing status if one
    of them cannot be read. -/
def gather (program : String) (paths : List Bytes) : Work (List (Bytes × Bytes) × Nat) := do
  let paths := if paths.isEmpty then [[45]] else paths
  paths.foldlM (fun (found, status) path => do
    match ← contentOf path with
    | .ok content => return (found ++ [(path, content)], status)
    | .error e =>
      complain (program ++ ": " ++ Utf8.display path ++ ": " ++ e.describe ++ "\n")
      return (found, 1)) ([], 0)

/-- Runs a program that turns the contents of its operands, one behind the other, into its output. -/
def filter (program : String) (paths : List Bytes) (f : Bytes → Bytes) : Work Nat := do
  let (found, status) ← gather program paths
  say (f (found.flatMap Prod.snd))
  return status

end Work

/-! ## Numbers and lines -/

namespace Bytes

/-- The number that bytes are, if they are digits. -/
def toNat? (b : Bytes) : Option Nat :=
  if !b.isEmpty && b.all (fun d => 48 ≤ d && d ≤ 57) then
    some (b.foldl (fun n d => n * 10 + (d.toNat - 48)) 0)
  else none

/-- The number that bytes are, with an optional sign. -/
def toInt? : Bytes → Option Int
  | 45 :: rest => (toNat? rest).map fun n => -(n : Int)
  | 43 :: rest => (toNat? rest).map Int.ofNat
  | b => (toNat? b).map Int.ofNat

/-- The lines of some bytes, each with its line feed. -/
def records (b : Bytes) : List Bytes :=
  let (done, last) := b.foldl (fun (done, current) x =>
    if x = newline then ((x :: current).reverse :: done, []) else (done, x :: current)) ([], [])
  (if last.isEmpty then done else last.reverse :: done).reverse

/-- A line without its line feed. -/
def chomp (line : Bytes) : Bytes :=
  if line.getLast? == some newline then line.dropLast else line

/-- The lines of some bytes. -/
def lines (b : Bytes) : List Bytes := (records b).map chomp

/-- Lines, each with a line feed behind it. -/
def unlines (ls : List Bytes) : Bytes := ls.flatMap fun l => l ++ [newline]

/-- The pieces between the bytes that a test picks. -/
def splitBy (test : UInt8 → Bool) (b : Bytes) : List Bytes :=
  let (done, last) := b.foldl (fun (done, current) x =>
    if test x then (current.reverse :: done, []) else (done, x :: current)) ([], [])
  (last.reverse :: done).reverse

/-- A number in decimal digits. -/
def ofNat (n : Nat) : Bytes := ofString (toString n)

/-- Bytes on the right of a field of some width. -/
def padLeft (width : Nat) (b : Bytes) : Bytes := List.replicate (width - b.length) 32 ++ b

/-- Bytes on the left of a field of some width. -/
def padRight (width : Nat) (b : Bytes) : Bytes := b ++ List.replicate (width - b.length) 32

end Bytes

end SyscallGuard
