import SyscallGuard.Process.Editor.Run

set_option autoImplicit false

/-! # The stream editor

The program that edits its input with the commands it is given. -/

namespace SyscallGuard.Editor

/-- The place of a failure: the number of the expression and of the byte in it. -/
def placeOf (scripts : List Bytes) (offset : Nat) : Nat × Nat :=
  let (number, rest, _) := scripts.foldl (fun (number, rest, found) s =>
    if found then (number, rest, true)
    else if rest ≤ s.length then (number, rest, true)
    else (number + 1, rest - s.length - 1, false)) ((1, offset, false) : Nat × Nat × Bool)
  (number, rest)

/-- A script, and the file that it comes from if it is not an argument. -/
structure Script where
  file : Option Bytes
  text : Bytes

/-- The commands of some scripts, or the text of a failure. -/
def compile (extended : Bool) (scripts : List Script) : Except String (Array Command) :=
  let texts := scripts.map Script.text
  let whole := [10].intercalate texts
  match (commands extended (whole.length + 1) #[] []).run.run whole with
  | (.error text, rest) =>
    let (number, byte) := placeOf texts (whole.length - rest.length)
    let (byte, text) := if text.isEmpty then (0, "unmatched `\x7b'") else (byte, text)
    let place := match scripts[number - 1]? with
      | some ⟨some file, content⟩ =>
        "file " ++ Utf8.display file ++ " line "
          ++ toString (List.count 10 (content.take (byte - 1)) + 1)
      | _ => "-e expression #" ++ toString number ++ ", char " ++ toString byte
    .error ("sed: " ++ place ++ ": " ++ text ++ "\n")
  | (.ok found, _) => .ok found

/-- Whether a script asks for silence in its first line. -/
def isSilent (script : Bytes) : Bool :=
  script.take 2 == [35, 110] && ((script.drop 2).head?.getD 10) == 10

/-- The contents of the files to edit. -/
def inputs (paths : List Bytes) : Work (List Bytes × Nat) := do
  paths.foldlM (fun (found, status) path => do
    match ← Work.contentOf path with
    | .ok content => return (found ++ [content], status)
    | .error .isDirectory =>
      Work.complain ("sed: read error on " ++ Utf8.display path ++ ": Is a directory\n")
      return (found, 4)
    | .error e =>
      Work.complain ("sed: can't read " ++ Utf8.display path ++ ": " ++ e.describe ++ "\n")
      return (found, 2)) (([], 0) : List Bytes × Nat)

/-- Edits files with commands, all of them as one. -/
def edit (p : Setup) (paths : List Bytes) : Work Nat := do
  let (files, status) ← inputs (if paths.isEmpty then [[45]] else paths)
  let (s, stop) := runOn p (files.flatMap Bytes.records)
  Work.say s.output.bytes
  return stop.getD status

/-- Edits standard input or files. -/
def sed (args : List Bytes) : Work Nat := do
  Work.withOptions "sed" ⟨"nEru", "ef",
    [("quiet", 'n'), ("silent", 'n'), ("regexp-extended", 'E'), ("expression", 'e'), ("file", 'f'),
      ("unbuffered", 'u'), ("posix", 'u')]⟩ args 1 fun o => do
  let given ← (o.options.filter fun p => p.1 == 'e' || p.1 == 'f').mapM fun p => do
    if p.1 == 'e' then return Except.ok (Script.mk none p.2)
    else match ← Work.contentOf p.2 with
      | .ok content => return .ok ⟨some p.2, Bytes.chomp content⟩
      | .error e => return .error ("sed: couldn't open file " ++ Utf8.display p.2 ++ ": "
          ++ e.describe ++ "\n")
  match given.findSome? (fun g => match g with
    | .error e => some e
    | .ok _ => none) with
  | some text =>
    Work.complain text
    return 4
  | none =>
    let scripts := given.filterMap Except.toOption
    let (scripts, paths) := match scripts, o.operands with
      | [], first :: rest => ([Script.mk none first], rest)
      | scripts, operands => (scripts, operands)
    if scripts.isEmpty then
      Work.complain ("Usage: sed [OPTION]... \x7bscript-only-if-no-other-script\x7d"
        ++ " [input-file]...\n")
      return 1
    else match compile (o.has 'E' || o.has 'r') scripts with
      | .error text =>
        Work.complain text
        return 1
      | .ok found =>
        let silent := o.has 'n' || (scripts.head?.map fun s => isSilent s.text).getD false
        edit ⟨found, silent⟩ paths

end SyscallGuard.Editor
