import SyscallGuard.Text.Bytes

set_option autoImplicit false

/-! # Paths

A path is written as names with slashes between them. This file takes a path apart, puts a name
behind it, and decides by the last name whether it leads to a Go source. -/

namespace SyscallGuard.Path

/-- The slash that divides names. -/
def slash : UInt8 := 47

/-- The name of a directory inside itself. -/
def here : Bytes := [46]

/-- The name of the directory above. -/
def above : Bytes := [46, 46]

/-- The pieces between slashes, empty ones included. -/
def pieces : Bytes → List Bytes
  | [] => [[]]
  | b :: rest =>
    if b = slash then [] :: pieces rest
    else match pieces rest with
      | [] => [[b]]
      | piece :: more => (b :: piece) :: more

/-- Whether a path starts at the very top. -/
def isAbsolute (path : Bytes) : Bool := path.head? == some slash

/-- The steps of a path. A slash at the end is the step to the directory itself, so that what
    stands before it has to be a directory. -/
def steps (path : Bytes) : List Bytes :=
  (pieces path).filter (fun p => !p.isEmpty)
    ++ if path.getLast? == some slash then [here] else []

/-- A path with a name behind it. -/
def child (path name : Bytes) : Bytes :=
  if path.getLast? == some slash then path ++ name else path ++ slash :: name

/-- A path with names behind it. -/
def descend (path : Bytes) (names : List Bytes) : Bytes := names.foldl child path

/-! ## Go sources -/

/-- The extension of Go sources. -/
def goExtension : String := "go"

/-- The last piece that is neither empty nor the directory itself. -/
def lastName? (path : Bytes) : Option Bytes :=
  ((pieces path).filter fun p => !p.isEmpty && p != here).getLast?

/-- What follows the last dot of a name, unless nothing else precedes that dot. -/
def extension? (name : Bytes) : Option Bytes :=
  if name = above then none
  else
    let behind := name.reverse.takeWhile fun b => b != 46
    match name.reverse.drop behind.length with
    | [] => none
    | [_] => none
    | _ :: _ :: _ => some behind.reverse

/-- Whether a path leads to a Go source. -/
def isGoSource (path : Bytes) : Bool :=
  ((lastName? path).bind extension?) == some (Bytes.ofString goExtension)

end SyscallGuard.Path
