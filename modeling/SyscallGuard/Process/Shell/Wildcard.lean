import SyscallGuard.Process.Session
import SyscallGuard.Process.Regex

set_option autoImplicit false

/-! # Wildcards

Patterns for names: a star stands for any bytes, a question mark for one byte, and brackets for one of
several. A byte that was quoted stands for itself. Patterns choose branches, trim values, and name
files. -/

namespace SyscallGuard.Shell

/-- A byte of a word, and whether it was quoted. -/
structure Letter where
  byte : UInt8
  quoted : Bool
deriving DecidableEq

/-- The bytes of letters. -/
def lettersBytes (letters : List Letter) : Bytes := letters.map Letter.byte

/-- A piece of a pattern. -/
inductive Wildcard where
  | byte (b : UInt8)
  | one
  | many
  | set (ranges : List (UInt8 × UInt8)) (negated : Bool)
deriving DecidableEq

namespace Wildcard

/-- Reads the inside of brackets, given the ranges so far. -/
def members : Nat → Bool → List (UInt8 × UInt8) → List Letter →
    Option (List (UInt8 × UInt8) × List Letter)
  | 0, _, _, _ => none
  | _ + 1, _, _, [] => none
  | fuel + 1, first, ranges, c :: rest =>
    if c.byte = 93 && !c.quoted && !first then some (ranges, rest)
    else if c.byte = 91 && !c.quoted && (rest.head?.map Letter.byte) == some 58 then
      let name := (lettersBytes rest).drop 1 |>.takeWhile fun b => b != 58
      match Regex.classes.find? fun k => Bytes.ofString k.1 == name with
      | some k => members fuel false (k.2 ++ ranges) (rest.drop (name.length + 3))
      | none => members fuel false ((91, 91) :: ranges) rest
    else match rest with
      | dash :: stop :: more =>
        if dash.byte = 45 && !dash.quoted && (stop.byte != 93 || stop.quoted) then
          members fuel false ((c.byte, stop.byte) :: ranges) more
        else members fuel false ((c.byte, c.byte) :: ranges) rest
      | _ => members fuel false ((c.byte, c.byte) :: ranges) rest

/-- The pattern that letters are. -/
def ofLetters : Nat → List Letter → List Wildcard
  | 0, _ => []
  | _ + 1, [] => []
  | fuel + 1, c :: rest =>
    if c.quoted then byte c.byte :: ofLetters fuel rest
    else if c.byte = 42 then many :: ofLetters fuel rest
    else if c.byte = 63 then one :: ofLetters fuel rest
    else if c.byte = 91 then
      let (negated, inner) := match rest with
        | d :: inner => if (d.byte = 33 || d.byte = 94) && !d.quoted then (true, inner) else (false, rest)
        | [] => (false, rest)
      match members (inner.length + 1) true [] inner with
      | some (ranges, rest) => set ranges negated :: ofLetters fuel rest
      | none => byte 91 :: ofLetters fuel rest
    else if c.byte = 92 then
      match rest with
      | d :: rest => byte d.byte :: ofLetters fuel rest
      | [] => [byte 92]
    else byte c.byte :: ofLetters fuel rest

/-- The pattern that a list of letters is. -/
def read (letters : List Letter) : List Wildcard := ofLetters (letters.length + 1) letters

/-- Whether a pattern fits bytes as a whole. -/
def fits : List Wildcard → Bytes → Bool
  | [], b => b.isEmpty
  | many :: rest, [] => fits rest []
  | many :: rest, b :: more => fits rest (b :: more) || fits (many :: rest) more
  | _ :: _, [] => false
  | one :: rest, _ :: more => fits rest more
  | byte c :: rest, b :: more => c == b && fits rest more
  | set ranges negated :: rest, b :: more =>
    (ranges.any fun r => r.1 ≤ b && b ≤ r.2) != negated && fits rest more
termination_by p b => p.length + b.length

/-- Whether letters have any signs of a pattern. -/
def isPattern (letters : List Letter) : Bool :=
  letters.any fun c => !c.quoted && (c.byte == 42 || c.byte == 63 || c.byte == 91)

/-- Whether a pattern fits a name. A dot at the start has to be written out. -/
def fitsName (p : List Wildcard) (name : Bytes) : Bool :=
  let hidden := name.head? == some 46
  (!hidden || p.head? == some (byte 46)) && fits p name

/-- Splits letters at the slashes. -/
def splitSlashes : List Letter → List (List Letter)
  | [] => [[]]
  | c :: rest =>
    if c.byte = 47 then [] :: splitSlashes rest
    else match splitSlashes rest with
      | [] => [[c]]
      | piece :: more => (c :: piece) :: more

/-- The paths that patterns between slashes lead to, behind a path. -/
def pathsFrom (w : World) (directory : Spot) : Bytes → List (List Letter) → List Bytes
  | path, [] => [path]
  | path, [] :: rest =>
    if rest.isEmpty then
      match w.resolve directory true path with
      | .ok spot => if w.entry? spot = some .directory then [path] else []
      | .error _ => []
    else pathsFrom w directory (path ++ [47]) rest
  | path, piece :: rest =>
    let behind (name : Bytes) : List Bytes :=
      let found := path ++ name
      if rest.isEmpty then
        match w.resolve directory false found with
        | .ok _ => [found]
        | .error _ => []
      else pathsFrom w directory (found ++ [47]) rest
    if !isPattern piece then behind (lettersBytes piece)
    else
      let pattern := read piece
      match w.resolve directory true (if path.isEmpty then Path.here else path) with
      | .error _ => []
      | .ok spot =>
        (w.children spot).flatMap fun e => if fitsName pattern e.1 then behind e.1 else []

/-- The paths that a pattern leads to, in order; none if it leads nowhere. -/
def paths (w : World) (directory : Spot) (letters : List Letter) : List Bytes :=
  match splitSlashes letters with
  | [] :: rest => pathsFrom w directory [47] rest
  | pieces => pathsFrom w directory [] pieces

end Wildcard

end SyscallGuard.Shell
