import SyscallGuard.Process.Regex
import SyscallGuard.Process.Utility.Print

set_option autoImplicit false

/-! # Exchanging letters

The program that maps, deletes and squeezes single bytes. Its arguments are lists of bytes with
ranges, classes and escapes. -/

namespace SyscallGuard.Exchange

/-- A member of a list: a byte, maybe escaped, or a class. -/
inductive Member where
  | byte (b : UInt8)
  | several (bytes : Bytes)
  /-- A byte that is repeated so often, or as often as it takes. -/
  | repeated (b : UInt8) (count : Nat)

/-- All bytes of some ranges. -/
def bytesOf (ranges : List (UInt8 × UInt8)) : Bytes :=
  ranges.flatMap fun r =>
    (List.range (r.2.toNat + 1 - r.1.toNat)).map fun k => UInt8.ofNat (r.1.toNat + k)

/-- Reads a single byte, which may be escaped. -/
def single : Bytes → Option (UInt8 × Bytes)
  | [] => none
  | 92 :: b :: rest =>
    match Print.letter? b with
    | some c => some (c, rest)
    | none => if Print.isOctal b then some (Print.octal 3 (b :: rest)) else some (b, rest)
  | b :: rest => some (b, rest)

/-- Reads a member of a list. -/
def member? (bytes : Bytes) : Option (Member × Bytes) :=
  match bytes with
  | 91 :: 58 :: rest =>
    let name := rest.takeWhile fun b => b != 58
    match Regex.classes.find? fun c => Bytes.ofString c.1 == name, rest.drop name.length with
    | some c, 58 :: 93 :: behind => some (.several (bytesOf c.2), behind)
    | _, _ => (single bytes).map fun r => (.byte r.1, r.2)
  | 91 :: 61 :: b :: 61 :: 93 :: rest => some (.byte b, rest)
  | 91 :: rest =>
    match single rest with
    | some (b, 42 :: more) =>
      let digits := more.takeWhile fun d => 48 ≤ d && d ≤ 57
      match more.drop digits.length with
      | 93 :: behind => some (.repeated b ((Bytes.toNat? digits).getD 0), behind)
      | _ => some (.byte 91, rest)
    | _ => some (.byte 91, rest)
  | bytes => (single bytes).map fun r => (.byte r.1, r.2)

/-- The bytes of a list. An open repetition fills up to a length. -/
def members (length : Nat) : Nat → Bytes → Bytes
  | 0, _ => []
  | fuel + 1, bytes =>
    match member? bytes with
    | none => []
    | some (.byte a, 45 :: rest) =>
      match single rest with
      | some (b, behind) => bytesOf [(a, b)] ++ members length fuel behind
      | none => [a, 45]
    | some (.byte a, rest) => a :: members length fuel rest
    | some (.several bs, rest) => bs ++ members length fuel rest
    | some (.repeated b count, rest) =>
      let tail := members length fuel rest
      List.replicate (if count = 0 then length - tail.length else count) b ++ tail

/-- The bytes that a list stands for. -/
def set (length : Nat) (b : Bytes) : Bytes := members length (b.length + 1) b

/-- Every byte that is not among some. -/
def complement (b : Bytes) : Bytes :=
  ((List.range 256).map UInt8.ofNat).filter fun x => !List.contains b x

/-- Maps the bytes of one list to those of another, whose last byte counts for all that lack one. -/
def exchange (old new : Bytes) (b : UInt8) : UInt8 :=
  match old.reverse.idxOf? b with
  | none => b
  | some back => new.getD (old.length - 1 - back) (new.getLast?.getD b)

/-- Leaves one byte of each run of a byte that is among some. -/
def squeeze (among : Bytes) : Bytes → Bytes
  | [] => []
  | [b] => [b]
  | a :: b :: rest =>
    if a = b ∧ List.contains among a then squeeze among (b :: rest) else a :: squeeze among (b :: rest)

/-- Maps, deletes or squeezes the bytes of standard input. -/
def tr (args : List Bytes) : Work Nat :=
  Work.withOptions "tr" ⟨"cCdst", "",
    [("delete", 'd'), ("squeeze-repeats", 's'), ("complement", 'c'), ("truncate-set1", 't')]⟩ args 1
    fun o => do
  let flip (b : Bytes) : Bytes := if o.has 'c' || o.has 'C' then complement b else b
  let missing (text : String) : Work Nat := do
    Work.complain ("tr: " ++ text ++ "\nTry 'tr --help' for more information.\n")
    return 1
  match o.operands with
  | [] => missing "missing operand"
  | [one] =>
    if !o.has 'd' && !o.has 's' then
      missing ("missing operand after '" ++ Utf8.display one
        ++ "'\nTwo strings must be given when translating.")
    else
      let chosen := flip (set 0 one)
      let input ← Work.input
      Work.say (if o.has 'd' then input.filter fun b => !List.contains chosen b
        else squeeze chosen input)
      return 0
  | one :: two :: more =>
    if !more.isEmpty then
      missing ("extra operand '" ++ Utf8.display (more.headD []) ++ "'")
    else if o.has 'd' && !o.has 's' then
      missing ("extra operand '" ++ Utf8.display two
        ++ "'\nOnly one string may be given when deleting without squeezing repeats.")
    else
      let old := flip (set 0 one)
      let new := set old.length two
      let old := if o.has 't' then old.take new.length else old
      let input ← Work.input
      Work.say (if o.has 'd' then squeeze new (input.filter fun b => !List.contains old b)
        else
          let mapped := input.map (exchange old new)
          if o.has 's' then squeeze new mapped else mapped)
      return 0

end SyscallGuard.Exchange
