import SyscallGuard.Text.Bytes

set_option autoImplicit false

/-! # Input

A source that is read from many offsets. Next to the bytes it keeps what follows each offset, so
that going to an offset takes no time; `drop_eq` and `length_eq` say that nothing else is different
from the bytes themselves. -/

namespace SyscallGuard

/-- A source with all its suffixes. -/
structure Input where
  bytes : Bytes
  suffixes : Array Bytes
  suffixes_eq : ∀ offset, suffixes.getD offset [] = bytes.drop offset
  size_eq : suffixes.size = bytes.length

namespace Input

/-- What follows each offset of some bytes. -/
def suffixesOf : Bytes → List Bytes
  | [] => []
  | b :: rest => (b :: rest) :: suffixesOf rest

theorem getD_suffixesOf (bytes : Bytes) (offset : Nat) :
    (suffixesOf bytes).getD offset [] = bytes.drop offset := by
  induction bytes generalizing offset with
  | nil => simp [suffixesOf]
  | cons b rest ih =>
    cases offset with
    | zero => simp [suffixesOf]
    | succ n => simpa [suffixesOf] using ih n

theorem length_suffixesOf (bytes : Bytes) : (suffixesOf bytes).length = bytes.length := by
  induction bytes with
  | nil => rfl
  | cons b rest ih => simp [suffixesOf, ih]

/-- Prepares bytes for reading. -/
def ofBytes (bytes : Bytes) : Input where
  bytes := bytes
  suffixes := (suffixesOf bytes).toArray
  suffixes_eq offset := by
    simpa [Array.getD_eq_getD_getElem?, List.getD_eq_getElem?_getD] using
      getD_suffixesOf bytes offset
  size_eq := by simp [length_suffixesOf]

/-- What follows an offset. -/
def drop (i : Input) (offset : Nat) : Bytes := i.suffixes.getD offset []

theorem drop_eq (i : Input) (offset : Nat) : i.drop offset = i.bytes.drop offset :=
  i.suffixes_eq offset

/-- The number of bytes. -/
def length (i : Input) : Nat := i.suffixes.size

theorem length_eq (i : Input) : i.length = i.bytes.length := i.size_eq

/-- The bytes of a range, none at all if it does not fit. -/
def slice (i : Input) (start stop : Nat) : Bytes :=
  if start ≤ stop ∧ stop ≤ i.length then (i.drop start).take (stop - start) else []

/-- How many line feeds lie in a range. -/
def newlinesIn (i : Input) (start stop : Nat) : Nat :=
  ((i.drop start).take (stop - start)).count Bytes.newline

end Input

end SyscallGuard
