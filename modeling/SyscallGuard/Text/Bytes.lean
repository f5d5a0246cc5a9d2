set_option autoImplicit false

/-! # Bytes

Sources, lines, names and messages are sequences of bytes: nothing here assumes that they are
valid text. This file has the few operations on them that the rest of the library is built from:
slicing a range out, searching for a substring, and the indentation a line starts with. -/

namespace SyscallGuard

/-- The contents of a file, a line or a name. -/
abbrev Bytes := List UInt8

namespace Bytes

/-- The UTF-8 encoding of a string. -/
def ofString (s : String) : Bytes := s.toUTF8.data.toList

/-- The line feed, which ends a line. -/
def newline : UInt8 := 10

/-! ## Ranges -/

/-- The bytes from offset `start` up to offset `stop`, if that range lies inside `b`. -/
def slice? (b : Bytes) (start stop : Nat) : Option Bytes :=
  if start ≤ stop ∧ stop ≤ b.length then some ((b.drop start).take (stop - start)) else none

/-- The bytes of a range, none at all if it does not fit. -/
def slice (b : Bytes) (start stop : Nat) : Bytes := (b.slice? start stop).getD []

/-! ## Search -/

/-- Whether `needle` stands somewhere in the bytes; the empty needle stands everywhere. -/
def contains (needle : Bytes) : Bytes → Bool
  | [] => needle.isEmpty
  | b :: rest => needle.isPrefixOf (b :: rest) || contains needle rest

/-! ## Indentation -/

/-- Space or tab. -/
def isIndent (b : UInt8) : Bool := b == 32 || b == 9

/-- The run of spaces and tabs a line starts with. -/
def leadingIndent (line : Bytes) : Bytes := line.takeWhile isIndent

/-! ## ASCII -/

/-- The six characters that count as white space between words. -/
def isSpace (b : UInt8) : Bool := b == 32 || (9 ≤ b && b ≤ 13)

/-- A small letter becomes its capital, every other byte stays. -/
def upperByte (b : UInt8) : UInt8 := if 97 ≤ b ∧ b ≤ 122 then b - 32 else b

/-- Capitalises the small letters a to z. -/
def toUpper (b : Bytes) : Bytes := b.map upperByte

end Bytes

end SyscallGuard
