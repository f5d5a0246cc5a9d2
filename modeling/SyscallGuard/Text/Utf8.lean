import SyscallGuard.Text.Bytes

set_option autoImplicit false

/-! # UTF-8

Sources are bytes, but words and literals are made of characters. `Utf8.scalar?` reads the
character at the front of some bytes and refuses every ill-formed sequence: stray or missing
continuation bytes, overlong forms, surrogates and numbers beyond the last code point.
`Utf8.lossy` decodes anything, with one replacement character for each maximal ill-formed piece. -/

namespace SyscallGuard.Utf8

/-- A continuation byte in the given range. -/
def within (low high b : UInt8) : Bool := low ≤ b && b ≤ high

/-- The range of the second byte after a given first byte, and the number of continuation bytes
    in all. The range is what rules out overlong forms, surrogates and too large numbers. -/
def shape (first : UInt8) : Option (UInt8 × UInt8 × Nat) :=
  if first < 0xC2 then none
  else if first < 0xE0 then some (0x80, 0xBF, 1)
  else if first = 0xE0 then some (0xA0, 0xBF, 2)
  else if first = 0xED then some (0x80, 0x9F, 2)
  else if first < 0xF0 then some (0x80, 0xBF, 2)
  else if first = 0xF0 then some (0x90, 0xBF, 3)
  else if first < 0xF4 then some (0x80, 0xBF, 3)
  else if first = 0xF4 then some (0x80, 0x8F, 3)
  else none

/-- How many of the `count` continuation bytes are in place, the first within the given range. -/
def inPlace (low high : UInt8) : Nat → Bytes → Nat
  | 0, _ => 0
  | _ + 1, [] => 0
  | count + 1, b :: rest => if within low high b then inPlace 0x80 0xBF count rest + 1 else 0

/-- Appends the payload of `count` continuation bytes to a number. -/
def payload (value : Nat) : Nat → Bytes → Nat
  | count + 1, b :: rest => payload (value * 64 + b.toNat % 64) count rest
  | _, _ => value

/-- The payload bits of a first byte that announces `count` continuation bytes. -/
def lead (first : UInt8) (count : Nat) : Nat := first.toNat % (1 <<< (6 - count))

/-- The character at the front and the number of bytes it takes. -/
def scalar? : Bytes → Option (Nat × Nat)
  | [] => none
  | b :: rest =>
    if b < 0x80 then some (b.toNat, 1)
    else match shape b with
      | none => none
      | some (low, high, count) =>
        if inPlace low high count rest = count then some (payload (lead b count) count rest, count + 1)
        else none

/-- The length of the maximal ill-formed piece at the front: a first byte with the continuation
    bytes that fit it, or a single byte. -/
def illFormed : Bytes → Nat
  | [] => 0
  | b :: rest => match shape b with
    | none => 1
    | some (low, high, count) => inPlace low high count rest + 1

/-- Decodes with at most `fuel` characters. -/
def lossyUpTo : Nat → Bytes → List Char
  | 0, _ => []
  | _ + 1, [] => []
  | fuel + 1, bytes@(_ :: _) =>
    match scalar? bytes with
    | some (code, size) => Char.ofNat code :: lossyUpTo fuel (bytes.drop size)
    | none => '\uFFFD' :: lossyUpTo fuel (bytes.drop (illFormed bytes))

/-- Decodes any bytes; an ill-formed piece becomes one replacement character. -/
def lossy (bytes : Bytes) : List Char := lossyUpTo bytes.length bytes

/-- Whether every one of at most `fuel` characters is well formed. -/
def isValidUpTo : Nat → Bytes → Bool
  | _, [] => true
  | 0, _ :: _ => false
  | fuel + 1, bytes@(_ :: _) =>
    match scalar? bytes with
    | some (_, size) => isValidUpTo fuel (bytes.drop size)
    | none => false

/-- Whether bytes are well-formed text. -/
def isValid (bytes : Bytes) : Bool := isValidUpTo bytes.length bytes

/-- Bytes as they are shown in a message. -/
def display (bytes : Bytes) : String := String.ofList (lossy bytes)

end SyscallGuard.Utf8
