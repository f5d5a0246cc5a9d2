set_option autoImplicit false

/-! # Patterns

A pattern describes a set of character sequences; tokens are described by patterns. `Pattern.after`
is the derivative: what is left to match once a character has been read. A scanner reads on with
the derivative until nothing can match any more, so it finds the longest match without looking
back.

Characters are code points. A byte that is not part of any character counts as the number
`Chars.illFormed`, beyond all code points, so that exactly the complemented classes contain it. -/

namespace SyscallGuard

/-- A class of characters: some ranges in ascending order, or everything outside them. -/
structure Chars where
  ranges : List (Nat × Nat)
  complement : Bool

namespace Chars

/-- The number that stands for a byte outside of every character. -/
def illFormed : Nat := 0x110000

/-- Whether a number lies in one of the ranges. -/
def inRanges (c : Nat) : List (Nat × Nat) → Bool
  | [] => false
  | (low, high) :: rest => if c < low then false else if c ≤ high then true else inRanges c rest

/-- Whether a character is in the class. The null character is in no complement. -/
def mem (c : Nat) (s : Chars) : Bool :=
  if s.complement then c != 0 && !inRanges c s.ranges else inRanges c s.ranges

/-- The listed characters, given in ascending order. -/
def ofString (s : String) : Chars := ⟨s.toList.map fun c => (c.toNat, c.toNat), false⟩

/-- Every character but the listed ones, which are given in ascending order. -/
def except (s : String) : Chars := ⟨s.toList.map fun c => (c.toNat, c.toNat), true⟩

/-- The characters from one to another. -/
def range (low high : Char) : Chars := ⟨[(low.toNat, high.toNat)], false⟩

end Chars

/-- A pattern for character sequences. -/
inductive Pattern where
  /-- Matches nothing. -/
  | never
  /-- Matches the empty sequence. -/
  | empty
  /-- Matches one character of a class. -/
  | one (s : Chars)
  /-- Matches one pattern and then another. -/
  | seq (p q : Pattern)
  /-- Matches either pattern. -/
  | either (p q : Pattern)
  /-- Matches a pattern any number of times. -/
  | many (p : Pattern)

namespace Pattern

/-! ## Matching -/

/-- Whether the empty sequence matches. -/
def acceptsEmpty : Pattern → Bool
  | never => false
  | empty => true
  | one _ => false
  | seq p q => p.acceptsEmpty && q.acceptsEmpty
  | either p q => p.acceptsEmpty || q.acceptsEmpty
  | many _ => true

/-- Whether nothing matches; patterns built by `andThen` and `orElse` show it at once. -/
def isNever : Pattern → Bool
  | never => true
  | _ => false

/-- One pattern after another, kept small. -/
def andThen (p q : Pattern) : Pattern :=
  match p with
  | never => never
  | empty => q
  | p => seq p q

/-- Either pattern, kept small. -/
def orElse (p q : Pattern) : Pattern :=
  match p, q with
  | never, q => q
  | p, never => p
  | p, q => either p q

/-- What is left to match after a character. -/
def after (c : Nat) : Pattern → Pattern
  | never => never
  | empty => never
  | one s => if s.mem c then empty else never
  | seq p q =>
    if p.acceptsEmpty then orElse (andThen (p.after c) q) (q.after c) else andThen (p.after c) q
  | either p q => orElse (p.after c) (q.after c)
  | many p => andThen (p.after c) (many p)

/-! ## Building patterns -/

/-- One of the listed characters, given in ascending order. -/
def oneOf (s : String) : Pattern := one (.ofString s)

/-- A character other than the listed ones, given in ascending order. -/
def noneOf (s : String) : Pattern := one (.except s)

/-- The pattern or nothing. -/
def optional (p : Pattern) : Pattern := either p empty

/-- The pattern at least once. -/
def some (p : Pattern) : Pattern := seq p (many p)

/-- Patterns one after another. -/
def all : List Pattern → Pattern
  | [] => empty
  | [p] => p
  | p :: ps => seq p (all ps)

/-- Any of several patterns. -/
def any : List Pattern → Pattern
  | [] => never
  | [p] => p
  | p :: ps => either p (any ps)

/-- The pattern a given number of times. -/
def times (n : Nat) (p : Pattern) : Pattern := all (List.replicate n p)

/-- Exactly these characters. -/
def text (s : String) : Pattern := all (s.toList.map fun c => one ⟨[(c.toNat, c.toNat)], false⟩)

end Pattern

end SyscallGuard
