import SyscallGuard.Text.Bytes

set_option autoImplicit false

/-! # Lines

A source is edited line by line. `Lines.split` cuts it at every line feed, `Lines.join` puts the
lines together again, and the only edit is the insertion of a whole line. Cutting loses nothing
(`join_split`): the line feeds are exactly the seams, so an empty source is one empty line and a
final line feed is followed by an empty line. -/

namespace SyscallGuard

/-- A source cut into lines, without their line feeds. -/
structure Lines where
  toList : List Bytes
deriving DecidableEq

namespace Lines

/-! ## Cutting and joining -/

/-- Cuts at every line feed. -/
def splitBytes : Bytes → List Bytes
  | [] => [[]]
  | b :: rest =>
    if b = Bytes.newline then [] :: splitBytes rest
    else match splitBytes rest with
      | [] => [[b]]
      | line :: lines => (b :: line) :: lines

/-- Puts lines together with a line feed between neighbours. -/
def joinBytes : List Bytes → Bytes
  | [] => []
  | [line] => line
  | line :: next :: lines => line ++ Bytes.newline :: joinBytes (next :: lines)

/-- The lines of a source. -/
def split (source : Bytes) : Lines := ⟨splitBytes source⟩

/-- The source that lines stand for. -/
def join (b : Lines) : Bytes := joinBytes b.toList

theorem splitBytes_ne_nil (source : Bytes) : splitBytes source ≠ [] := by
  cases source with
  | nil => simp [splitBytes]
  | cons b rest =>
    simp only [splitBytes]
    split
    · simp
    · split <;> simp

theorem joinBytes_splitBytes (source : Bytes) : joinBytes (splitBytes source) = source := by
  induction source with
  | nil => rfl
  | cons b rest ih =>
    simp only [splitBytes]
    split
    · rename_i h
      match hs : splitBytes rest with
      | [] => exact absurd hs (splitBytes_ne_nil rest)
      | line :: lines =>
        rw [hs] at ih
        simp [joinBytes, ih, h]
    · match hs : splitBytes rest with
      | [] => exact absurd hs (splitBytes_ne_nil rest)
      | [line] =>
        rw [hs] at ih
        simp only [joinBytes] at ih ⊢
        rw [ih]
      | line :: next :: lines =>
        rw [hs] at ih
        simp only [joinBytes, List.cons_append] at ih ⊢
        rw [ih]

/-- Cutting a source and joining the lines gives the source back. -/
theorem join_split (source : Bytes) : (split source).join = source :=
  joinBytes_splitBytes source

/-! ## Looking and inserting -/

/-- The number of lines. -/
def size (b : Lines) : Nat := b.toList.length

/-- Whether there is no line at all. -/
def isEmpty (b : Lines) : Bool := b.toList.isEmpty

/-- The line at a zero-based index. -/
def line? (b : Lines) (index : Nat) : Option Bytes := b.toList[index]?

/-- Inserts a line so that it stands at `index`; refused beyond the end. -/
def insert? (b : Lines) (index : Nat) (line : Bytes) : Option Lines :=
  if index ≤ b.size then some ⟨b.toList.take index ++ line :: b.toList.drop index⟩ else none

end Lines

end SyscallGuard
