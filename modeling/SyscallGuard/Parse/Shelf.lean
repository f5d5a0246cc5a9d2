set_option autoImplicit false

/-! # Shelves

A shelf holds things under the numbers from zero on. It is a binary tree: below a node the odd
numbers go left and the even ones right, so that every number has its place within as many steps as
it has binary digits. Things are put on a shelf in the order of their numbers and can be replaced. -/

namespace SyscallGuard

/-- A tree of numbered things. -/
inductive Shelf (α : Type) where
  | empty
  | node (thing : α) (odd even : Shelf α)

namespace Shelf

variable {α : Type}

/-- The thing with a number. -/
def get? : Shelf α → Nat → Option α
  | empty, _ => none
  | node thing odd even, n =>
    if n = 0 then some thing
    else if n % 2 = 1 then odd.get? (n / 2) else even.get? (n / 2 - 1)

/-- Puts a thing where a number belongs: over what stands there, or at the end of the way. -/
def set (thing : α) : Shelf α → Nat → Shelf α
  | empty, _ => node thing empty empty
  | node old odd even, n =>
    if n = 0 then node thing odd even
    else if n % 2 = 1 then node old (odd.set thing (n / 2)) even
    else node old odd (even.set thing (n / 2 - 1))

end Shelf

end SyscallGuard
