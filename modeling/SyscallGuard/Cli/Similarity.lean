set_option autoImplicit false

/-! # Similarity of words

How alike two words are, to propose the option that a misspelled one was meant to be. Two equal
letters *agree* if they stand about as far from the start of their words, each letter being used
once. The similarity is the mean of three shares: the agreeing letters of either word, and those
among them that come in the same order. It is computed in double precision, which decides where
two words are just about similar enough. -/

namespace SyscallGuard.Similarity

/-- How far apart agreeing letters may stand. -/
def reach (a b : List Char) : Nat := max a.length b.length / 2 - 1

/-- Takes the first letter equal to `c` between two indexes that is not taken. The list says for
    each letter whether it is taken. -/
def take? (c : Char) (low high : Nat) : Nat → List (Char × Bool) → Option (List (Char × Bool))
  | _, [] => none
  | i, (d, taken) :: rest =>
    if i ≥ high then none
    else if low ≤ i && c == d && !taken then some ((d, true) :: rest)
    else (take? c low high (i + 1) rest).map fun r => (d, taken) :: r

/-- The letters of the first word that agree, and the second word with the letters taken. -/
def agree (range : Nat) : Nat → List Char → List (Char × Bool) → List Char × List (Char × Bool)
  | _, [], b => ([], b)
  | i, c :: rest, b =>
    match take? c (i - range) (i + range + 1) 0 b with
    | some b =>
      let (more, b) := agree range (i + 1) rest b
      (c :: more, b)
    | none => agree range (i + 1) rest b

/-- The share that a part is of a whole. -/
def share (part whole : Nat) : Float := Float.ofNat part / Float.ofNat whole

/-- The similarity of two words. -/
def ratio (a b : List Char) : Float :=
  if a.isEmpty && b.isEmpty then 1
  else
    let (inA, marked) := agree (reach a b) 0 a (b.map fun c => (c, false))
    let inB := (marked.filter Prod.snd).map Prod.fst
    let agreeing := inA.length
    if agreeing = 0 then 0
    else
      let displaced := ((inA.zip inB).filter fun p => p.1 != p.2).length / 2
      (share agreeing a.length + share agreeing b.length + share (agreeing - displaced) agreeing) / 3

/-- What a proposal has to exceed. -/
def threshold : Float := 0.7

/-- The most similar of some words, the last of several, if any is similar enough. -/
def closest? (word : List Char) (candidates : List String) : Option String :=
  (candidates.foldl
    (fun best c =>
      let r := ratio word c.toList
      if !(r > threshold) then best
      else match best with
        | some (_, s) => if r < s then best else some (c, r)
        | none => some (c, r))
    none).map Prod.fst

end SyscallGuard.Similarity
