import SyscallGuard.Parse.Stack

set_option autoImplicit false

/-! # Reductions on the stack

A reduction takes the last trees off a head and puts a phrase in their place. Comments on top of
them are not part of the phrase and go back on. If the stack forks below, there is one new head for
every vertex that is reached; if several paths reach the same vertex, the best tree is kept. -/

namespace SyscallGuard.Machine

open Automaton (State)

/-! ## Limits -/

/-- No more readings than this are kept. -/
def maxHeads : Nat := 6

/-- So many more are tolerated for the time being. -/
def headOverflow : Nat := 4

/-! ## Reducing -/

/-- Splits off the comments at the end of a list of trees. -/
def splitExtras (trees : List Tree) : List Tree × List Tree :=
  let back := trees.reverse
  ((back.dropWhile Tree.extra).reverse, (back.takeWhile Tree.extra).reverse)

/-- The best phrase over several lists of trees that stand on the same vertex, with the comments
    that follow it. -/
def bestPhrase (source : Input) (r : Reduction) (offset : Nat) :
    List (List Tree) → Option (Tree × List Tree)
  | [] => none
  | first :: others =>
    let build (trees : List Tree) : Tree × List Tree :=
      let (kids, extras) := splitExtras trees
      (Tree.branch source (.phrase r.phrase) r.roles kids offset, extras)
    some (others.foldl (fun best trees =>
      let new := build trees
      if new.1.replaces best.1 then new else best) (build first))

/-- Puts a phrase on one of the stacks that a reduction has reached, as a new head at the end or
    merged into an earlier head other than the one that is reduced. -/
def reduceOnto (source : Input) (n : Nat) (mark : Nat) (r : Reduction) (m : Machine)
    (group : Nat × List (List Tree)) : Machine :=
  let halted := (m.heads.filter Head.isHalted).length
  let base := m.graph.get group.1
  if m.heads.length > maxHeads + headOverflow + halted then m
  else match bestPhrase source r base.offset group.2 with
    | none => m
    | some (tree, extras) =>
      let state := Automaton.goto base.state r.phrase
      let last := m.heads.length
      let new : Head := ⟨group.1, mark, .active, none⟩
      let grown : Machine := { m with heads := m.heads ++ [new] }
      let grown := grown.pushOn last (some (tree.addWeight r.weight)) state
      let grown := grown.pushAll last extras state
      match grown.heads[last]? with
      | none => grown
      | some h =>
        match grown.mergeTarget? (grown.heads.take last) n h with
        | some k => (grown.merge? k last).getD grown
        | none => grown

/-- Reduces head `n` and returns the number of the first new head, if there is one. -/
def reduce (source : Input) (m : Machine) (n : Nat) (r : Reduction) : Machine × Option Nat :=
  match m.heads[n]? with
  | none => (m, none)
  | some h =>
    let before := m.heads.length
    let m := (m.graph.pop h.top r.arity).foldl (reduceOnto source n h.mark r) m
    (m, if m.heads.length > before then some before else none)

/-! ## Accepting -/

/-- The finished tree over everything on the stack: the last tree that is no comment takes in what
    stands around it. -/
def root? (source : Input) (trees : List Tree) : Option Tree :=
  let (front, extras) := splitExtras trees
  match front.getLast? with
  | none => none
  | some t =>
    some (Tree.branch source t.label t.info.roles (front.dropLast ++ t.kids ++ extras) 0)

/-- Keeps the better of the finished trees. -/
def finish (m : Machine) (t : Tree) : Machine :=
  let better := match m.finished with
    | none => t
    | some old => if t.replaces old then t else old
  { m with finished := some better, accepted := m.accepted + 1 }

/-- Ends head `n` at the end of the source. -/
def accept (source : Input) (m : Machine) (n : Nat) (eof : Tree) : Machine :=
  let m := m.pushOn n (some eof) Automaton.startState
  match m.heads[n]? with
  | none => m
  | some h =>
    let trees := (m.graph.popAll h.top).filterMap fun p => root? source p.trees
    (trees.foldl finish m).modify n Head.halt

/-! ## Comparing heads -/

/-- How a head stands. -/
structure Standing where
  cost : Nat
  progress : Nat
  weight : Int
  inFault : Bool

/-- How a head stands; a head that has stopped has a tree to leave out. -/
def standing (g : Graph) (h : Head) : Standing where
  cost := h.cost g + if h.isPaused then Cost.skippedTree else 0
  progress := h.progress g
  weight := (g.get h.top).weight
  inFault := h.isPaused || (g.get h.top).state == Automaton.faultState

/-- How two heads compare: one of them is so much better that the other is given up, or one of
    them is preferred, or neither. -/
inductive Verdict where
  | takeLeft | preferLeft | neither | preferRight | takeRight
deriving DecidableEq

/-- The largest difference of costs, in relation to progress, at which both heads are kept. -/
def maxCostDifference : Nat := 18 * Cost.skippedTree

/-- Compares two heads. -/
def judge (a b : Standing) : Verdict :=
  if !a.inFault && b.inFault then (if a.cost < b.cost then .takeLeft else .preferLeft)
  else if a.inFault && !b.inFault then (if b.cost < a.cost then .takeRight else .preferRight)
  else if a.cost < b.cost then
    (if (b.cost - a.cost) * (1 + a.progress) > maxCostDifference then .takeLeft else .preferLeft)
  else if b.cost < a.cost then
    (if (a.cost - b.cost) * (1 + b.progress) > maxCostDifference then .takeRight else .preferRight)
  else if a.weight > b.weight then .preferLeft
  else if b.weight > a.weight then .preferRight
  else .neither

/-- Whether some head from number `k` on is better than head `n`, which stands as `mine`. Only heads
    that are as far count; their marks are settled on the way. -/
def outdone (n : Nat) (mine : Standing) (offset : Nat) : Nat → Nat → Machine → Machine × Bool
  | 0, _, m => (m, false)
  | count + 1, k, m =>
    match m.heads[k]?, m.heads[n]? with
    | some other, some h =>
      if k = n || !other.isActive || (m.topOf other).offset < offset then
        outdone n mine offset count (k + 1) m
      else
        let m := m.modify k fun h => h.settle m.graph
        let beaten := match judge mine (standing m.graph (other.settle m.graph)) with
          | .takeRight => true
          | .preferRight => other.mergeable m.graph h
          | _ => false
        if beaten then (m, true) else outdone n mine offset count (k + 1) m
    | _, _ => (m, false)

/-- Whether head `n` at a given cost is not worth following: a finished tree is as good, or
    another head that is as far is better. -/
def isHopeless (m : Machine) (n : Nat) (cost : Nat) : Machine × Bool :=
  match m.heads[n]? with
  | none => (m, true)
  | some h =>
    if m.finished.any fun t => t.cost ≤ cost then (m, true)
    else
      let top := m.topOf h
      let mine : Standing := ⟨cost, h.progress m.graph, top.weight, false⟩
      let m := m.modify n fun h => h.settle m.graph
      outdone n mine top.offset m.heads.length 0 m

end SyscallGuard.Machine
