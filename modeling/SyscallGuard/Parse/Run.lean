import SyscallGuard.Parse.Recovery

set_option autoImplicit false

/-! # Running a parse

A parse advances its heads side by side. After every round the heads are condensed: those that have
met are merged, those that are clearly worse than another are dropped, and if nothing but stopped
heads is left, recovery begins at the best of them. The outcome is the best finished tree; a
source is free of faults if and only if that tree costs nothing. -/

namespace SyscallGuard

namespace Machine

open Automaton (State Action)

/-! ## Advancing a head -/

/-- What has become of a head after the actions on a token: it is done with the token, or it was
    only reduced, in which case the number of the first new head is kept. -/
inductive Turn where
  | done (m : Machine)
  | reduced (m : Machine) (new : Option Nat)
  | stuck

/-- Carries out the actions on a lookahead in order. -/
def perform (source : Input) (n : Nat) (state : State) (lookahead : Tree) :
    List Action → Machine → Turn → Turn
  | [], _, turn => turn
  | .shift target repeats :: rest, m, turn =>
    if repeats then perform source n state lookahead rest m turn
    else .done (m.pushOn n (some lookahead) target)
  | .shiftExtra :: _, m, _ => .done (m.pushOn n (some lookahead.asExtra) state)
  | .accept :: _, m, _ => .done (accept source m n lookahead)
  | .recover :: _, m, _ => .done (recover source m n lookahead)
  | .reduce r :: rest, m, turn =>
    let (m, new) := reduce source m n r
    let earlier := match turn with
      | .reduced _ new => new
      | _ => none
    perform source n state lookahead rest m (.reduced m (new.orElse fun _ => earlier))

/-- The lookahead read as a name instead of a keyword. -/
def asName (lookahead : Tree) : Tree :=
  .mk { lookahead.info with label := .token .identifier } lookahead.kids

/-- Reduces head `n` on a lookahead until it can be taken, or the head has to stop. -/
def consume (source : Input) (n : Nat) : Nat → Tree → Machine → Machine
  | 0, _, m => m.modify n Head.halt
  | fuel + 1, lookahead, m =>
    match m.heads[n]? with
    | none => m
    | some h =>
      let state := (m.topOf h).state
      let actions := match tokenOf lookahead with
        | some t => Automaton.actions state t
        | none => []
      match perform source n state lookahead actions m .stuck with
      | .done m => m
      | .reduced m (some new) => consume source n fuel lookahead (m.moveTo new n)
      | .reduced m none => m.modify n Head.halt
      | .stuck =>
        if lookahead.info.isWord && lookahead.label != .token .identifier
            && Automaton.accepts state .identifier then
          consume source n fuel (asName lookahead) m
        else
          m.modify n fun h =>
            { h with mark := (m.graph.get h.top).nodes, status := .paused lookahead }

/-- More reductions than a stack over the source can need. -/
def reductionLimit (source : Input) : Nat := 64 * (source.length + 8)

/-- The next lexeme for a parser in a state at an offset: the last one, if it will serve. -/
def readingFor (source : Input) (m : Machine) (state : State) (offset : Nat) : Reading :=
  match m.last with
  | some r => if r.serves state offset then r else Reading.next source state offset
  | none => Reading.next source state offset

/-- Reads the next lexeme for head `n` and takes it. -/
def advance (source : Input) (m : Machine) (n : Nat) : Machine :=
  match m.heads[n]? with
  | none => m
  | some h =>
    let reading := readingFor source m (m.topOf h).state (m.topOf h).offset
    consume source n (reductionLimit source) (Tree.ofLexeme reading.lexeme)
      { m with last := some reading }

/-- Advances head `n` until it is further than any head before, or has stopped. Returns how far
    the heads are. -/
def advanceHead (source : Input) (n : Nat) : Nat → Nat → Machine → Machine × Nat
  | 0, far, m => (m, far)
  | fuel + 1, far, m =>
    match m.heads[n]? with
    | none => (m, far)
    | some h =>
      if !h.isActive then (m, far)
      else
        let m := advance source m n
        let offset := (m.heads[n]?.map fun h => (m.topOf h).offset).getD far
        if far < offset || (0 < n && offset = far) then (m, offset)
        else advanceHead source n fuel far m

/-- Advances every head once, new ones included. -/
def advanceAll (source : Input) : Nat → Nat → Nat → Machine → Machine × Nat
  | 0, _, far, m => (m, far)
  | fuel + 1, n, far, m =>
    if n < m.heads.length then
      let (m, far) := advanceHead source n (2 * source.length + 64) far m
      advanceAll source fuel (n + 1) far m
    else (m, far)

/-! ## Condensing -/

/-- Compares a head with the kept ones in order. A much better head drives the other out, heads
    that can be merged are merged, and a preferred head goes in front. -/
def place (mine : Standing) : Graph → List Head → Head → Graph × List Head × Option Head
  | g, [], h => (g, [], some h)
  | g, k :: rest, h =>
    let merged (_ : Unit) : Graph × List Head × Option Head :=
      let g := g.merge k.top h.top
      (g, k.merged g :: rest, none)
    match judge (standing g k) mine with
    | .takeLeft => (g, k :: rest, none)
    | .takeRight => place mine g rest h
    | .preferRight =>
      if k.mergeable g h then merged ()
      else
        let (g, kept, left) := place mine g rest k
        (g, h :: kept, left)
    | _ =>
      if k.mergeable g h then merged ()
      else
        let (g, kept, left) := place mine g rest h
        (g, k :: kept, left)

/-- Puts the heads in order and drops those that are not worth following. Also returns the least
    cost of a head that is in no fault. -/
def sortHeads : List Head → Graph → List Head → Option Nat → Graph × List Head × Option Nat
  | [], g, kept, least => (g, kept, least)
  | h :: rest, g, kept, least =>
    if h.isHalted then sortHeads rest g kept least
    else
      let h := h.settle g
      let mine := standing g h
      let least := if mine.inFault then least else some (min mine.cost (least.getD mine.cost))
      let (g, kept, left) := place mine g kept h
      sortHeads rest g (kept ++ left.toList) least

/-- Starts recovery at the first head if it has stopped; drops stopped heads behind others. -/
def resume (source : Input) : Nat → Nat → Bool → Option Nat → Machine → Machine × Option Nat
  | 0, _, _, least, m => (m, least)
  | count + 1, n, going, least, m =>
    match m.heads[n]? with
    | none => (m, least)
    | some h =>
      match h.status with
      | .paused lookahead =>
        if !going && m.accepted < maxHeads then
          let least := some (h.cost m.graph)
          let m := m.modify n fun h => { h with status := .active }
          resume source count (n + 1) true least (meetFault source m n lookahead)
        else resume source count n going least (m.remove n)
      | _ => resume source count (n + 1) true least m

/-- Condenses the heads after a round. -/
def condense (source : Input) (m : Machine) : Machine × Option Nat :=
  let (graph, heads, least) := sortHeads m.heads m.graph [] none
  let heads := heads.take maxHeads
  resume source heads.length 0 false least { m with graph := graph, heads := heads }

/-! ## The whole parse -/

/-- Runs rounds until no head is left, or a finished tree is better than any head. -/
def rounds (source : Input) : Nat → Nat → Machine → Machine
  | 0, _, m => m
  | fuel + 1, far, m =>
    let (m, far) := advanceAll source (source.length + 64) 0 far m
    let (m, least) := condense source m
    let settled := match m.finished, least with
      | some t, some cost => t.cost < cost
      | some _, none => true
      | none, _ => false
    if settled || m.heads.isEmpty then m else rounds source fuel far m

/-- More rounds than a source can need. -/
def roundsFor (source : Input) : Nat := 8 * (source.length + 16)

end Machine

namespace Tree

/-- The tree of a source, the best reading if there are several. Irreducible, so that no proof
    about parsed sources runs the machine by accident. -/
@[irreducible] def parse? (source : Bytes) : Option Tree :=
  let input := Input.ofBytes source
  (Machine.rounds input (Machine.roundsFor input) 0 Machine.initial).finished

end Tree

end SyscallGuard
