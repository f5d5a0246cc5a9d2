import SyscallGuard.Parse.Reduce

set_option autoImplicit false

/-! # Recovery from faults

A token that fits nowhere does not end a parse. The parser tries three things side by side and
keeps the cheapest: to assume a missing token, to leave out what it has read since some earlier
state that can go on with the token, and to leave out the token itself. -/

namespace SyscallGuard.Machine

open Automaton (State)

/-! ## Reducing regardless of the token -/

/-- What a state can do on some tokens: whether it can take one of them, and its reductions, one
    for each phrase and arity. -/
def outlook (s : State) (tokens : List Token) : Bool × List Reduction :=
  tokens.foldl (fun acc t =>
    (Automaton.actions s t).foldl (fun (takes, reductions) action =>
      match action with
      | .shift _ repeats => (takes || !repeats, reductions)
      | .recover => (true, reductions)
      | .reduce r =>
        if r.arity = 0 || reductions.any fun q => q.phrase == r.phrase && q.arity == r.arity then
          (takes, reductions)
        else (takes, reductions ++ [r])
      | _ => (takes, reductions)) acc) (false, [])

/-- Makes every reduction that is possible from head `n` on, and from the new heads: on one token,
    or on any. Heads that can do nothing on the one token are removed. Says whether some head can
    take the token. `base` is the number of heads at the start and `turn` counts the rounds. -/
def reduceAll (source : Input) (start base : Nat) (token : Option Token) :
    Nat → Nat → Nat → Bool → Machine → Machine × Bool
  | 0, _, _, can, m => (m, can)
  | fuel + 1, turn, n, can, m =>
    match m.heads[n]? with
    | none => (m, can)
    | some h =>
      let count := m.heads.length
      let merged := (List.range n).findSome? fun j => if j < base then none else m.merge? j n
      match merged with
      | some m => reduceAll source start base token fuel (turn + 1) n can m
      | none =>
        let tokens := match token with
          | some t => [t]
          | none => Token.all.tail
        let (takes, reductions) := outlook (m.topOf h).state tokens
        let (m, new) := reductions.foldl (fun (m, _) r => reduce source m n r) (m, none)
        let onward := if n = start then count else n + 1
        match takes, new with
        | true, _ => reduceAll source start base token fuel (turn + 1) onward true m
        | false, some k =>
          if turn < maxHeads then
            reduceAll source start base token fuel (turn + 1) n can (m.moveTo k n)
          else if token.isSome then
            reduceAll source start base token fuel (turn + 1) onward can (m.remove n)
          else reduceAll source start base token fuel (turn + 1) onward can m
        | false, none =>
          if token.isSome then
            reduceAll source start base token fuel (turn + 1) onward can (m.remove n)
          else reduceAll source start base token fuel (turn + 1) onward can m

/-- More rounds than any stack needs. -/
def roundLimit : Nat := 256

/-- Makes every reduction that is possible from head `n` on. -/
def reduceFrom (source : Input) (m : Machine) (n : Nat) (token : Option Token) : Machine × Bool :=
  reduceAll source n m.heads.length token roundLimit 0 n false m

/-! ## Missing tokens -/

/-- The token of a lookahead; input that is no token has none. -/
def tokenOf (lookahead : Tree) : Option Token :=
  match lookahead.label with
  | .token t => some t
  | _ => none

/-- Tries the tokens that could stand in front of the lookahead, in order, and assumes the first
    with which the parse goes on. The end of the source is as good as any token. -/
def assumeToken (source : Input) (m : Machine) (n : Nat) (lookahead : Token) (offset : Nat) :
    List Token → Machine × Bool
  | [] => (m, false)
  | t :: rest =>
    match m.heads[n]? with
    | none => (m, false)
    | some h =>
      let state := (m.topOf h).state
      match Automaton.next? state t with
      | none => assumeToken source m n lookahead offset rest
      | some target =>
        if target = state || !Automaton.reducesOn target lookahead then
          assumeToken source m n lookahead offset rest
        else
          let last := m.heads.length
          let tried : Machine := { m with heads := m.heads ++ [{ h with stops := none }] }
          let tried := tried.pushOn last (some (Tree.assumed t offset)) target
          let goal := if lookahead = .eof then none else some lookahead
          let (tried, can) := reduceFrom source tried last goal
          if can then (tried, true) else assumeToken source tried n lookahead offset rest

/-! ## Leaving out -/

/-- How far down a fault looks for a state to return to. -/
def maxStopDepth : Nat := 16

/-- Notes the state that a path has reached as one to return to, unless it is already noted at the
    same depth. -/
def noteStop (g : Graph) (stops : List Stop) (p : Graph.Path) : List Stop :=
  let v := g.get p.bottom
  let near := stops.reverse.takeWhile fun s => p.count ≤ s.depth
  if near.any fun s => s.depth == p.count && s.state == v.state then stops
  else stops ++ [⟨v.offset, p.count, v.state⟩]

/-- The states to which a parser can return from vertex `n`. -/
def stopsOf (g : Graph) (n : Nat) : List Stop :=
  (g.paths n (fun p => p.count ≤ maxStopDepth) fun p => p.count > maxStopDepth).foldl
    (noteStop g) []

/-- The children of a fault that lies directly below, which are joined to a new fault. -/
def faultBelow? (v : Vertex) : Option (List Tree × Nat) :=
  v.links.findSome? fun
    | (some t, below) => if t.label = .fault then some (t.kids, below) else none
    | _ => none

/-- Returns to a state below head `n`: what lies above it becomes a fault on a new head. Says
    whether the state was found. -/
def returnTo (source : Input) (m : Machine) (n depth : Nat) (goal : State) : Machine × Bool :=
  match m.heads[n]? with
  | none => (m, false)
  | some h =>
    (m.graph.pop h.top depth).foldl (fun (m, found) group =>
      match group.2.head? with
      | none => (m, found)
      | some trees =>
        if (m.graph.get group.1).state ≠ goal then (m, found)
        else
          let (trees, bottom) := match faultBelow? (m.graph.get group.1) with
            | some (earlier, below) => (earlier ++ trees, below)
            | none => (trees, group.1)
          let (kids, extras) := splitExtras trees
          let last := m.heads.length
          let new : Head := ⟨bottom, h.mark, .active, none⟩
          let offset := (m.graph.get bottom).offset
          let m : Machine := { m with heads := m.heads ++ [new] }
          let m :=
            if kids.isEmpty then m
            else m.pushOn last (some (Tree.branch source .fault [] kids offset).asExtra) goal
          (m.pushAll last extras goal, true)) (m, false)

/-- Tries the noted states in order, and returns to the first that can go on with the token, until
    one would cost too much. -/
def returnToStop (source : Input) (m : Machine) (n : Nat) (lookahead : Token)
    (offset cost progress : Nat) : List Stop → Machine × Bool
  | [] => (m, false)
  | s :: rest =>
    if s.state = Automaton.faultState || s.offset = offset
        || m.heads.any fun h => (m.topOf h).state == s.state && (m.topOf h).offset == offset then
      returnToStop source m n lookahead offset cost progress rest
    else
      let price := cost + s.depth * Cost.skippedTree + (offset - s.offset) * Cost.skippedByte
        + source.newlinesIn s.offset offset * Cost.skippedLine
      let (m, hopeless) := m.isHopeless n price
      if hopeless then (m, false)
      else if !Automaton.accepts s.state lookahead then
        returnToStop source m n lookahead offset cost progress rest
      else
        let (returned, found) :=
          returnTo source m n (if progress > 0 then s.depth + 1 else s.depth) s.state
        if found then (returned, true)
        else returnToStop source returned n lookahead offset cost progress rest

/-- Leaves out the lookahead: it joins the skipped input on top of head `n`. -/
def skipToken (source : Input) (m : Machine) (n : Nat) (lookahead : Tree) (progress : Nat) :
    Machine :=
  match m.heads[n]? with
  | none => m
  | some h =>
    let lookahead := if lookahead.label = .token .comment then lookahead.asExtra else lookahead
    let offset := (m.topOf h).offset
    let skipped := Tree.branch source .skipped [] [lookahead] offset
    if progress = 0 then m.pushOn n (some skipped) Automaton.faultState
    else match m.graph.pop h.top 1 with
      | (below, trees :: _) :: _ =>
        let joined := Tree.branch source .skipped [] (trees ++ [skipped]) offset
        (m.modify n fun h => { h with top := below }).pushOn n (some joined) Automaton.faultState
      | _ => m

/-- Goes on from a fault at head `n` with a lookahead. -/
def recover (source : Input) (m : Machine) (n : Nat) (lookahead : Tree) : Machine :=
  let m := m.modify n fun h => h.settle m.graph
  match m.heads[n]? with
  | none => m
  | some h =>
    let offset := (m.topOf h).offset
    let progress := h.progress m.graph
    let cost := h.cost m.graph
    let (m, returned) := match h.stops, tokenOf lookahead with
      | some stops, some t => returnToStop source m n t offset cost progress stops
      | _, _ => (m, false)
    if lookahead.label = .token .eof then
      let rest := Tree.branch source .fault [] [] offset
      accept source (m.pushOn n (some rest) Automaton.startState) n lookahead
    else if returned && m.heads.length > maxHeads then m.modify n Head.halt
    else
      let price := cost + Cost.skippedTree + (lookahead.stop - lookahead.lead) * Cost.skippedByte
        + source.newlinesIn lookahead.lead lookahead.stop * Cost.skippedLine
      let (m, hopeless) := m.isHopeless n price
      if hopeless then m.modify n Head.halt
      else skipToken source m n lookahead progress

/-! ## Meeting a fault -/

/-- The heads that come out of head `n` are marked as having left the grammar, one after another;
    the first for which a token can be assumed gets a head with that token. -/
def markHeads (source : Input) (lookahead : Tree) (offset : Nat) :
    List Nat → Bool → Machine → Machine
  | [], _, m => m
  | n :: rest, assumedOne, m =>
    let (m, assumedOne) := match assumedOne, tokenOf lookahead with
      | false, some t => assumeToken source m n t offset Token.all.tail
      | _, _ => (m, assumedOne)
    markHeads source lookahead offset rest assumedOne (m.pushOn n none Automaton.faultState)

/-- Merges head `b` into head `a` a given number of times. -/
def mergeInto (a b : Nat) : Nat → Machine → Machine
  | 0, m => m
  | count + 1, m => mergeInto a b count ((m.merge? a b).getD m)

/-- Starts recovery at head `n`, which cannot go on with the lookahead. -/
def meetFault (source : Input) (m : Machine) (n : Nat) (lookahead : Tree) : Machine :=
  let before := m.heads.length
  let (m, _) := reduceFrom source m n none
  let after := m.heads.length
  let offset := (m.heads[n]?.map fun h => (m.topOf h).offset).getD 0
  let added := (List.range (after - before)).map (before + ·)
  let m := markHeads source lookahead offset (n :: added) false m
  let m := mergeInto n before (after - before) m
  let m := m.modify n fun h => { h with stops := some (stopsOf m.graph h.top) }
  recover source m n lookahead

end SyscallGuard.Machine
