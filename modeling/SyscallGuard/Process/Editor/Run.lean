import SyscallGuard.Process.Editor.Command

set_option autoImplicit false

/-! # Running the stream editor

The editor keeps one line at a time, in its *space*, and a second text on hold. A cycle takes the
next line into the space, runs the commands on it, and prints what the space then holds. Whether a
line had a line feed at its end is kept with the text, so that a last line without one stays without
one. -/

namespace SyscallGuard.Editor

/-- A text, and whether a line feed belongs behind it. -/
structure Held where
  text : Bytes
  ended : Bool

/-- What was written to a file so far. -/
structure Written where
  pieces : List Bytes := []
  /-- Whether the last line lacks its line feed. -/
  unfinished : Bool := false

/-- Writes a text, behind the line feed that the last line lacks. -/
def Written.add (w : Written) (text : Bytes) : Written :=
  ⟨text :: (if w.unfinished then [10] :: w.pieces else w.pieces), false⟩

/-- Writes a line. -/
def Written.line (w : Written) (h : Held) : Written :=
  { w.add (if h.ended then h.text ++ [10] else h.text) with unfinished := !h.ended }

/-- What was written. -/
def Written.bytes (w : Written) : Bytes := w.pieces.reverse.flatten

/-- What is known about a range. -/
inductive RangeState where
  | open_
  /-- Ends with a line of a certain number. -/
  | until_ (n : Nat)

/-- The editor between two commands. -/
structure State where
  space : Held
  onHold : Held
  number : Nat
  /-- The lines to come, with their line feeds. -/
  rest : List Bytes
  /-- The ranges that have begun, by the index of their command. -/
  ranges : List (Nat × RangeState)
  /-- What is to be printed behind the line. -/
  behind : List Bytes
  output : Written
  lastSearch : Option Regex

/-- What the editor was started with. -/
structure Setup where
  commands : Array Command
  silent : Bool

/-- How the commands ended. -/
inductive Ending where
  /-- At their end. -/
  | done
  /-- The line is not printed. -/
  | deleted
  /-- The editor stops. -/
  | quit (status : Nat) (print finish : Bool)

namespace State

/-- Whether a line is the last one. -/
def isLast (s : State) : Bool := s.rest.isEmpty

/-- Looks for an expression, and keeps it as the last one used. -/
def find? (s : State) (q : Search) (start : Nat) : State × Option (Nat × Regex.Match) :=
  match q.regex.or s.lastSearch with
  | none => (s, none)
  | some r => ({ s with lastSearch := some r }, r.find? q.ignoreCase s.space.text start)

/-! ## Selecting lines -/

/-- Whether an address fits the line. -/
def fits (s : State) : Address → State × Bool
  | .line n => (s, s.number == n)
  | .last => (s, s.isLast)
  | .found q =>
    let (s, m) := s.find? q 0
    (s, m.isSome)

/-- Whether the line is in the range of a command that begins with it, or goes on. -/
def inRange (s : State) (index : Nat) (first stop : Address) : State × Bool :=
  let without := s.ranges.filter fun r => r.1 != index
  let begin_ (s : State) (r : RangeState) : State × Bool :=
    ({ s with ranges := (index, r) :: without }, true)
  match s.ranges.lookup index with
  | some (.until_ n) =>
    (if n ≤ s.number then { s with ranges := without } else s, s.number ≤ n)
  | some .open_ =>
    let (s, found) := s.fits stop
    (if found then { s with ranges := without } else s, true)
  | none =>
    let (s, found) := s.fits first
    if !found then (s, false)
    else
      match stop with
      | .line n => if n ≤ s.number then (s, true) else begin_ s (.until_ n)
      | _ => begin_ s .open_

/-- Whether a command is meant for the line. -/
def selects (s : State) (index : Nat) (sel : Selector) : State × Bool :=
  let (s, found) := match sel.first, sel.last with
    | none, _ => (s, true)
    | some a, none => s.fits a
    | some a, some e => s.inRange index a e
  (s, found != sel.negated)

/-! ## Printing -/

/-- Prints the space. -/
def print (s : State) : State := { s with output := s.output.line s.space }

/-- Prints a line of its own. -/
def printLine (s : State) (text : Bytes) : State := { s with output := s.output.line ⟨text, true⟩ }

/-- Prints what was put behind the line. -/
def flush (s : State) : State :=
  { s with output := s.behind.foldl Written.add s.output, behind := [] }

/-- The next line in the space, if there is one. -/
def advance? (s : State) : Option (State × Held) :=
  match s.rest with
  | [] => none
  | line :: rest =>
    let text := Bytes.chomp line
    some ({ s.flush with rest, number := s.number + 1 }, ⟨text, text.length != line.length⟩)

end State

/-! ## Replacing -/

/-- The text that pieces stand for. -/
def fill (line : Bytes) (start : Nat) (m : Regex.Match) (pieces : List Piece) : Bytes :=
  pieces.flatMap fun p => match p with
    | .text b => b
    | .group 0 => Bytes.slice line start m.position
    | .group n =>
      match m.groups.lookup n with
      | some (a, b) => Bytes.slice line a b
      | none => []

/-- Replaces matches from a position on, of which the next one has a certain number. A match without
    bytes does not count directly behind another one. -/
def replace (s : Substitution) (r : Regex) (line : Bytes) :
    Nat → Nat → Option Nat → Nat → Bytes → Bytes × Bool
  | 0, position, _, _, done => (done ++ line.drop position, false)
  | fuel + 1, position, before, count, done =>
    match r.find? s.search.ignoreCase line position with
    | none => (done ++ line.drop position, false)
    | some (start, m) =>
      let done := done ++ Bytes.slice line position start
      if m.position = start ∧ before = some start then
        if start < line.length then
          replace s r line fuel (start + 1) none count (done ++ Bytes.slice line start (start + 1))
        else (done, false)
      else
        let hit := count == s.from_ || (s.all && count > s.from_)
        let text :=
          if hit then fill line start m s.pieces else Bytes.slice line start m.position
        let done := done ++ text
        if hit && !s.all then (done ++ line.drop m.position, true)
        else if m.position = start then
          if start < line.length then
            let (result, changed) := replace s r line fuel (start + 1) none (count + 1)
              (done ++ Bytes.slice line start (start + 1))
            (result, hit || changed)
          else (done, hit)
        else
          let (result, changed) :=
            replace s r line fuel m.position (some m.position) (count + 1) done
          (result, hit || changed)

/-- Carries out a replacement in the space. -/
def State.substitute (s : State) (q : Substitution) : State :=
  match q.search.regex.or s.lastSearch with
  | none => s
  | some r =>
    let s := { s with lastSearch := some r }
    let line := s.space.text
    let (text, changed) := replace q r line (line.length + 2) 0 none 1 []
    if !changed then s
    else
      let s := { s with space := { s.space with text } }
      if q.print then s.print else s

/-! ## Cycles -/

/-- Runs the commands from an index on. -/
def execute (p : Setup) : Nat → Nat → State → State × Ending
  | 0, _, s => (s, .done)
  | fuel + 1, index, s =>
    match p.commands[index]? with
    | none => (s, .done)
    | some c =>
      let (s, selected) := s.selects index c.selector
      let goOn (s : State) : State × Ending := execute p fuel (index + 1) s
      if !selected then
        match c.action with
        | .block stop => execute p fuel (stop + 1) s
        | _ => goOn s
      else match c.action with
        | .block _ | .blockEnd => goOn s
        | .substitute q => goOn (s.substitute q)
        | .exchange old new =>
          let text := s.space.text.map fun b => ((old.zip new).lookup b).getD b
          goOn { s with space := { s.space with text } }
        | .delete => (s, .deleted)
        | .print => goOn s.print
        | .printNumber => goOn (s.printLine (Bytes.ofNat s.number))
        | .next =>
          if s.isLast then (s, .quit 0 true false)
          else
            let s := if p.silent then s else s.print
            match s.advance? with
            | some (s, line) => goOn { s with space := line }
            | none => (s, .quit 0 false false)
        | .appendNext =>
          match s.advance? with
          | some (s, line) =>
            goOn { s with space := ⟨s.space.text ++ 10 :: line.text, line.ended⟩ }
          | none => (s, .quit 0 true false)
        | .hold => goOn { s with onHold := s.space }
        | .holdAppend =>
          goOn { s with onHold := ⟨s.onHold.text ++ 10 :: s.space.text, s.space.ended⟩ }
        | .fetch => goOn { s with space := s.onHold }
        | .fetchAppend =>
          goOn { s with space := ⟨s.space.text ++ 10 :: s.onHold.text, s.onHold.ended⟩ }
        | .swap => goOn { s with space := s.onHold, onHold := s.space }
        | .append text => goOn { s with behind := s.behind ++ [text] }
        | .insert text => goOn { s with output := s.output.add text }
        | .change text =>
          let going := (s.ranges.lookup index).isSome && !c.selector.negated
          (if going then s else { s with output := s.output.add text }, .deleted)
        | .quit status => (s, .quit status true true)

/-- More steps than a cycle needs. -/
def stepLimit : Nat := 1000000

/-- Runs cycles to the end of the input. -/
def cycles (p : Setup) : Nat → State → State × Option Nat
  | 0, s => (s, none)
  | fuel + 1, s =>
    match s.advance? with
    | none => (s, none)
    | some (s, line) =>
      let s := { s with space := line }
      let print (s : State) : State := if p.silent then s else s.print
      match execute p stepLimit 0 s with
      | (s, .done) => cycles p fuel (print s).flush
      | (s, .deleted) => cycles p fuel s.flush
      | (s, .quit status shown finish) =>
        let s := if shown then print s else s
        let s := if finish && s.output.unfinished then { s with output := s.output.add [] } else s
        (s.flush, some status)

/-- Runs the editor on some lines. -/
def runOn (p : Setup) (lines : List Bytes) : State × Option Nat :=
  let ranges := (List.range p.commands.size).filter fun i =>
    match p.commands[i]? with
    | some ⟨⟨some (.line 0), _, _⟩, _⟩ => true
    | _ => false
  cycles p (stepLimit + lines.length) {
    space := ⟨[], true⟩, onHold := ⟨[], true⟩, number := 0, rest := lines
    ranges := ranges.map fun i => (i, .open_), behind := [], output := {}, lastSearch := none }

end SyscallGuard.Editor
