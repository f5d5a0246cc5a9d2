import SyscallGuard.Grammar.Token
import SyscallGuard.Grammar.Reduction
import SyscallGuard.Grammar.Automaton.Rows

set_option autoImplicit false

/-! # The parsing automaton

A state says what has been read so far; `actions` says what can be done on a token in a state, and
`goto` where a finished phrase leads. Where the grammar is ambiguous there are several actions, and
the parser follows all of them. -/

namespace SyscallGuard.Automaton

/-- The number of a state. -/
abbrev State := Nat

/-- The state of a parser that is skipping faulty input. -/
def faultState : State := 0

/-- The state in front of a source. -/
def startState : State := 1

/-! ## Rows -/

/-- A move on a token. A *repeating* move only continues a run that could also be closed first,
    and closing comes first. -/
structure Shift where
  token : Nat
  target : State
  repeats : Bool

/-- What a state does: the scanner mode for its tokens, its moves on tokens and on phrases, and
    for sets of tokens the reductions to make. -/
structure Row where
  mode : Nat
  shifts : List Shift
  gotos : List (Nat × State)
  reduces : List (Token.Set × List Nat)

namespace Row

/-- The low `width` bits of a number. -/
def low (width n : Nat) : Nat := n % (1 <<< width)

/-- Reads moves on tokens: seven bits for the token, eleven for the target, one for the kind. -/
def readShifts : Nat → Nat → List Shift
  | 0, _ => []
  | count + 1, n =>
    ⟨low 7 n, low 11 (n >>> 7), low 1 (n >>> 18) == 1⟩ :: readShifts count (n >>> 19)

/-- Reads moves on phrases: seven bits for the phrase, eleven for the target. -/
def readGotos : Nat → Nat → List (Nat × State)
  | 0, _ => []
  | count + 1, n => (low 7 n, low 11 (n >>> 7)) :: readGotos count (n >>> 18)

/-- Reads reductions: a set of tokens in 95 bits, then three times eight bits for the numbers of
    reductions, counted from one, with zero for none. -/
def readReduces : Nat → Nat → List (Token.Set × List Nat)
  | 0, _ => []
  | count + 1, n =>
    (low 95 n, [low 8 (n >>> 95), low 8 (n >>> 103), low 8 (n >>> 111)].filter (· != 0))
      :: readReduces count (n >>> 119)

/-- Reads a row: four bits for the mode, then the numbers of moves on tokens, of moves on phrases
    and of reductions in seven, seven and three bits, then the moves and reductions themselves. -/
def decode (code : Nat) : Row :=
  let shifts := low 7 (code >>> 4)
  let gotos := low 7 (code >>> 11)
  let reduces := low 3 (code >>> 18)
  { mode := low 4 code
    shifts := readShifts shifts (code >>> 21)
    gotos := readGotos gotos (code >>> (21 + 19 * shifts))
    reduces := readReduces reduces (code >>> (21 + 19 * shifts + 18 * gotos)) }

/-- A state that can do nothing. -/
def dead : Row := ⟨0, [], [], []⟩

end Row

/-- The decoded rows, by state. -/
def rows : Array Row := .mk (rowCodes.map Row.decode)

/-- The row of a state. -/
def row (s : State) : Row := rows.getD s Row.dead

/-! ## Moves -/

/-- What a parser can do on a token. -/
inductive Action where
  /-- Take the token and go on in another state. -/
  | shift (target : State) (repeats : Bool)
  /-- Take the token as a comment, which may stand anywhere. -/
  | shiftExtra
  /-- Make a phrase of the last subtrees. -/
  | reduce (r : Reduction)
  /-- The source is complete. -/
  | accept
  /-- Deal with a token met while skipping faulty input. -/
  | recover

/-- The number that stands for the end of parsing among the numbers of reductions. -/
def acceptCode : Nat := 255

/-- The reduction with this number, counted from one. -/
def reduction? (n : Nat) : Option Action :=
  if n = acceptCode then some .accept else Reduction.table[n - 1]?.map .reduce

/-- The reductions of a row on a token. -/
def Row.reductions (r : Row) (t : Token) : List Action :=
  match r.reduces.find? fun group => t.mem group.1 with
  | some (_, numbers) => numbers.filterMap reduction?
  | none => []

/-- The move of a row on a token. -/
def Row.shift? (r : Row) (t : Token) : Option Shift :=
  r.shifts.find? fun s => s.token == t.code

/-- Whether a token can be met while skipping faulty input: there the ends of lines and the text of
    strings are not looked for. -/
def skippable : Token → Bool
  | .newline | .rawText | .stringText => false
  | _ => true

/-- What can be done on a token: reductions first, then the move. -/
def actions (s : State) (t : Token) : List Action :=
  if t = .comment then [.shiftExtra]
  else if s = faultState then (if skippable t then [.recover] else [])
  else
    let r := row s
    match r.shift? t with
    | some move => r.reductions t ++ [.shift move.target move.repeats]
    | none => r.reductions t

/-- Where a token leads, if it can be taken. A comment leads nowhere else. -/
def next? (s : State) (t : Token) : Option State :=
  if t = .comment then some s
  else if s = faultState then none
  else ((row s).shift? t).map Shift.target

/-- Where a phrase leads; a phrase that cannot stand here leads to the fault state. -/
def goto (s : State) (p : Phrase) : State := ((row s).gotos.lookup p.code).getD faultState

/-- Whether there is anything to do on a token. -/
def accepts (s : State) (t : Token) : Bool := !(actions s t).isEmpty

/-- Whether the first thing to do on a token is a reduction. -/
def reducesOn (s : State) (t : Token) : Bool :=
  match actions s t with
  | .reduce _ :: _ => true
  | _ => false

/-- The scanner mode of a state. -/
def mode (s : State) : Nat := (row s).mode

end SyscallGuard.Automaton
