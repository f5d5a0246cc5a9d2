import SyscallGuard.Grammar.Automaton
import SyscallGuard.Grammar.Rival
import SyscallGuard.Scan.Input
import SyscallGuard.Scan.Mode
import SyscallGuard.Text.Utf8

set_option autoImplicit false

/-! # Lexemes

`scan` finds the next token of a mode: it skips white space, unless the white space can itself be
part of a token, and then takes the longest match. `Lexeme.next` is the scanner as the parser sees
it: the mode follows from the state, a name that is a keyword here becomes the keyword, and input
that is no token at all becomes a lexeme without a token. A `Reading` is a lexeme that may serve a
parser in another state as well. -/

namespace SyscallGuard

/-! ## Characters of the source -/

/-- The character at the front and its length; a byte outside of every character stands alone. -/
def frontChar (bytes : Bytes) : Nat × Nat := (Utf8.scalar? bytes).getD (Chars.illFormed, 1)

/-- Space, tab, line feed, vertical tab, form feed or carriage return. -/
def isWhite (c : Nat) : Bool := c == 32 || (9 ≤ c && c ≤ 13)

/-- The mark that may stand at the very start of a source. -/
def byteOrderMark : Nat := 0xFEFF

/-! ## Scanning -/

/-- The outcome of a scan: a token with its range, or none; and how far the scan looked. -/
structure Scan where
  token : Option Token
  start : Nat
  stop : Nat
  reached : Nat

/-- The rules that can go on after a character. -/
def advanceRules (c : Nat) (rules : List Rule) : List Rule :=
  rules.filterMap fun r =>
    let rest := r.shape.after c
    if rest.isNever then none else some ⟨r.token, rest⟩

/-- The first rule that is complete. -/
def completed (rules : List Rule) : Option Token :=
  (rules.find? fun r => r.shape.acceptsEmpty).map Rule.token

/-- Reads on while some rule can go on, and remembers the last complete match. Once the text of a
    string is complete only that text can go on. -/
def munch : Nat → Bytes → List Rule → Nat → Nat → Scan → Scan
  | 0, _, _, _, _, found => found
  | fuel + 1, bytes, rules, start, offset, found =>
    let found := match completed rules with
      | some t => ⟨some t, start, offset, offset⟩
      | none => { found with reached := offset }
    let rules := match completed rules with
      | some t => if t.isText then rules.filter fun r => r.token.isText else rules
      | none => rules
    match bytes with
    | [] => found
    | _ :: _ =>
      let (c, size) := frontChar bytes
      let rules := advanceRules c rules
      if rules.isEmpty then found
      else munch fuel (bytes.drop size) rules start (offset + size) found

/-- Skips white space and then reads a token. The pieces of a string are looked for only where no
    white space has been skipped. -/
def skipAndMunch : Nat → RuleSet → Bytes → Nat → Scan
  | 0, _, _, offset => ⟨none, offset, offset, offset⟩
  | fuel + 1, set, bytes, offset =>
    if (completed set.rules).isSome then
      munch (fuel + 1) bytes set.rules offset offset ⟨none, offset, offset, offset⟩
    else match bytes with
      | [] => match set.atEnd with
        | some t => ⟨some t, offset, offset, offset⟩
        | none => ⟨none, offset, offset, offset⟩
      | _ :: _ =>
        let (c, size) := frontChar bytes
        if (advanceRules c set.rules).isEmpty then
          if isWhite c then
            let set := { set with rules := set.rules.filter fun r => !r.token.isGlued }
            skipAndMunch fuel set (bytes.drop size) (offset + size)
          else ⟨none, offset, offset, offset⟩
        else munch (fuel + 1) bytes set.rules offset offset ⟨none, offset, offset, offset⟩

/-- Looks for a token of a mode from an offset on. -/
def scan (source : Input) (mode : Nat) (offset : Nat) : Scan :=
  let bytes := source.drop offset
  let set := RuleSet.ofMode mode
  if offset = 0 ∧ (Utf8.scalar? bytes).map Prod.fst = some byteOrderMark then
    skipAndMunch (source.length + 1 - offset) set (bytes.drop 3) 3
  else skipAndMunch (source.length + 1 - offset) set bytes offset

/-! ## Lexemes -/

/-- A stretch of the source: white space from `lead` on, then the token from `start` to `stop`.
    Without a token it is input that no token starts with. -/
structure Lexeme where
  token : Option Token
  lead : Nat
  start : Nat
  stop : Nat
  /-- Whether the lexeme is spelled like a keyword. -/
  isWord : Bool
deriving DecidableEq

namespace Lexeme

/-- Skips input until a token can be found; returns where the skipped input ends. -/
def skipUnknown (source : Input) : Nat → Nat → Nat → Nat
  | 0, _, stop => stop
  | fuel + 1, reached, stop =>
    let stop :=
      if reached = stop then stop + (frontChar (source.drop stop)).2 else reached
    let again := scan source (Automaton.mode Automaton.faultState) stop
    match again.token with
    | some _ => stop
    | none => skipUnknown source fuel again.reached stop

/-- A name becomes a keyword where the keyword is allowed. -/
def classify (source : Input) (s : Automaton.State) (lead : Nat) (found : Token) (start stop : Nat) :
    Lexeme :=
  if found = .identifier then
    match Token.keyword? (source.slice start stop) with
    | some word =>
      let token := if Automaton.accepts s word then word else .identifier
      ⟨some token, lead, start, stop, true⟩
    | none => ⟨some found, lead, start, stop, false⟩
  else ⟨some found, lead, start, stop, false⟩

/-- The next lexeme for a parser in state `s` at an offset. -/
def next (source : Input) (s : Automaton.State) (offset : Nat) : Lexeme :=
  let first := scan source (Automaton.mode s) offset
  match first.token with
  | some t => classify source s offset t first.start first.stop
  | none =>
    let second := scan source (Automaton.mode Automaton.faultState) offset
    match second.token with
    | some t => classify source s offset t second.start second.stop
    | none =>
      let stop := skipUnknown source (source.length + 1) second.reached second.start
      ⟨none, offset, second.start, stop, false⟩

end Lexeme

/-! ## Readings -/

/-- A lexeme with the state for which it was read. -/
structure Reading where
  lexeme : Lexeme
  state : Automaton.State

namespace Reading

/-- Reads the next lexeme for a parser in state `s` at an offset. -/
def next (source : Input) (s : Automaton.State) (offset : Nat) : Reading :=
  ⟨Lexeme.next source s offset, s⟩

/-- Whether a token of this lexeme would be read in state `s` as well, because the scanner is in the
    same mode. A name is trusted only in its own state, for it could be a keyword elsewhere. -/
def sharesMode (r : Reading) (s : Automaton.State) (t : Token) : Bool :=
  Automaton.mode s == Automaton.mode r.state
    && (t != .identifier || (!r.lexeme.isWord && r.state == s))

/-- Whether a token of this lexeme would be read in state `s` as well, because none of its rivals is
    looked for there. In faulty input only comments are that certain. -/
def isUnrivalled (r : Reading) (s : Automaton.State) (t : Token) : Bool :=
  (r.lexeme.start < r.lexeme.stop || t == .eof)
    && (s != Automaton.faultState || t == .comment)
    && !t.rivals.any (Automaton.accepts s)

/-- Whether a parser in state `s` at an offset can take the lexeme over. -/
def serves (r : Reading) (s : Automaton.State) (offset : Nat) : Bool :=
  match r.lexeme.token with
  | none => false
  | some t =>
    r.lexeme.lead == offset && Automaton.accepts s t && (r.sharesMode s t || r.isUnrivalled s t)

end Reading

end SyscallGuard
