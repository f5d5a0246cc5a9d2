import SyscallGuard.Process.Options
import SyscallGuard.Process.Regex
import SyscallGuard.Process.Utility.Print

set_option autoImplicit false

/-! # Commands of the stream editor

The stream editor runs a list of commands on every line of its input. A command has a selector, which
says for which lines it is meant. Blocks are kept as pairs of commands, the first of which knows where
the second one stands, so that a list of commands is flat. -/

namespace SyscallGuard.Editor

/-- A regular expression in a command; the empty one stands for the last one that was used. -/
structure Search where
  regex : Option Regex
  ignoreCase : Bool

/-- What a line is recognised by. -/
inductive Address where
  | line (n : Nat)
  | last
  | found (s : Search)

/-- The lines that a command is meant for. -/
structure Selector where
  first : Option Address := none
  last : Option Address := none
  negated : Bool := false

/-- A piece of a replacement. -/
inductive Piece where
  | text (b : Bytes)
  /-- What a group has matched; the group zero is all of the match. -/
  | group (n : Nat)

/-- A replacement of matches. -/
structure Substitution where
  search : Search
  pieces : List Piece
  /-- Which match is the first to be replaced. -/
  from_ : Nat
  /-- Whether all matches from there on are replaced. -/
  all : Bool
  print : Bool

/-- What a command does. -/
inductive Action where
  /-- The start of a block, with the index of its end. -/
  | block (stop : Nat)
  | blockEnd
  | substitute (s : Substitution)
  | exchange (old new : Bytes)
  | delete | print | printNumber
  | next | appendNext
  | hold | holdAppend | fetch | fetchAppend | swap
  | append (text : Bytes) | insert (text : Bytes) | change (text : Bytes)
  | quit (status : Nat)

/-- A command of the editor. -/
structure Command where
  selector : Selector
  action : Action

/-! ## Reading commands -/

/-- What is left to read, with failures at that place. -/
abbrev Reader := ExceptT String (StateM Bytes)

namespace Reader

/-- The next byte, which stays. -/
def glance : Reader (Option UInt8) := return (← get).head?

/-- The next byte. -/
def next : Reader (Option UInt8) := do
  let rest ← get
  set (rest.drop 1)
  return rest.head?

/-- Takes bytes as long as a test holds. -/
def takeWhile (test : UInt8 → Bool) : Reader Bytes := do
  let rest ← get
  let taken := rest.takeWhile test
  set (rest.drop taken.length)
  return taken

/-- Passes over blanks. -/
def blanks : Reader Unit := do let _ ← takeWhile Bytes.isIndent

/-- Passes over white space. -/
def spaces : Reader Unit := do let _ ← takeWhile Bytes.isSpace

/-- A number. -/
def number? : Reader (Option Nat) := return Bytes.toNat? (← takeWhile fun b => 48 ≤ b && b ≤ 57)

end Reader

/-- What follows a set in brackets, if the set is closed. A bracket with a point, a colon or an equals
    sign behind it opens a name, which ends with the same two signs. -/
def behindSet? : Nat → Bytes → Option Bytes
  | 0, _ => none
  | _ + 1, [] => none
  | fuel + 1, 91 :: c :: rest =>
    if c = 46 ∨ c = 58 ∨ c = 61 then
      match Regex.symbol? c rest with
      | some (_, rest) => behindSet? fuel rest
      | none => none
    else behindSet? fuel (c :: rest)
  | fuel + 1, b :: rest => if b = 93 then some rest else behindSet? fuel rest

/-- Splits behind a set in brackets, if the set is closed. -/
def bracketed? (rest : Bytes) : Option (Bytes × Bytes) :=
  let start := if rest.head? == some 94 then 1 else 0
  let start := if (rest.drop start).head? == some 93 then start + 1 else start
  (behindSet? (rest.length + 1) (rest.drop start)).map fun behind =>
    (rest.take (rest.length - behind.length), behind)

/-- The text up to a delimiter. A backslash in front of the delimiter is dropped; in an expression
    the delimiter loses its meaning between brackets. -/
def delimited? (delimiter : UInt8) (expression : Bool) : Nat → Bytes → Bytes → Option (Bytes × Bytes)
  | 0, _, _ => none
  | _ + 1, _, [] => none
  | fuel + 1, taken, b :: rest =>
    if b = delimiter then some (taken.reverse, rest)
    else if b = 92 then
      match rest with
      | [] => none
      | c :: rest =>
        if c = delimiter then delimited? delimiter expression fuel (c :: taken) rest
        else delimited? delimiter expression fuel (c :: 92 :: taken) rest
    else if b = 10 then none
    else if expression && b == 91 then
      match bracketed? rest with
      | none => none
      | some (set, rest) => delimited? delimiter expression fuel (set.reverse ++ b :: taken) rest
    else delimited? delimiter expression fuel (b :: taken) rest

/-- Takes the text up to a delimiter. -/
def delimited (delimiter : UInt8) (expression : Bool) (fault : String) : Reader Bytes := do
  let rest ← get
  match delimited? delimiter expression (rest.length + 1) [] rest with
  | some (text, rest) =>
    set rest
    return text
  | none =>
    set (rest.dropWhile fun b => b != 10)
    throw fault

/-- An expression with escapes for bytes put in. -/
def unescaped : Bytes → Bytes
  | [] => []
  | 92 :: 102 :: rest => 12 :: unescaped rest
  | 92 :: 114 :: rest => 13 :: unescaped rest
  | 92 :: 116 :: rest => 9 :: unescaped rest
  | 92 :: 118 :: rest => 11 :: unescaped rest
  | 92 :: 97 :: rest => 7 :: unescaped rest
  | 92 :: 110 :: rest => 10 :: unescaped rest
  | 92 :: b :: rest => 92 :: b :: unescaped rest
  | b :: rest => b :: unescaped rest

/-- The expression that a text is. -/
def search (extended : Bool) (text : Bytes) (ignoreCase : Bool) : Reader Search := do
  if text.isEmpty then return ⟨none, ignoreCase⟩
  else match Regex.ofBytes ⟨extended, true⟩ (unescaped text) with
    | .ok r => return ⟨some r, ignoreCase⟩
    | .error e => throw e.describe

/-- The pieces of a replacement. -/
def pieces : Nat → Bytes → List Piece
  | 0, _ => []
  | _ + 1, [] => []
  | fuel + 1, 38 :: rest => .group 0 :: pieces fuel rest
  | fuel + 1, 92 :: b :: rest =>
    if 48 ≤ b ∧ b ≤ 57 then .group (b.toNat - 48) :: pieces fuel rest
    else match Char.ofNat b.toNat with
      | 'n' => .text [10] :: pieces fuel rest
      | 't' => .text [9] :: pieces fuel rest
      | 'r' => .text [13] :: pieces fuel rest
      | 'f' => .text [12] :: pieces fuel rest
      | 'v' => .text [11] :: pieces fuel rest
      | 'a' => .text [7] :: pieces fuel rest
      | _ => .text [b] :: pieces fuel rest
  | fuel + 1, b :: rest => .text [b] :: pieces fuel rest

/-- The number of groups in an expression. -/
def groupCount : Regex → Nat
  | .group _ r => groupCount r + 1
  | .sequence a b | .choice a b => groupCount a + groupCount b
  | .repeated a _ _ => groupCount a
  | _ => 0

/-- What stands behind a replacement. -/
structure SubstitutionFlags where
  all : Bool := false
  print : Bool := false
  ignoreCase : Bool := false
  number : Option Nat := none

/-- Reads what stands behind a replacement. -/
def flags : Nat → SubstitutionFlags → Reader SubstitutionFlags
  | 0, f => return f
  | fuel + 1, f => do
    match ← Reader.glance with
    | none => return f
    | some b =>
      match Char.ofNat b.toNat with
      | '}' | '#' => return f
      | ';' | '\n' =>
        let _ ← Reader.next
        return f
      | ' ' | '\t' | 'm' | 'M' =>
        let _ ← Reader.next
        flags fuel f
      | 'g' =>
        let _ ← Reader.next
        if f.all then throw "multiple `g' options to `s' command"
        flags fuel { f with all := true }
      | 'p' =>
        let _ ← Reader.next
        if f.print then throw "multiple `p' options to `s' command"
        flags fuel { f with print := true }
      | 'i' | 'I' =>
        let _ ← Reader.next
        flags fuel { f with ignoreCase := true }
      | _ =>
        match ← Reader.number? with
        | some n =>
          if f.number.isSome then throw "multiple number options to `s' command"
          else if n = 0 then throw "number option to `s' command may not be zero"
          else flags fuel { f with number := some n }
        | none =>
          let _ ← Reader.next
          throw "unknown option to `s'"

/-- Reads a replacement. -/
def substitution (extended : Bool) : Reader Action := do
  let fault := "unterminated `s' command"
  match ← Reader.next with
  | none => throw fault
  | some delimiter =>
    let pattern ← delimited delimiter true fault
    let replacement ← delimited delimiter false fault
    let f ← flags (replacement.length + (← get).length + 1) {}
    let s ← search extended pattern f.ignoreCase
    let found := pieces (replacement.length + 1) replacement
    let most := found.foldl (fun most p => match p with
      | .group n => max most n
      | _ => most) 0
    match s.regex with
    | some r =>
      if most > groupCount r then
        throw ("invalid reference \\" ++ toString most ++ " on `s' command's RHS")
    | none => pure ()
    return .substitute ⟨s, found, f.number.getD 1, f.all, f.print⟩

/-- A text for an exchange of bytes. -/
def exchangeText : Bytes → Bytes
  | 92 :: 110 :: rest => 10 :: exchangeText rest
  | 92 :: 116 :: rest => 9 :: exchangeText rest
  | 92 :: b :: rest => b :: exchangeText rest
  | b :: rest => b :: exchangeText rest
  | [] => []

/-- The text of a command that adds lines: it goes on behind a backslash at the end of a line. -/
def lineText : Nat → Bytes → Bytes → Bytes × Bytes
  | 0, taken, rest => (taken.reverse, rest)
  | _ + 1, taken, [] => (taken.reverse, [])
  | fuel + 1, taken, 92 :: b :: rest =>
    let c := match b with
      | 116 => 9
      | 110 => 10
      | 114 => 13
      | 102 => 12
      | 118 => 11
      | 97 => 7
      | b => b
    lineText fuel (c :: taken) rest
  | _ + 1, taken, [92] => (taken.reverse, [])
  | fuel + 1, taken, b :: rest =>
    if b = 10 then (taken.reverse, rest) else lineText fuel (b :: taken) rest

/-- Reads the text of a command that adds lines. -/
def addedText : Reader Bytes := do
  Reader.blanks
  let rest ← get
  match rest with
  | [] => throw "expected \\ after `a', `c' or `i'"
  | 92 :: behind =>
    let text := behind.dropWhile Bytes.isIndent
    let start := match text with
      | 10 :: text => text
      | _ => behind
    if start.isEmpty then
      set start
      return []
    else
      let (taken, rest) := match start with
        | b :: more =>
          let (taken, rest) := lineText (start.length + 1) [] more
          if b = 92 ∨ b = 10 then lineText (start.length + 1) [] start else (b :: taken, rest)
        | [] => ([], [])
      set rest
      return taken ++ [10]
  | text =>
    let (taken, rest) := lineText (text.length + 1) [] text
    set rest
    return taken ++ [10]

/-- Passes over the end of a command. -/
def commandEnd : Reader Unit := do
  Reader.blanks
  match ← Reader.glance with
  | none => return
  | some b =>
    if b = 125 ∨ b = 35 then return
    else
      let _ ← Reader.next
      if b = 10 ∨ b = 59 then return else throw "extra characters after command"

/-- Reads an expression for an address. -/
def addressSearch (extended : Bool) (delimiter : UInt8) : Reader Address := do
  let text ← delimited delimiter true "unterminated address regex"
  Reader.blanks
  let marks ← Reader.takeWhile fun b => b == 73 || b == 77
  return .found (← search extended text (List.contains marks 73))

/-- Reads an address. -/
def address? (extended : Bool) : Reader (Option Address) := do
  match ← Reader.glance with
  | some 36 =>
    let _ ← Reader.next
    return some .last
  | some 47 =>
    let _ ← Reader.next
    return some (← addressSearch extended 47)
  | some 92 =>
    let _ ← Reader.next
    match ← Reader.next with
    | some delimiter => return some (← addressSearch extended delimiter)
    | none => throw "unterminated address regex"
  | _ => return (← Reader.number?).map Address.line

/-- Reads the end of a range. -/
def rangeEnd (extended : Bool) : Reader Address := do
  Reader.blanks
  match ← address? extended with
  | some a => return a
  | none =>
    let _ ← Reader.next
    throw "unexpected `,'"

/-- Reads the lines that a command is meant for. -/
def selector (extended : Bool) : Reader Selector := do
  let first ← address? extended
  Reader.blanks
  let last ← match first, ← Reader.glance with
    | some _, some 44 => do
      let _ ← Reader.next
      pure (some (← rangeEnd extended))
    | _, _ => pure none
  Reader.blanks
  if (← Reader.glance) = some 33 then
    let _ ← Reader.next
    Reader.spaces
    if (← Reader.glance) = some 33 then
      let _ ← Reader.next
      throw "multiple `!'s"
    return ⟨first, last, true⟩
  else return ⟨first, last, false⟩

/-- The actions without anything behind their letter. -/
def plainAction? : Char → Option Action
  | '=' => some .printNumber
  | 'd' => some .delete
  | 'g' => some .fetch
  | 'G' => some .fetchAppend
  | 'h' => some .hold
  | 'H' => some .holdAppend
  | 'n' => some .next
  | 'N' => some .appendNext
  | 'p' => some .print
  | 'x' => some .swap
  | _ => none

/-- Reads what a command does. -/
def action (extended : Bool) (s : Selector) (letter : Char) : Reader Action := do
  match plainAction? letter with
  | some a =>
    commandEnd
    return a
  | none =>
    match letter with
    | 'q' =>
      if s.last.isSome then throw "command only uses one address"
      Reader.blanks
      let status := (← Reader.number?).getD 0
      commandEnd
      return .quit status
    | 'a' => return .append (← addedText)
    | 'i' => return .insert (← addedText)
    | 'c' => return .change (← addedText)
    | 's' => substitution extended
    | 'y' =>
      match ← Reader.next with
      | none => throw "unterminated `y' command"
      | some delimiter =>
        let old ← delimited delimiter false "unterminated `y' command"
        let new ← delimited delimiter false "unterminated `y' command"
        let (old, new) := (exchangeText old, exchangeText new)
        if old.length ≠ new.length then throw "strings for `y' command are different lengths"
        commandEnd
        return .exchange old new
    | c => throw ("unknown command: `" ++ String.singleton c ++ "'")

/-- Whether the line zero is used where it cannot be. -/
def Selector.misusesZero (s : Selector) : Bool :=
  match s.first, s.last with
  | some (.line 0), some (.found _) => false
  | some (.line 0), _ => true
  | _, _ => false

/-- Reads commands, given the ones read so far and the indexes of the open blocks. -/
def commands (extended : Bool) : Nat → Array Command → List Nat → Reader (Array Command)
  | 0, done, _ => return done
  | fuel + 1, done, blocks => do
    let _ ← Reader.takeWhile fun b => Bytes.isSpace b || b == 59
    match ← Reader.glance with
    | none => if blocks.isEmpty then return done else throw ""
    | some 35 =>
      let _ ← Reader.takeWhile fun b => b != 10
      commands extended fuel done blocks
    | some _ =>
      let s ← selector extended
      Reader.blanks
      match ← Reader.next with
      | none => throw "missing command"
      | some b =>
        if s.misusesZero then throw "invalid usage of line address 0"
        match Char.ofNat b.toNat with
        | '{' => commands extended fuel (done.push ⟨s, .block 0⟩) (done.size :: blocks)
        | '}' =>
          match blocks with
          | [] => throw "unexpected `\x7d'"
          | start :: blocks =>
            if s.first.isSome then throw "\x7d doesn't want any addresses"
            commandEnd
            let done := done.modify start fun c => { c with action := .block done.size }
            commands extended fuel (done.push ⟨s, .blockEnd⟩) blocks
        | c =>
          let a ← action extended s c
          commands extended fuel (done.push ⟨s, a⟩) blocks

end SyscallGuard.Editor
