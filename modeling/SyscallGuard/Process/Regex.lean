import SyscallGuard.Text.Bytes

set_option autoImplicit false

/-! # Regular expressions

The expressions that line editors and searches use, in their basic and their extended notation. They
are matched against bytes. Of the matches that start at the same byte the longest counts, and the
leftmost start wins. -/

namespace SyscallGuard

/-- A regular expression. -/
inductive Regex where
  | empty
  /-- A byte in one of some ranges, or in none of them. -/
  | set (ranges : List (UInt8 × UInt8)) (negated : Bool)
  | sequence (first second : Regex)
  | choice (first second : Regex)
  | repeated (body : Regex) (least : Nat) (most : Option Nat)
  | group (number : Nat) (body : Regex)
  /-- What a group has matched. -/
  | again (number : Nat)
  | lineStart
  | lineEnd
  /-- The start of a word, or its end, or either of them. -/
  | wordStart
  | wordEnd
  | wordEdge (negated : Bool)

namespace Regex

/-- A single byte. -/
def byte (b : UInt8) : Regex := set [(b, b)] false

/-- Any byte. -/
def any : Regex := set [] true

/-- Letters, digits and the underscore. -/
def wordRanges : List (UInt8 × UInt8) := [(48, 57), (65, 90), (95, 95), (97, 122)]

/-- White space. -/
def spaceRanges : List (UInt8 × UInt8) := [(9, 13), (32, 32)]

/-- Whether an expression has alternatives, so that the first match need not be the longest. -/
def hasChoice : Regex → Bool
  | choice .. => true
  | sequence a b => a.hasChoice || b.hasChoice
  | repeated a _ _ => a.hasChoice
  | group _ a => a.hasChoice
  | _ => false

/-! ## Matching -/

/-- A text to match. -/
structure Subject where
  bytes : Array UInt8
  /-- Whether capital and small letters count as the same. -/
  ignoreCase : Bool
  /-- Whether to look for the longest match instead of the first. -/
  longest : Bool
  /-- Whether the text starts at the start of a line. -/
  fromStart : Bool

/-- How far a match has got, with the ranges of the groups. -/
structure Match where
  position : Nat
  groups : List (Nat × Nat × Nat)

namespace Subject

/-- A capital letter becomes a small one. -/
def fold (b : UInt8) : UInt8 := if 65 ≤ b ∧ b ≤ 90 then b + 32 else b

/-- Whether a byte lies in one of some ranges. -/
def inRanges (ranges : List (UInt8 × UInt8)) (b : UInt8) : Bool :=
  ranges.any fun r => r.1 ≤ b && b ≤ r.2

/-- Whether a byte is in a set. -/
def accepts (s : Subject) (ranges : List (UInt8 × UInt8)) (negated : Bool) (b : UInt8) : Bool :=
  let found := inRanges ranges b
    || (s.ignoreCase && (inRanges ranges (fold b) || inRanges ranges (Bytes.upperByte b)))
  found != negated

/-- Whether a word goes on at a position. -/
def isWord (s : Subject) (position : Nat) : Bool :=
  match s.bytes[position]? with
  | some b => inRanges wordRanges b
  | none => false

/-- Whether a word goes on before a position. -/
def isWordBefore (s : Subject) (position : Nat) : Bool :=
  position != 0 && s.isWord (position - 1)

/-- The range of a text. -/
def slice (s : Subject) (start stop : Nat) : List UInt8 := (s.bytes.extract start stop).toList

/-- Chooses between two ways to match. -/
def pick (s : Subject) (first : Option Match) (second : Unit → Option Match) : Option Match :=
  match first with
  | none => second ()
  | some m =>
    if !s.longest then some m
    else match second () with
      | some n => if n.position > m.position then some n else some m
      | none => some m

/-- Matches at a position and goes on with `next`. -/
def attempt (s : Subject) : Nat → Regex → Match → (Match → Option Match) → Option Match
  | 0, _, _, _ => none
  | fuel + 1, r, m, next =>
    let here (holds : Bool) : Option Match := if holds then next m else none
    match r with
    | empty => next m
    | set ranges negated =>
      match s.bytes[m.position]? with
      | some b =>
        if s.accepts ranges negated b then next { m with position := m.position + 1 } else none
      | none => none
    | sequence a b => attempt s fuel a m fun m => attempt s fuel b m next
    | choice a b => s.pick (attempt s fuel a m next) fun _ => attempt s fuel b m next
    | repeated a least most =>
      if most = some 0 then next m
      else
        let more (_ : Unit) : Option Match :=
          attempt s fuel a m fun n =>
            if n.position = m.position ∧ least = 0 then none
            else attempt s fuel (repeated a (least - 1) (most.map (· - 1))) n next
        if least > 0 then more () else s.pick (more ()) fun _ => next m
    | group n a =>
      attempt s fuel a m fun e =>
        next { e with groups := (n, m.position, e.position) :: e.groups }
    | again n =>
      match m.groups.lookup n with
      | none => none
      | some (start, stop) =>
        let text := s.slice start stop
        if text.isPrefixOf (s.slice m.position (m.position + text.length)) then
          next { m with position := m.position + text.length }
        else none
    | lineStart => here (m.position == 0 && s.fromStart)
    | lineEnd => here (m.position == s.bytes.size)
    | wordStart => here (!s.isWordBefore m.position && s.isWord m.position)
    | wordEnd => here (s.isWordBefore m.position && !s.isWord m.position)
    | wordEdge negated => here ((s.isWordBefore m.position != s.isWord m.position) != negated)

/-- More steps than a match needs. -/
def stepLimit : Nat := 10000000

/-- The leftmost match from a position on, with the position where it starts. -/
def search (s : Subject) (r : Regex) : Nat → Nat → Option (Nat × Match)
  | 0, _ => none
  | count + 1, start =>
    match s.attempt stepLimit r ⟨start, []⟩ some with
    | some m => some (start, m)
    | none => search s r count (start + 1)

end Subject

/-- The leftmost match in some bytes from a position on. -/
def find? (r : Regex) (ignoreCase : Bool) (bytes : Bytes) (start : Nat) : Option (Nat × Match) :=
  let s : Subject := ⟨bytes.toArray, ignoreCase, r.hasChoice, true⟩
  s.search r (bytes.length + 1 - start) start

/-! ## Notation -/

/-- The classes that can be named between colons. -/
def classes : List (String × List (UInt8 × UInt8)) :=
  [("alnum", [(48, 57), (65, 90), (97, 122)]), ("alpha", [(65, 90), (97, 122)]),
    ("blank", [(9, 9), (32, 32)]), ("cntrl", [(0, 31), (127, 127)]), ("digit", [(48, 57)]),
    ("graph", [(33, 126)]), ("lower", [(97, 122)]), ("print", [(32, 126)]),
    ("punct", [(33, 47), (58, 64), (91, 96), (123, 126)]), ("space", [(9, 13), (32, 32)]),
    ("upper", [(65, 90)]), ("xdigit", [(48, 57), (65, 70), (97, 102)])]

/-- Why a text is no expression. -/
inductive Fault where
  | openGroup | strayClose | openBracket | openBraces | badBraces | badRange | badClass
  | badCollation | badReference | nothingToRepeat | tooBig | trailingBackslash | bareClass
  deriving DecidableEq

/-- The wording of a fault. -/
def Fault.describe : Fault → String
  | openGroup => "Unmatched ( or \\("
  | strayClose => "Unmatched ) or \\)"
  | openBracket => "Unmatched [, [^, [:, [., or [="
  | openBraces => "Unmatched \\\x7b"
  | badBraces => "Invalid content of \\\x7b\\\x7d"
  | badRange => "Invalid range end"
  | badClass => "Invalid character class name"
  | badCollation => "Invalid collation character"
  | badReference => "Invalid back reference"
  | nothingToRepeat => "Invalid preceding regular expression"
  | tooBig => "Regular expression too big"
  | trailingBackslash => "Trailing backslash"
  | bareClass => "character class syntax is [[:space:]], not [:space:]"

/-- One element between brackets: a byte, which may start or end a range, or a class. -/
inductive Element where
  | byte (b : UInt8)
  | class_ (ranges : List (UInt8 × UInt8))

/-- The text up to a sign with a closing bracket behind it, and what follows. -/
def symbol? (sign : UInt8) : Bytes → Option (Bytes × Bytes)
  | [] => none
  | [_] => none
  | a :: b :: rest =>
    if a = sign ∧ b = 93 then some ([], rest)
    else (symbol? sign (b :: rest)).map fun r => (a :: r.1, r.2)

/-- Reads one element. A minus sign that is not at an end of the brackets is only taken where
    `hyphen` allows it. -/
def element (hyphen : Bool) : Bytes → Except Fault (Element × Bytes)
  | [] => .error .openBracket
  | 91 :: 58 :: rest =>
    match symbol? 58 rest with
    | none => .error .openBracket
    | some (name, rest) =>
      match classes.find? fun c => Bytes.ofString c.1 == name with
      | some c => .ok (.class_ c.2, rest)
      | none => .error .badClass
  | 91 :: 46 :: rest =>
    match symbol? 46 rest with
    | none => .error .openBracket
    | some ([b], rest) => .ok (.byte b, rest)
    | some _ => .error .badCollation
  | 91 :: 61 :: rest =>
    match symbol? 61 rest with
    | none => .error .openBracket
    | some ([b], rest) => .ok (.class_ [(b, b)], rest)
    | some _ => .error .badCollation
  | 45 :: rest =>
    if hyphen ∨ rest.head? = some 93 then .ok (.byte 45, rest) else .error .badRange
  | b :: rest => .ok (.byte b, rest)

/-- Reads the members of a bracket expression up to the closing bracket. -/
def members (first : Bool) (ranges : List (UInt8 × UInt8)) :
    Nat → Bytes → Except Fault (List (UInt8 × UInt8) × Bytes)
  | 0, _ => .error .openBracket
  | fuel + 1, bytes =>
    if !first && bytes.head? == some 93 then .ok (ranges, bytes.drop 1)
    else
      match element first bytes with
      | .error e => .error e
      | .ok (.class_ more, rest) => members false (more ++ ranges) fuel rest
      | .ok (.byte a, rest) =>
        match rest with
        | 45 :: 93 :: _ => members false ((a, a) :: ranges) fuel rest
        | 45 :: rest =>
          match element true rest with
          | .error e => .error e
          | .ok (.class_ _, _) => .error .badRange
          | .ok (.byte b, rest) =>
            if b < a then .error .badRange else members false ((a, b) :: ranges) fuel rest
        | rest => members false ((a, a) :: ranges) fuel rest

/-- Whether the members are a name between colons, as only a class within brackets is written. -/
def isBareClass (inside : Bytes) : Bool :=
  inside.head? == some 58 && inside.getLast? == some 58 && inside.any (· != 58)
    && !List.contains inside 45 && !List.contains inside 91

/-- Reads a bracket expression behind its opening bracket. -/
def bracket (bytes : Bytes) : Except Fault (Regex × Bytes) :=
  let negated := bytes.head? == some 94
  let bytes := if negated then bytes.drop 1 else bytes
  match members true [] (bytes.length + 1) bytes with
  | .error e => .error e
  | .ok (ranges, rest) =>
    if isBareClass (bytes.take (bytes.length - rest.length - 1)) then .error .bareClass
    else .ok (set ranges negated, rest)

/-- A group under way: the finished alternatives and the parts of the current one, the last first.
    The whole expression is group zero. -/
structure Frame where
  number : Nat
  choices : List Regex
  parts : List Regex

namespace Frame

/-- The current alternative. -/
def current (f : Frame) : Regex :=
  match f.parts with
  | [] => empty
  | last :: before => before.foldl (fun r p => sequence p r) last

/-- The whole group. -/
def whole (f : Frame) : Regex := f.choices.foldl (fun r c => choice c r) f.current

/-- Adds a part. -/
def push (f : Frame) (r : Regex) : Frame := { f with parts := r :: f.parts }

/-- Starts the next alternative. -/
def next (f : Frame) : Frame := { f with choices := f.current :: f.choices, parts := [] }

/-- Whether the last part may be repeated. Places may not. -/
def isRepeatable (f : Frame) : Bool :=
  match f.parts with
  | [] | lineStart :: _ | lineEnd :: _ | wordStart :: _ | wordEnd :: _ | wordEdge _ :: _ => false
  | _ => true

/-- Whether the last part is repeated already. -/
def isRepeated (f : Frame) : Bool :=
  match f.parts with
  | repeated _ _ _ :: _ => true
  | _ => false

/-- Repeats the last part. -/
def repeatLast (f : Frame) (least : Nat) (most : Option Nat) : Frame :=
  match f.parts with
  | [] => f
  | last :: before => { f with parts := repeated last least most :: before }

end Frame

/-- A form of the notation. In the extended form the signs for groups and repetitions need no
    backslash; the strict form refuses a repetition of nothing. -/
structure Form where
  extended : Bool
  strict : Bool

/-- What stands between braces for a bound. -/
inductive Bound where
  | absent | malformed
  | count (n : Nat)

/-- The sign behind a bound. -/
inductive BoundEnd where
  | comma | close | missing
  deriving DecidableEq

/-- The largest number of repetitions that can be asked for. -/
def mostRepetitions : Nat := 32767

/-- A bound with one more byte. -/
def Bound.push (b : Bound) (c : UInt8) : Bound :=
  if 48 ≤ c ∧ c ≤ 57 then
    match b with
    | absent => count (c.toNat - 48)
    | count n => count (min (mostRepetitions + 1) (n * 10 + (c.toNat - 48)))
    | malformed => malformed
  else malformed

/-- Reads a bound up to the sign behind it. -/
def readBound (extended : Bool) (b : Bound) : Bytes → Bound × BoundEnd × Bytes
  | [] => (.malformed, .missing, [])
  | 44 :: rest => (b, .comma, rest)
  | 92 :: c :: rest =>
    if !extended && c == 125 then (b, .close, rest) else readBound extended .malformed rest
  | c :: rest =>
    if extended && c == 125 then (b, .close, rest) else readBound extended (b.push c) rest

/-- Reads the bounds of a repetition: the least count, the most, and what follows. Where the form is
    extended but not strict, a brace with anything else behind it is a brace and no more. -/
def bounds (form : Form) (bytes : Bytes) : Except Fault (Option (Nat × Option Nat × Bytes)) :=
  let malformed (e : BoundEnd) : Except Fault (Option (Nat × Option Nat × Bytes)) :=
    if form.extended && !form.strict then .ok none
    else .error (if e = .missing then .openBraces else .badBraces)
  let checked (least : Nat) (most : Option Nat) (rest : Bytes) :
      Except Fault (Option (Nat × Option Nat × Bytes)) :=
    if most.any (· < least) then .error .badBraces
    else if most.getD least > mostRepetitions then .error .tooBig
    else .ok (some (least, most, rest))
  let upTo (least : Nat) (rest : Bytes) : Except Fault (Option (Nat × Option Nat × Bytes)) :=
    match readBound form.extended .absent rest with
    | (.malformed, e, _) => malformed e
    | (.absent, .close, rest) => checked least none rest
    | (.count most, .close, rest) => checked least (some most) rest
    | _ => .error .badBraces
  match readBound form.extended .absent bytes with
  | (.malformed, e, _) => malformed e
  | (.absent, .comma, rest) => upTo 0 rest
  | (.count least, .comma, rest) => upTo least rest
  | (.count n, .close, rest) => checked n (some n) rest
  | _ => .error .badBraces

/-- What a sign stands for. -/
inductive Sign where
  | open_ | close | either | braces | star | plus | mark | caret | dollar | dot | bracket
  | literal (b : UInt8)
  | special (r : Regex)

/-- The sign behind a backslash. In the basic notation the backslash makes signs, in the extended
    one it takes their meaning away. -/
def escaped (extended : Bool) (b : UInt8) : Sign :=
  match b with
  | 40 => if extended then .literal b else .open_
  | 41 => if extended then .literal b else .close
  | 123 => if extended then .literal b else .braces
  | 124 => if extended then .literal b else .either
  | 43 => if extended then .literal b else .plus
  | 63 => if extended then .literal b else .mark
  | 119 => .special (set wordRanges false)
  | 87 => .special (set wordRanges true)
  | 115 => .special (set spaceRanges false)
  | 83 => .special (set spaceRanges true)
  | 98 => .special (wordEdge false)
  | 66 => .special (wordEdge true)
  | 60 => .special wordStart
  | 62 => .special wordEnd
  | 96 => .special lineStart
  | 39 => .special lineEnd
  | b => if 49 ≤ b ∧ b ≤ 57 then .special (again (b.toNat - 48)) else .literal b

/-- The sign that a byte is. -/
def plain (extended : Bool) (b : UInt8) : Sign :=
  match b with
  | 42 => .star
  | 46 => .dot
  | 91 => .bracket
  | 94 => .caret
  | 36 => .dollar
  | 40 => if extended then .open_ else .literal b
  | 41 => if extended then .close else .literal b
  | 123 => if extended then .braces else .literal b
  | 124 => if extended then .either else .literal b
  | 43 => if extended then .plus else .literal b
  | 63 => if extended then .mark else .literal b
  | b => .literal b

/-- Whether an expression or an alternative may end here. -/
def atEnd (extended : Bool) : Bytes → Bool
  | [] => true
  | 92 :: b :: _ => !extended && (b == 41 || b == 124)
  | b :: _ => extended && (b == 41 || b == 124)

/-- An expression under way: how many groups there have been, which of them are closed, the
    innermost open group and those around it. -/
structure Reading where
  count : Nat
  closed : List Nat
  frame : Frame
  outer : List Frame

namespace Reading

/-- Adds a part. -/
def push (r : Reading) (part : Regex) : Reading := { r with frame := r.frame.push part }

/-- Opens a group. -/
def open_ (r : Reading) : Reading :=
  { r with count := r.count + 1, frame := ⟨r.count + 1, [], []⟩, outer := r.frame :: r.outer }

/-- Closes the innermost group, if there is one. -/
def close? (r : Reading) : Option Reading :=
  match r.outer with
  | [] => none
  | parent :: outer =>
    some { r with
      closed := r.frame.number :: r.closed
      frame := parent.push (group r.frame.number r.frame.whole)
      outer := outer }

/-- Repeats the last part. What is done with a sign that has nothing to repeat is up to the form: it
    is refused, passed over, or stands for itself. -/
def repeat_ (form : Form) (r : Reading) (sign : UInt8) (least : Nat) (most : Option Nat) :
    Except Fault Reading :=
  if r.frame.isRepeatable then
    if form.strict && !form.extended && sign == 42 && r.frame.isRepeated then
      .error .nothingToRepeat
    else .ok { r with frame := r.frame.repeatLast least most }
  else if !form.extended then .ok (r.push (byte sign))
  else if form.strict then .error .nothingToRepeat
  else .ok r

/-- Repeats the last part as often as the bounds behind a brace say. -/
def repeatBounds (form : Form) (r : Reading) (rest : Bytes) : Except Fault (Reading × Bytes) :=
  if r.frame.isRepeatable && !(form.strict && !form.extended && r.frame.isRepeated) then
    match bounds form rest with
    | .error e => .error e
    | .ok none => .ok (r.push (byte 123), rest)
    | .ok (some (least, most, rest)) =>
      .ok ({ r with frame := r.frame.repeatLast least most }, rest)
  else if form.strict then .error .nothingToRepeat
  else if form.extended then .ok (r, rest)
  else .ok (r.push (byte 123), rest)

/-- Reads the part or the sign at the front. -/
def step (form : Form) (r : Reading) (b : UInt8) (rest : Bytes) : Except Fault (Reading × Bytes) :=
  let sign? : Option (Sign × Bytes) := match b, rest with
    | 92, e :: rest => some (escaped form.extended e, rest)
    | 92, [] => none
    | b, rest => some (plain form.extended b, rest)
  match sign? with
  | none => .error .trailingBackslash
  | some (sign, rest) =>
    match sign with
    | .literal c => .ok (r.push (byte c), rest)
    | .special (again n) =>
      if r.closed.contains n then .ok (r.push (again n), rest) else .error .badReference
    | .special part => .ok (r.push part, rest)
    | .dot => .ok (r.push any, rest)
    | .bracket => (bracket rest).map fun found => (r.push found.1, found.2)
    | .caret =>
      .ok (r.push (if form.extended || r.frame.parts.isEmpty then lineStart else byte 94), rest)
    | .dollar =>
      .ok (r.push (if form.extended || atEnd form.extended rest then lineEnd else byte 36), rest)
    | .open_ => .ok (r.open_, rest)
    | .close =>
      match r.close? with
      | some r => .ok (r, rest)
      | none =>
        if form.extended && !form.strict then .ok (r.push (byte 41), rest) else .error .strayClose
    | .either => .ok ({ r with frame := r.frame.next }, rest)
    | .star => (r.repeat_ form 42 0 none).map (·, rest)
    | .plus => (r.repeat_ form 43 1 none).map (·, rest)
    | .mark => (r.repeat_ form 63 0 (some 1)).map (·, rest)
    | .braces => r.repeatBounds form rest

/-- Reads an expression to its end. -/
def finish (form : Form) : Nat → Reading → Bytes → Except Fault Regex
  | 0, _, _ => .error .tooBig
  | fuel + 1, r, bytes =>
    match bytes with
    | [] => if r.outer.isEmpty then .ok r.frame.whole else .error .openGroup
    | b :: rest =>
      match r.step form b rest with
      | .error e => .error e
      | .ok (r, rest) => finish form fuel r rest

end Reading

/-- Reads an expression. -/
def ofBytes (form : Form) (bytes : Bytes) : Except Fault Regex :=
  Reading.finish form (bytes.length + 1) ⟨0, [], ⟨0, [], []⟩, []⟩ bytes

/-- The expression for some bytes as they are. -/
def literal (bytes : Bytes) : Regex := bytes.foldr (fun b r => sequence (byte b) r) empty

end Regex

end SyscallGuard
