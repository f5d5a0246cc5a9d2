import SyscallGuard.Text.Alphanumeric
import SyscallGuard.Text.Blank

set_option autoImplicit false

/-! # Patterns for values

A filter can ask for the value of a field by a regular expression. Nothing is ever matched against
it here, but it has to be well formed, and it has to be one that an automaton can decide. An
expression never holds a closing brace, because that ends the field; so an opening brace, which
would start a count or a name in braces, is always wrong outside of brackets. -/

namespace SyscallGuard

/-- What is wrong with a pattern. -/
inductive PatternError where
  | malformed
  /-- It asks for the boundary of a word of any script, which takes more than an automaton. -/
  | wordBoundary
deriving DecidableEq

namespace ValuePattern

/-! ## Escapes -/

/-- What an escape stands for. -/
inductive Escape where
  | character (code : Nat)
  /-- A class of characters. -/
  | characters
  /-- A place instead of a character; `word` if it is the boundary of a word. -/
  | place (word : Bool)

/-- The value of a hexadecimal digit. -/
def hexDigit? (c : Char) : Option Nat :=
  if '0' ≤ c ∧ c ≤ '9' then some (c.toNat - 48)
  else if 'a' ≤ c ∧ c ≤ 'f' then some (c.toNat - 87)
  else if 'A' ≤ c ∧ c ≤ 'F' then some (c.toNat - 55)
  else none

/-- The number of some hexadecimal digits. -/
def hex? (digits : List Char) : Option Nat :=
  digits.foldl (fun n c => n.bind fun n => (hexDigit? c).map (n * 16 + ·)) (some 0)

/-- The character whose number is written with a fixed count of digits. -/
def numbered? (count : Nat) (unicode : Bool) (rest : List Char) : Option (Escape × List Char) :=
  if rest.length < count then none
  else match hex? (rest.take count) with
    | none => none
    | some n =>
      if n > 0x10FFFF ∨ (0xD800 ≤ n ∧ n < 0xE000) ∨ (!unicode ∧ count = 2 ∧ n > 0x7F) then none
      else some (.character n, rest.drop count)

/-- The letters that name a category of characters. -/
def categories : List Char := ['c', 'l', 'm', 'n', 'p', 's', 'z', 'C', 'L', 'M', 'N', 'P', 'S', 'Z']

/-- Reads what follows a backslash. -/
def escape? (unicode : Bool) : List Char → Option (Escape × List Char)
  | [] => none
  | c :: rest =>
    match c with
    | 'x' => numbered? 2 unicode rest
    | 'u' => numbered? 4 unicode rest
    | 'U' => numbered? 8 unicode rest
    | 'p' | 'P' =>
      match rest with
      | [] => none
      | name :: rest => if unicode && categories.contains name then some (.characters, rest) else none
    | 'd' | 's' | 'w' => some (.characters, rest)
    | 'D' | 'S' | 'W' => if unicode then some (.characters, rest) else none
    | 'b' | 'B' | '<' | '>' => some (.place true, rest)
    | 'A' | 'z' => some (.place false, rest)
    | 'a' => some (.character 7, rest)
    | 'f' => some (.character 12, rest)
    | 't' => some (.character 9, rest)
    | 'n' => some (.character 10, rest)
    | 'r' => some (.character 13, rest)
    | 'v' => some (.character 11, rest)
    | c => if c.toNat < 128 && !c.isAlphanum then some (.character c.toNat, rest) else none

/-! ## Brackets -/

/-- The names of classes that can stand between colons. -/
def classNames : List String :=
  ["alnum", "alpha", "ascii", "blank", "cntrl", "digit", "graph", "lower", "print", "punct", "space",
    "upper", "word", "xdigit"]

/-- What follows a named class in brackets and colons, if there is one at the front. -/
def behindNamed? : List Char → Option (List Char)
  | '[' :: ':' :: rest =>
    let rest := if rest.head? == some '^' then rest.drop 1 else rest
    let name := rest.takeWhile fun c => c != ':'
    match rest.drop name.length with
    | ':' :: ']' :: behind =>
      if classNames.contains (String.ofList name) then some behind else none
    | _ => none
  | _ => none

/-- Reads the white space that counts for nothing. -/
def skipSpace (extended : Bool) (chars : List Char) : List Char :=
  if extended then chars.dropWhile Blank.isBlank else chars

/-- Reads a member of a class: a character, or an escape that is no place. -/
def member? (unicode : Bool) : List Char → Option (Escape × List Char)
  | [] => none
  | '\\' :: rest =>
    match escape? unicode rest with
    | some (.place _, _) => none
    | other => other
  | c :: rest => if unicode || c.toNat < 128 then some (.character c.toNat, rest) else none

/-- Reads the start of a class behind its opening bracket: the sign for the opposite, and dashes or
    a closing bracket that stand for themselves. -/
def opened? (unicode : Bool) (chars : List Char) : Option (List Char) :=
  if chars.head? == some '^' && !unicode then none
  else
    let chars := if chars.head? == some '^' then chars.drop 1 else chars
    let rest := chars.dropWhile fun c => c == '-'
    some (if rest.length == chars.length && rest.head? == some ']' then rest.drop 1 else rest)

/-- Reads a class to its end, given how many are open. -/
def class? (extended unicode : Bool) : Nat → Nat → List Char → Option (List Char)
  | 0, _, _ => none
  | fuel + 1, depth, chars =>
    match skipSpace extended chars with
    | [] => none
    | ']' :: rest => if depth = 1 then some rest else class? extended unicode fuel (depth - 1) rest
    | '[' :: rest =>
      match behindNamed? ('[' :: rest) with
      | some rest => class? extended unicode fuel depth rest
      | none => (opened? unicode rest).bind (class? extended unicode fuel (depth + 1))
    | '&' :: '&' :: rest | '-' :: '-' :: rest | '~' :: '~' :: rest =>
      class? extended unicode fuel depth rest
    | chars =>
      match member? unicode chars with
      | none => none
      | some (low, rest) =>
        match skipSpace extended rest with
        | '-' :: rest =>
          match skipSpace extended rest with
          | ']' :: _ | '-' :: _ => class? extended unicode fuel depth ('-' :: rest)
          | rest =>
            match low, member? unicode rest with
            | .character a, some (.character b, rest) =>
              if a ≤ b then class? extended unicode fuel depth rest else none
            | _, _ => none
        | rest => class? extended unicode fuel depth rest

/-! ## Groups -/

/-- The switches that a group can set. -/
def switches : List Char := ['i', 'm', 's', 'U', 'u', 'R', 'x']

/-- Reads switches up to a colon or a closing bracket: those to turn on, those to turn off, and
    what follows. -/
def switches? (on off : List Char) (negated dangling : Bool) :
    List Char → Option (List Char × List Char × List Char)
  | [] => none
  | c :: rest =>
    if c = ':' ∨ c = ')' then if dangling then none else some (on, off, c :: rest)
    else if c = '-' then if negated then none else switches? on off true true rest
    else if !switches.contains c || on.contains c || off.contains c then none
    else if negated then switches? on (c :: off) negated false rest
    else switches? (c :: on) off negated false rest

/-- The value of a switch that may have been set. -/
def switched (switch : Char) (on off : List Char) (before : Bool) : Bool :=
  if on.contains switch then true else if off.contains switch then false else before

/-- Whether a name for a group is well formed. -/
def isName : List Char → Bool
  | [] => false
  | first :: rest =>
    (first == '_' || Alphanumeric.isLetter first)
      && rest.all fun c => ['_', '.', '[', ']'].contains c || Alphanumeric.isAlphanumeric c

/-! ## Expressions -/

/-- How far an expression has been read. -/
structure Progress where
  /-- Whether white space and remarks count for nothing. -/
  extended : Bool := false
  /-- Whether characters of every script are meant, or only the first 128. -/
  unicode : Bool := true
  /-- The switches to go back to at the end of each open group. -/
  groups : List (Bool × Bool) := []
  names : List (List Char) := []
  /-- Whether there is something to repeat. -/
  repeatable : Bool := false
  /-- Whether the boundary of a word of any script was asked for. -/
  boundary : Bool := false

namespace Progress

/-- Opens a group. -/
def enter (p : Progress) : Progress :=
  { p with groups := (p.extended, p.unicode) :: p.groups, repeatable := false }

/-- Reads what follows an opening parenthesis. -/
def opened? (p : Progress) (chars : List Char) : Option (Progress × List Char) :=
  let named (rest : List Char) : Option (Progress × List Char) :=
    let name := rest.takeWhile fun c => c != '>'
    if rest.length = name.length || !isName name || p.names.contains name then none
    else some ({ p.enter with names := name :: p.names }, rest.drop (name.length + 1))
  match skipSpace p.extended chars with
  | '?' :: '!' :: _ | '?' :: '<' :: '!' :: _ => none
  | '?' :: 'P' :: '<' :: rest | '?' :: '<' :: rest => named rest
  | '?' :: rest =>
    match switches? [] [] false false rest with
    | none => none
    | some (on, off, behind) =>
      let extended := switched 'x' on off p.extended
      let unicode := switched 'u' on off p.unicode
      match behind with
      | ')' :: behind =>
        if on.isEmpty && off.isEmpty then none
        else
          some ({ p with extended := extended, unicode := unicode, repeatable := false }, behind)
      | _ => some ({ p.enter with extended := extended, unicode := unicode }, behind.drop 1)
  | rest => some (p.enter, rest)

/-- Closes a group. -/
def closed? (p : Progress) : Option Progress :=
  match p.groups with
  | [] => none
  | (extended, unicode) :: groups =>
    some { p with extended := extended, unicode := unicode, groups := groups, repeatable := true }

end Progress

/-- Reads an expression to its end. -/
def read? : Nat → Progress → List Char → Option Progress
  | _, p, [] => if p.groups.isEmpty then some p else none
  | 0, _, _ :: _ => none
  | fuel + 1, p, c :: rest =>
    let whole := { p with repeatable := true }
    if p.extended && Blank.isBlank c then read? fuel p rest
    else if p.extended && c == '#' then read? fuel p (rest.dropWhile fun c => c != '\n')
    else match c with
      | '(' => (p.opened? rest).bind fun (p, rest) => read? fuel p rest
      | ')' => p.closed?.bind fun p => read? fuel p rest
      | '|' => read? fuel { p with repeatable := false } rest
      | '[' =>
        ((opened? p.unicode (skipSpace p.extended rest)).bind
          (class? p.extended p.unicode (rest.length + 1) 1)).bind (read? fuel whole)
      | '?' | '*' | '+' =>
        if p.repeatable then read? fuel p (if rest.head? == some '?' then rest.drop 1 else rest)
        else none
      | '\x7b' => none
      | '.' => if p.unicode then read? fuel whole rest else none
      | '\\' =>
        match escape? p.unicode rest with
        | none => none
        | some (.place word, rest) =>
          read? fuel { whole with boundary := p.boundary || (word && p.unicode) } rest
        | some (_, rest) => read? fuel whole rest
      | _ => read? fuel whole rest

/-! ## Numbers -/

/-- Whether characters are digits with at most one point, and at least one digit. -/
def isDecimal (chars : List Char) : Bool :=
  let whole := chars.takeWhile Char.isDigit
  match chars.drop whole.length with
  | [] => !whole.isEmpty
  | '.' :: part => part.all Char.isDigit && !(whole.isEmpty && part.isEmpty)
  | _ => false

/-- Whether characters are a number without a sign: a decimal, maybe with an exponent, or one of the
    words for what is no number or has no bound. -/
def isNumber (chars : List Char) : Bool :=
  let isExponent (c : Char) : Bool := c == 'e' || c == 'E'
  let front := chars.takeWhile fun c => !isExponent c
  let exponent := chars.drop front.length
  let digits := match exponent.drop 1 with
    | '+' :: digits | '-' :: digits => digits
    | digits => digits
  (isDecimal front && (exponent.isEmpty || (!digits.isEmpty && digits.all Char.isDigit)))
    || ["inf", "infinity", "nan"].contains (String.ofList (chars.map Char.toLower))

/-- What is wrong with a value that a filter asks for. A plus in front of a number is its sign. -/
def fault? (value : List Char) : Option PatternError :=
  match value with
  | '+' :: number => if isNumber number then none else some .malformed
  | _ =>
    match read? (value.length + 1) {} value with
    | none => some .malformed
    | some p => if p.boundary then some .wordBoundary else none

end ValuePattern

end SyscallGuard
