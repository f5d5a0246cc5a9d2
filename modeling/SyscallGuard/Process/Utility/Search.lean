import SyscallGuard.Process.Options
import SyscallGuard.Process.Regex

set_option autoImplicit false

/-! # Searching

The program that prints the lines in which a pattern is found. -/

namespace SyscallGuard.Search

/-- How a search compares and what it looks for. -/
structure Query where
  patterns : List Regex
  ignoreCase : Bool
  wholeLine : Bool
  wholeWord : Bool

namespace Query

/-- Whether a match stands alone as a word. -/
def isWord (line : Bytes) (start stop : Nat) : Bool :=
  let s : Regex.Subject := ⟨line.toArray, false, false, true⟩
  !s.isWordBefore start && !s.isWord stop

/-- The leftmost match of a pattern from a position on that the query allows. -/
def matchFrom? (q : Query) (r : Regex) (line : Bytes) : Nat → Nat → Option (Nat × Nat)
  | 0, _ => none
  | fuel + 1, start =>
    match r.find? q.ignoreCase line start with
    | none => none
    | some (a, m) =>
      let fits := (!q.wholeLine || (a == 0 && m.position == line.length))
        && (!q.wholeWord || isWord line a m.position)
      if fits then some (a, m.position)
      else if a < line.length then matchFrom? q r line fuel (a + 1) else none

/-- The leftmost and longest match from a position on. -/
def find? (q : Query) (line : Bytes) (start : Nat) : Option (Nat × Nat) :=
  (q.patterns.filterMap fun r => q.matchFrom? r line (line.length + 1) start).foldl
    (fun best m => match best with
      | none => some m
      | some b => if m.1 < b.1 || (m.1 == b.1 && m.2 > b.2) then some m else some b) none

/-- All matches in a line that are not empty. -/
def all (q : Query) (line : Bytes) : Nat → Nat → List Bytes
  | 0, _ => []
  | fuel + 1, start =>
    match q.find? line start with
    | none => []
    | some (a, b) =>
      if b > a then (line.drop a).take (b - a) :: q.all line fuel b
      else if a < line.length then q.all line fuel (a + 1) else []

end Query

/-- A pattern in the notation that the options ask for. -/
def pattern (fixed extended whole : Bool) (text : Bytes) : Except Regex.Fault Regex :=
  let r := if fixed then .ok (Regex.literal text) else Regex.ofBytes ⟨extended, false⟩ text
  if whole then r.map fun r => .sequence .lineStart (.sequence r .lineEnd) else r

/-- Prints the lines of files in which a pattern is found. -/
def grep (args : List Bytes) : Work Nat :=
  Work.withOptions "grep" ⟨"EFGPivncqsohHlLwxaz", "em",
    [("invert-match", 'v'), ("ignore-case", 'i'), ("line-number", 'n'), ("count", 'c'),
      ("quiet", 'q'), ("silent", 'q'), ("only-matching", 'o'), ("extended-regexp", 'E'),
      ("fixed-strings", 'F'), ("word-regexp", 'w'), ("line-regexp", 'x'), ("regexp", 'e'),
      ("files-with-matches", 'l'), ("no-filename", 'h'), ("max-count", 'm'), ("text", 'a')]⟩ args 2
    fun o => do
  let given := o.values 'e'
  let (texts, paths) := match given, o.operands with
    | [], first :: rest => ([first], rest)
    | given, operands => (given, operands)
  if texts.isEmpty then
    Work.complain ("Usage: grep [OPTION]... PATTERNS [FILE]...\n"
      ++ "Try 'grep --help' for more information.\n")
    return 2
  else
    let fixed := o.has 'F'
    let extended := o.has 'E' || o.has 'P'
    let patterns := (texts.flatMap (Bytes.splitBy (· == 10))).mapM
      (pattern fixed extended (o.has 'x'))
    match patterns with
    | .error e =>
      Work.complain ("grep: " ++ e.describe ++ "\n")
      return 2
    | .ok patterns =>
      let q : Query := ⟨patterns, o.has 'i', false, o.has 'w'⟩
      let named := (paths.length > 1 || o.has 'H') && !o.has 'h'
      let paths := if paths.isEmpty then [[45]] else paths
      let (hits, faults) ← paths.foldlM (fun (hits, faults) path => do
        match ← Work.contentOf path with
        | .error e =>
          if !o.has 's' then
            Work.complain ("grep: " ++ Utf8.display path ++ ": " ++ e.describe ++ "\n")
          return (hits, true)
        | .ok content =>
          let lines := Bytes.lines content
          let numbered := (List.range lines.length).zip lines
          let found := numbered.filter fun l => (q.find? l.2 0).isSome != o.has 'v'
          let found := match (o.value? 'm').bind Bytes.toNat? with
            | some n => found.take n
            | none => found
          let name := if path = [45] then Bytes.ofString "(standard input)" else path
          let label : Bytes := if named then name ++ [58] else []
          if o.has 'q' then pure ()
          else if o.has 'c' then Work.say (label ++ Bytes.ofNat found.length ++ [10])
          else if o.has 'l' || o.has 'L' then
            Work.say (if found.isEmpty == o.has 'L' then name ++ [10] else [])
          else
            Work.say (found.flatMap fun l =>
              let front := label ++ if o.has 'n' then Bytes.ofNat (l.1 + 1) ++ [58] else []
              if o.has 'o' then
                if o.has 'v' then []
                else (q.all l.2 (l.2.length + 1) 0).flatMap fun m => front ++ m ++ [10]
              else front ++ l.2 ++ [10])
          return (hits + found.length, faults)) ((0, false) : Nat × Bool)
      return if o.has 'q' && hits > 0 then 0 else if faults then 2 else if hits > 0 then 0 else 1

end SyscallGuard.Search
