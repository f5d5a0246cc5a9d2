import SyscallGuard.Process.Options

set_option autoImplicit false

/-! # Conditions

The program that checks a condition about texts, numbers or files. -/

namespace SyscallGuard.Condition

/-- What comes of reading a condition: whether it holds and what follows it, or a complaint. -/
abbrev Outcome := Except String (Bool × List Bytes)

/-- The test of a file by a letter. -/
def fileTest (letter : Char) (path : Bytes) : Work Bool := do
  let followed ← Work.entry? true path
  match letter with
  | 'e' | 'r' | 'w' => return followed.isSome
  | 'f' => return match followed with
    | some (.file ..) => true
    | _ => false
  | 'd' => return followed == some .directory
  | 'x' => return match followed with
    | some (.file _ executable) => executable
    | some .directory => true
    | _ => false
  | 's' => return match followed with
    | some (.file content _) => !content.isEmpty
    | some .directory => true
    | _ => false
  | 'h' | 'L' => return match ← Work.entry? false path with
    | some (.link _) => true
    | _ => false
  | _ => return false

/-- The test that a word such as a dash and a letter stands for, applied to another word. -/
def unary? (op word : Bytes) : Option (Work Bool) :=
  match op with
  | [45, b] =>
    let letter := Char.ofNat b.toNat
    if letter = 'n' then some (pure !word.isEmpty)
    else if letter = 'z' then some (pure word.isEmpty)
    else if "erwfdxshLpSbcgukOG".toList.contains letter then some (fileTest letter word)
    else if letter = 't' then some (pure false)
    else none
  | _ => none

/-- Whether a word stands for a comparison. -/
def isBinary (op : Bytes) : Bool :=
  ["=", "==", "!=", "<", ">", "-eq", "-ne", "-lt", "-le", "-gt", "-ge", "-nt", "-ot", "-ef"].any fun o =>
    Bytes.ofString o == op

/-- The number that a word is, white space around it aside. -/
def number (word : Bytes) : Except String Int :=
  let isSpace (b : UInt8) : Bool := Bytes.isSpace b
  let trimmed := ((word.dropWhile isSpace).reverse.dropWhile isSpace).reverse
  match Bytes.toInt? trimmed with
  | some n => .ok n
  | none => .error ("Illegal number: " ++ Utf8.display word)

/-- Compares two words. -/
def binary (a op b : Bytes) : Except String Bool :=
  let numbers (f : Int → Int → Bool) : Except String Bool := do
    return f (← number a) (← number b)
  match Utf8.display op with
  | "=" | "==" => .ok (a == b)
  | "!=" => .ok (a != b)
  | "<" => .ok (decide (a < b))
  | ">" => .ok (decide (b < a))
  | "-eq" => numbers fun x y => x == y
  | "-ne" => numbers fun x y => x != y
  | "-lt" => numbers fun x y => x < y
  | "-le" => numbers fun x y => x ≤ y
  | "-gt" => numbers fun x y => x > y
  | "-ge" => numbers fun x y => x ≥ y
  | _ => .ok false

/-- How tightly the words of a condition bind. -/
inductive Rank where
  | either | both | single

/-- Reads a condition of a rank at the front of some words. -/
def condition : Nat → Rank → List Bytes → Work Outcome
  | 0, _, _ => return .error "argument expected"
  | fuel + 1, .either, words => do
    match ← condition fuel .both words with
    | .ok (a, [45, 111] :: rest) =>
      match ← condition fuel .either rest with
      | .ok (b, rest) => return .ok (a || b, rest)
      | .error e => return .error e
    | other => return other
  | fuel + 1, .both, words => do
    match ← condition fuel .single words with
    | .ok (a, [45, 97] :: rest) =>
      match ← condition fuel .both rest with
      | .ok (b, rest) => return .ok (a && b, rest)
      | .error e => return .error e
    | other => return other
  | fuel + 1, .single, words => do
    match words with
    | [] => return .ok (false, [])
    | [word] => return .ok (!word.isEmpty, [])
    | a :: op :: b :: rest =>
      if isBinary op then return (binary a op b).map fun holds => (holds, rest)
      else if a = [33] then
        match ← condition fuel .single (op :: b :: rest) with
        | .ok (holds, rest) => return .ok (!holds, rest)
        | .error e => return .error e
      else if a = [40] then
        match ← condition fuel .either (op :: b :: rest) with
        | .ok (holds, [41] :: rest) => return .ok (holds, rest)
        | .ok _ => return .error "closing paren expected"
        | .error e => return .error e
      else match unary? a op with
        | some test => return .ok (← test, b :: rest)
        | none => return .ok (!a.isEmpty, op :: b :: rest)
    | [a, b] =>
      if a = [33] then return .ok (b.isEmpty, [])
      else if a = [40] then return .error "closing paren expected"
      else match unary? a b with
        | some test => return .ok (← test, [])
        | none =>
          if isBinary b then return .error (Utf8.display b ++ ": argument expected")
          else return .ok (!a.isEmpty, [b])

/-- Checks a condition. Under its bracket name the last word has to be the closing bracket. -/
def test (name : String) (args : List Bytes) : Work (Except String Bool) := do
  let closed := args.getLast? == some [93]
  if name = "[" ∧ !closed then return .error "missing ]"
  else
    let words := if name = "[" then args.dropLast else args
    if words.isEmpty then return .ok false
    else match ← condition (2 * words.length + 4) .either words with
      | .ok (holds, []) => return .ok holds
      | .ok (_, rest) =>
        let last := words[words.length - rest.length - 1]?.getD []
        return .error (Utf8.display last ++ ": unexpected operator")
      | .error e => return .error e

end SyscallGuard.Condition
