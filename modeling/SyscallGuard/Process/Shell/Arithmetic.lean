import SyscallGuard.Process.Shell.Reader

set_option autoImplicit false

/-! # Calculations

Calculations of the shell with whole numbers of 64 bits, which wrap around. Variables are looked up. -/

namespace SyscallGuard.Shell.Arithmetic

/-- Why a calculation fails. -/
inductive Fault where
  | primary | trailing | division | parenthesis
  /-- A variable does not hold a number. -/
  | number (value : Bytes)

/-- The text of a failure. -/
def Fault.text : Fault → String
  | primary => "expecting primary"
  | trailing => "expecting EOF"
  | division => "division by zero"
  | parenthesis => "expecting ')'"
  | number value => "Illegal number: " ++ String.ofList (value.map fun b => Char.ofNat b.toNat)

/-- Calculates what is left to read, given the variables. -/
abbrev Calculation := ReaderT (Bytes → Option Bytes) (ExceptT Fault (StateM Bytes))

/-- A number within 64 bits. -/
def wrap (n : Int) : Int := Int.bmod n 0x10000000000000000

/-- Passes over white space. -/
def blanks : Calculation Unit := modify fun rest => rest.dropWhile Bytes.isSpace

/-- Takes the first of some signs that comes next. -/
def take? (signs : List String) : Calculation (Option String) := do
  blanks
  let rest ← get
  match signs.find? fun o => (Bytes.ofString o).isPrefixOf rest with
  | some o =>
    set (rest.drop o.length)
    return some o
  | none => return none

/-- The value of a digit in any base. -/
def digit? (b : UInt8) : Option Nat :=
  if isDigit b then some (b.toNat - 48)
  else if 97 ≤ b ∧ b ≤ 102 then some (b.toNat - 87)
  else if 65 ≤ b ∧ b ≤ 70 then some (b.toNat - 55)
  else none

/-- The number that digits are in a base. -/
def inBase? (base : Nat) (digits : Bytes) : Option Int :=
  if digits.isEmpty then none
  else (digits.foldl (fun n b => match n, digit? b with
    | some n, some d => if d < base then some (n * base + d) else none
    | _, _ => none) (some 0)).map fun n => wrap (Int.ofNat n)

/-- The number that is written, in base sixteen or eight behind their marks. -/
def number? (b : Bytes) : Option Int :=
  match b with
  | 48 :: 120 :: digits | 48 :: 88 :: digits => inBase? 16 digits
  | [48] => some 0
  | 48 :: digits => inBase? 8 digits
  | digits => inBase? 10 digits

/-- The number that a value is, with white space and a sign. -/
def valueOf (b : Bytes) : Except Fault Int :=
  let trimmed := ((b.dropWhile Bytes.isSpace).reverse.dropWhile Bytes.isSpace).reverse
  if trimmed.isEmpty then .ok 0
  else
    let n := match trimmed with
      | 45 :: rest => (number? rest).map fun n => -n
      | 43 :: rest => number? rest
      | rest => number? rest
    match n with
    | some n => .ok (wrap n)
    | none => .error (.number b)

/-- The number that a variable holds. -/
def fetch (name : Bytes) : Calculation Int := do
  match (← read) name with
  | none => return 0
  | some value => valueOf value

/-- A truth value as a number. -/
def ofBool (b : Bool) : Int := if b then 1 else 0

/-- Carries out an operator. -/
def apply (op : String) (a b : Int) : Except Fault Int :=
  match op with
  | "*" => .ok (wrap (a * b))
  | "/" => if b = 0 then .error .division else .ok (wrap (Int.tdiv a b))
  | "%" => if b = 0 then .error .division else .ok (wrap (Int.tmod a b))
  | "+" => .ok (wrap (a + b))
  | "-" => .ok (wrap (a - b))
  | "<" => .ok (ofBool (a < b))
  | "<=" => .ok (ofBool (a ≤ b))
  | ">" => .ok (ofBool (a > b))
  | ">=" => .ok (ofBool (a ≥ b))
  | "==" => .ok (ofBool (a == b))
  | _ => .ok (ofBool (a != b))

/-- The operators between two numbers with their ranks, the longer ones first. -/
def ranked : List (String × Nat) :=
  [("<=", 2), (">=", 2), ("==", 1), ("!=", 1), ("<", 2), (">", 2), ("+", 3), ("-", 3), ("*", 4),
    ("/", 4), ("%", 4)]

/-- The operator that comes next, which stays. -/
def peek? : Calculation (Option (String × Nat)) := do
  blanks
  let rest ← get
  return ranked.find? fun o => (Bytes.ofString o.1).isPrefixOf rest

mutual

/-- A number, a variable, a part in parentheses, or one with a sign in front of it. -/
def primary : Nat → Calculation Int
  | 0 => throw .primary
  | fuel + 1 => do
    match ← take? ["(", "!", "+", "-"] with
    | some "(" =>
      let first ← primary fuel
      let n ← binary fuel 1 first
      match ← take? [")"] with
      | some _ => return n
      | none => throw .parenthesis
    | some "!" => return ofBool ((← primary fuel) == 0)
    | some "+" => primary fuel
    | some _ => return wrap (-(← primary fuel))
    | none =>
      let rest ← get
      let word := rest.takeWhile isNameByte
      match word with
      | [] => throw .primary
      | first :: _ =>
        if isDigit first then
          match number? word with
          | some n =>
            set (rest.drop word.length)
            return n
          | none => throw .trailing
        else
          set (rest.drop word.length)
          fetch word

/-- Goes on behind a number with the operators of a rank at least. -/
def binary : Nat → Nat → Int → Calculation Int
  | 0, _, a => return a
  | fuel + 1, rank, a => do
    match ← peek? with
    | none => return a
    | some (op, r) =>
      if r < rank then return a
      else
        let _ ← take? [op]
        let first ← primary fuel
        let b ← binary fuel (r + 1) first
        binary fuel rank (← apply op a b)

end

/-- Calculates a text. -/
def evaluate (lookup : Bytes → Option Bytes) (text : Bytes) : Except Fault Int :=
  let fuel := text.length * 20 + 100
  match ((do binary fuel 1 (← primary fuel) : Calculation Int).run lookup).run.run text with
  | (.error e, _) => .error e
  | (.ok n, rest) => if rest.all Bytes.isSpace then .ok n else .error .trailing

end SyscallGuard.Shell.Arithmetic
