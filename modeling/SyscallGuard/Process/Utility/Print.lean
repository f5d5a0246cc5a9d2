import SyscallGuard.Process.Options

set_option autoImplicit false

/-! # Printing

The programs that print their arguments, with escapes for characters and with formats. -/

namespace SyscallGuard.Print

/-! ## Escapes -/

/-- Which escapes are known besides the usual ones. -/
structure EscapeRules where
  /-- A zero in front of an octal number is not one of its three digits. -/
  leadingZero : Bool
  /-- Hexadecimal numbers, quotes and the escape character. -/
  rich : Bool
  /-- The escape that ends all output. -/
  stops : Bool

/-- Whether a byte is an octal digit. -/
def isOctal (b : UInt8) : Bool := 48 ≤ b && b ≤ 55

/-- The byte with an octal number of at most some digits, and what follows. -/
def octal (most : Nat) (bytes : Bytes) : UInt8 × Bytes :=
  let digits := (bytes.take most).takeWhile isOctal
  (UInt8.ofNat (digits.foldl (fun n d => n * 8 + (d.toNat - 48)) 0), bytes.drop digits.length)

/-- The value of a hexadecimal digit. -/
def hexDigit? (b : UInt8) : Option Nat :=
  if 48 ≤ b ∧ b ≤ 57 then some (b.toNat - 48)
  else if 97 ≤ b ∧ b ≤ 102 then some (b.toNat - 87)
  else if 65 ≤ b ∧ b ≤ 70 then some (b.toNat - 55)
  else none

/-- The byte with a hexadecimal number of at most two digits, and what follows. -/
def hex? (bytes : Bytes) : Option (UInt8 × Bytes) :=
  let digits := (bytes.take 2).takeWhile fun b => (hexDigit? b).isSome
  if digits.isEmpty then none
  else
    some (UInt8.ofNat (digits.foldl (fun n d => n * 16 + (hexDigit? d).getD 0) 0),
      bytes.drop digits.length)

/-- The character of an escape of one letter. -/
def letter? (b : UInt8) : Option UInt8 :=
  match b with
  | 92 => some 92
  | 97 => some 7
  | 98 => some 8
  | 102 => some 12
  | 110 => some 10
  | 114 => some 13
  | 116 => some 9
  | 118 => some 11
  | _ => none

/-- What an escape at the front of some bytes, behind its backslash, comes to: the bytes it stands
    for and the rest, or nothing if all output ends. -/
def escape (rules : EscapeRules) : Bytes → Option (Bytes × Bytes)
  | [] => some ([92], [])
  | b :: rest =>
    match letter? b with
    | some c => some ([c], rest)
    | none =>
      if b = 99 ∧ rules.stops then none
      else if b = 48 ∧ rules.leadingZero then
        let (c, rest) := octal 3 rest
        some ([c], rest)
      else if isOctal b ∧ !(rules.leadingZero ∧ rules.rich) then
        let (c, rest) := octal 3 (b :: rest)
        some ([c], rest)
      else if rules.rich ∧ b = 120 then
        match hex? rest with
        | some (c, rest) => some ([c], rest)
        | none => some ([92, 120], rest)
      else if b = 101 ∨ (rules.rich ∧ b = 69) then some ([27], rest)
      else if rules.rich ∧ !rules.leadingZero ∧ (b = 34 ∨ b = 39) then some ([b], rest)
      else some ([92, b], rest)

/-- Replaces all escapes. Says whether output goes on behind them. -/
def unescape (rules : EscapeRules) : Nat → Bytes → Bytes × Bool
  | 0, _ => ([], true)
  | _ + 1, [] => ([], true)
  | fuel + 1, 92 :: rest =>
    match escape rules rest with
    | none => ([], false)
    | some (bytes, rest) =>
      let (more, goesOn) := unescape rules fuel rest
      (bytes ++ more, goesOn)
  | fuel + 1, b :: rest =>
    let (more, goesOn) := unescape rules fuel rest
    (b :: more, goesOn)

/-! ## Plain printing -/

/-- Words with a space between neighbours. -/
def join (args : List Bytes) : Bytes := [32].intercalate args

/-- Prints arguments with escapes. Without its option a line feed follows, unless an escape ends all
    output. -/
def echoEscaped (args : List Bytes) : Bytes :=
  let (bare, args) := match args with
    | [45, 110] :: rest => (true, rest)
    | args => (false, args)
  let text := join args
  let (bytes, goesOn) := unescape ⟨true, false, true⟩ (text.length + 1) text
  bytes ++ if goesOn && !bare then [10] else []

/-- The letters of the options that may stand in front of plain arguments. -/
def isEchoOption : Bytes → Bool
  | 45 :: b :: rest => (b :: rest).all fun c => c == 110 || c == 101 || c == 69
  | _ => false

/-- Prints arguments as they are, or with escapes if an option says so. -/
def echoPlain (args : List Bytes) : Bytes :=
  let options := (args.takeWhile isEchoOption).flatten
  let text := join (args.dropWhile isEchoOption)
  let switch := (options.filter fun b => b == 101 || b == 69).getLast?
  let (bytes, goesOn) :=
    if switch == some 101 then unescape ⟨true, true, true⟩ (text.length + 1) text else (text, true)
  bytes ++ if goesOn && !options.contains 110 then [10] else []

/-! ## Formats -/

/-- A place of a format. -/
structure Place where
  left : Bool := false
  zero : Bool := false
  plus : Bool := false
  space : Bool := false
  alternate : Bool := false
  width : Nat := 0
  precision : Option Nat := none

/-- The digits of a number in a base. -/
def digitsIn (base : Nat) (capital : Bool) (n : Nat) : Bytes :=
  let digits := Bytes.ofString (String.ofList (Nat.toDigits base n))
  if capital then Bytes.toUpper digits else digits

/-- Puts bytes into a field. -/
def Place.fill (p : Place) (bytes : Bytes) : Bytes :=
  if p.left then Bytes.padRight p.width bytes else Bytes.padLeft p.width bytes

/-- Puts a number with its sign into a field. -/
def Place.number (p : Place) (sign digits : Bytes) : Bytes :=
  let digits := match p.precision with
    | some n => List.replicate (n - digits.length) 48 ++ digits
    | none => digits
  if p.zero && !p.left && p.precision.isNone then
    sign ++ List.replicate (p.width - sign.length - digits.length) 48 ++ digits
  else p.fill (sign ++ digits)

/-- The number that an argument is, and whether it is one: decimal, octal, hexadecimal, or the code
    of a character behind a quote. -/
def numberOf (arg : Bytes) : Int × Bool :=
  let (negative, digits) := match arg with
    | 45 :: rest => (true, rest)
    | 43 :: rest => (false, rest)
    | other => (false, other)
  let value? : Option Nat := match digits with
    | [] => none
    | 48 :: 120 :: hex | 48 :: 88 :: hex =>
      hex.foldl (fun n b => n.bind fun n => (hexDigit? b).map (n * 16 + ·)) (some 0)
    | 48 :: rest =>
      if rest.all isOctal then some (rest.foldl (fun n b => n * 8 + (b.toNat - 48)) 0) else none
    | digits => Bytes.toNat? digits
  match arg, value? with
  | 39 :: b :: _, _ | 34 :: b :: _, _ => (b.toNat, true)
  | [], _ => (0, true)
  | _, some n => (if negative then -(n : Int) else n, true)
  | _, none =>
    let front := digits.takeWhile fun b => 48 ≤ b && b ≤ 57
    let n := (Bytes.toNat? front).getD 0
    (if negative then -(n : Int) else n, false)

/-- A number as one without a sign in 64 bits. -/
def unsigned (n : Int) : Nat := (n % 0x10000000000000000).toNat

/-- What a format has come to so far. -/
structure Printed where
  bytes : Bytes
  args : List Bytes
  /-- Whether a place took an argument. -/
  used : Bool
  /-- The arguments that should have been numbers and are not. -/
  faults : List Bytes
  /-- Whether output goes on. -/
  goesOn : Bool
  /-- A place that cannot be filled. -/
  invalid : Option Bytes := none

namespace Printed

/-- Adds bytes. -/
def add (p : Printed) (bytes : Bytes) : Printed := { p with bytes := p.bytes ++ bytes }

/-- Takes an argument; missing ones are empty. -/
def next (p : Printed) : Bytes × Printed :=
  (p.args.headD [], { p with args := p.args.drop 1, used := true })

/-- Takes an argument that is a number. -/
def nextNumber (p : Printed) : Int × Printed :=
  let (arg, p) := p.next
  let (n, ok) := numberOf arg
  (n, if ok then p else { p with faults := p.faults ++ [arg] })

/-- Fills a place with an argument, as a letter says. -/
def convert (p : Printed) (place : Place) (letter : UInt8) : Printed :=
  match letter with
  | 115 =>
    let (arg, p) := p.next
    p.add (place.fill (match place.precision with
      | some n => arg.take n
      | none => arg))
  | 98 =>
    let (arg, p) := p.next
    let (bytes, goesOn) := unescape ⟨true, false, true⟩ (arg.length + 1) arg
    { p.add (place.fill bytes) with goesOn := goesOn }
  | 99 =>
    let (arg, p) := p.next
    p.add (place.fill (arg.take 1))
  | 100 | 105 =>
    let (n, p) := p.nextNumber
    let sign := if n < 0 then [45] else if place.plus then [43] else if place.space then [32] else []
    p.add (place.number sign (Bytes.ofNat n.natAbs))
  | 117 =>
    let (n, p) := p.nextNumber
    p.add (place.number [] (Bytes.ofNat (unsigned n)))
  | 111 =>
    let (n, p) := p.nextNumber
    p.add (place.number (if place.alternate then [48] else []) (digitsIn 8 false (unsigned n)))
  | 120 =>
    let (n, p) := p.nextNumber
    p.add (place.number (if place.alternate then [48, 120] else []) (digitsIn 16 false (unsigned n)))
  | 88 =>
    let (n, p) := p.nextNumber
    p.add (place.number (if place.alternate then [48, 88] else []) (digitsIn 16 true (unsigned n)))
  | b => { p with goesOn := false, invalid := some [37, b] }

end Printed

/-- Reads the flags of a place. -/
def flags (place : Place) : Bytes → Place × Bytes
  | 45 :: rest => flags { place with left := true } rest
  | 48 :: rest => flags { place with zero := true } rest
  | 43 :: rest => flags { place with plus := true } rest
  | 32 :: rest => flags { place with space := true } rest
  | 35 :: rest => flags { place with alternate := true } rest
  | rest => (place, rest)

/-- Reads a width or a precision, which can be an argument. -/
def measure (p : Printed) (bytes : Bytes) : Nat × Printed × Bytes :=
  match bytes with
  | 42 :: rest =>
    let (n, p) := p.nextNumber
    (n.toNat, p, rest)
  | bytes =>
    let digits := bytes.takeWhile fun b => 48 ≤ b && b ≤ 57
    ((Bytes.toNat? digits).getD 0, p, bytes.drop digits.length)

/-- Prints by a format once. -/
def once (rules : EscapeRules) : Nat → Bytes → Printed → Printed
  | 0, _, p => p
  | _ + 1, [], p => p
  | fuel + 1, 92 :: rest, p =>
    match escape rules rest with
    | none => { p with goesOn := false }
    | some (bytes, rest) => once rules fuel rest (p.add bytes)
  | fuel + 1, 37 :: 37 :: rest, p => once rules fuel rest (p.add [37])
  | fuel + 1, 37 :: rest, p =>
    let (place, rest) := flags {} rest
    let (width, p, rest) := measure p rest
    let place := { place with width := width }
    let (place, p, rest) := match rest with
      | 46 :: rest =>
        let (n, p, rest) := measure p rest
        ({ place with precision := some n }, p, rest)
      | rest => (place, p, rest)
    match rest with
    | [] => { p with goesOn := false, invalid := some [37] }
    | letter :: rest =>
      let p := p.convert place letter
      if p.goesOn then once rules fuel rest p else p
  | fuel + 1, b :: rest, p => once rules fuel rest (p.add [b])

/-- Prints by a format as often as it takes to use up the arguments. -/
def format (rules : EscapeRules) (text : Bytes) : Nat → Printed → Printed
  | 0, p => p
  | fuel + 1, p =>
    let p := once rules (text.length + 1) text { p with used := false }
    if p.goesOn && p.used && !p.args.isEmpty then format rules text fuel p else p

/-- Prints by a format. -/
def printf (rich : Bool) (text : Bytes) (args : List Bytes) : Printed :=
  format ⟨false, rich, rich⟩ text (args.length + 1) ⟨[], args, false, [], true, none⟩

end SyscallGuard.Print
