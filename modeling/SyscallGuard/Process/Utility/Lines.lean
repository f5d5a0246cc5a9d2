import SyscallGuard.Process.Utility.Files

set_option autoImplicit false

/-! # Programs on lines

The programs that copy, count, sort and cut lines. -/

namespace SyscallGuard.Utility

open Work (say complain gather withOptions)

/-! ## Copying -/

/-- A byte as it is made visible. -/
def visible (b : UInt8) : Bytes :=
  if b < 32 ∧ b ≠ 9 ∧ b ≠ 10 then [94, b + 64]
  else if b = 127 then [94, 63]
  else if b < 128 then [b]
  else if b < 160 then [77, 45, 94, b - 64]
  else if b = 255 then [77, 45, 94, 63]
  else [77, 45, b - 128]

/-- A line as the options of a copy show it. -/
def decorate (o : Options) (line : Bytes) : Bytes :=
  let all := o.has 'A'
  let body := Bytes.chomp line
  let body := if all || o.has 'v' || o.has 'e' || o.has 't' then body.flatMap visible else body
  let body :=
    if all || o.has 'T' || o.has 't' then body.flatMap fun b => if b = 9 then [94, 73] else [b]
    else body
  let ending := line.drop (Bytes.chomp line).length
  body ++ (if (all || o.has 'E' || o.has 'e') && !ending.isEmpty then [36] else []) ++ ending

/-- Leaves out the empty lines behind an empty line. -/
def squeeze (before : Bool) : List Bytes → List Bytes
  | [] => []
  | line :: rest =>
    let blank := line == [10]
    if blank && before then squeeze true rest else line :: squeeze blank rest

/-- Numbers lines from a number on; empty ones only if asked. -/
def number (empties : Bool) (n : Nat) : List Bytes → List Bytes
  | [] => []
  | line :: rest =>
    if line == [10] && !empties then line :: number empties n rest
    else (Bytes.padLeft 6 (Bytes.ofNat n) ++ 9 :: line) :: number empties (n + 1) rest

/-- Copies files to standard output, one behind the other. -/
def cat (args : List Bytes) : Work Nat :=
  withOptions "cat" ⟨"AbeEnstTuv", "", [("number", 'n'), ("show-all", 'A'), ("squeeze-blank", 's')]⟩
    args 1 fun o => do
  let paths := if o.operands.isEmpty then [[45]] else o.operands
  let plain := o.options.all fun p => p.1 == 'u'
  let (pieces, status) ← paths.foldlM (fun (pieces, status) path => do
    let session ← get
    let out := match ← Work.stream? 1 with
      | some n => session.streams[n]?
      | none => none
    match ← Work.contentOf path with
    | .ok content =>
      let clash := match out, ← Work.locate true path with
        | some (.file spot _ _), .ok (.present other) =>
          path != [45] && spot == other && !content.isEmpty
        | _, _ => false
      if clash then
        complain ("cat: " ++ Utf8.display path ++ ": input file is output file\n")
        return (pieces, 1)
      else if plain then
        say content
        return (pieces, status)
      else return (pieces ++ [content], status)
    | .error e =>
      complain ("cat: " ++ Utf8.display path ++ ": " ++ e.describe ++ "\n")
      return (pieces, 1)) (([], 0) : List Bytes × Nat)
  let lines := Bytes.records pieces.flatten
  let lines := if o.has 's' then squeeze false lines else lines
  let lines :=
    if o.has 'b' then number false 1 lines else if o.has 'n' then number true 1 lines else lines
  say (lines.flatMap (decorate o))
  return status

/-- Copies the lines of files in reverse order. -/
def tac (args : List Bytes) : Work Nat := do
  let paths := args.filter fun a => a != [45, 45]
  let paths := if paths.isEmpty then [[45]] else paths
  let (found, status) ← paths.foldlM (fun (found, status) path => do
    match ← Work.contentOf path with
    | .ok content => return (found ++ [(path, content)], status)
    | .error e =>
      complain (if e = .isDirectory
        then "tac: " ++ Utf8.display path ++ ": read error: " ++ e.describe ++ "\n"
        else "tac: failed to open " ++ quoted path ++ " for reading: " ++ e.describe ++ "\n")
      return (found, 1)) (([], 0) : List (Bytes × Bytes) × Nat)
  say (found.flatMap fun f => (Bytes.records f.2).reverse.flatten)
  return status

/-! ## Ends of files -/

/-- An old option that is only a number becomes one with a letter. -/
def modernise (args : List Bytes) : List Bytes :=
  match args with
  | (45 :: d :: rest) :: others =>
    if (Bytes.toNat? (d :: rest)).isSome then [45, 110] :: (d :: rest) :: others else args
  | _ => args

/-- A count with an optional sign and a letter for its unit. -/
def count? (b : Bytes) : Option (Option UInt8 × Nat) :=
  let unsigned (rest : Bytes) : Bytes := match rest.dropWhile Bytes.isSpace with
    | 43 :: rest => rest
    | rest => rest
  let (sign, rest) : Option UInt8 × Bytes := match b with
    | 45 :: rest => (some 45, unsigned rest)
    | 43 :: rest => (some 43, rest)
    | rest => (none, unsigned rest)
  let digits := rest.takeWhile fun d => 48 ≤ d && d ≤ 57
  let factor? := match Utf8.display (rest.drop digits.length) with
    | "" => some 1
    | "b" => some 512
    | "k" | "K" => some 1024
    | "M" | "m" => some 1048576
    | _ => none
  match Bytes.toNat? digits, factor? with
  | some n, some f => some (sign, n * f)
  | _, _ => none

/-- The size of the pieces in which input is read. -/
def blockSize : Nat := 8192

/-- Takes as much of standard input as was used. From a pipe only whole blocks can be taken. -/
def takeUsed (used : Nat) : Work Unit := do
  match ← Work.stream? 0 with
  | none => return
  | some n =>
    match (← get).streams[n]? with
    | some (.source _) => Work.take ((used + blockSize - 1) / blockSize * blockSize)
    | _ => Work.take used

/-- The start of some bytes: so many lines or bytes, or all but so many. -/
def front (o : Options) (content : Bytes) : Except Bytes Bytes :=
  match o.value? 'c' with
  | some text =>
    match count? text with
    | some (some 45, n) => .ok (content.take (content.length - n))
    | some (_, n) => .ok (content.take n)
    | none => .error text
  | none =>
    let text := (o.value? 'n').getD [49, 48]
    let lines := Bytes.records content
    match count? text with
    | some (some 45, n) => .ok (lines.take (lines.length - n)).flatten
    | some (_, n) => .ok (lines.take n).flatten
    | none => .error text

/-- The end of some bytes: so many lines or bytes, or all from a place on. -/
def back (o : Options) (content : Bytes) : Except Bytes Bytes :=
  match o.value? 'c' with
  | some text =>
    match count? text with
    | some (some 43, n) => .ok (content.drop (n - 1))
    | some (_, n) => .ok (content.drop (content.length - n))
    | none => .error text
  | none =>
    let text := (o.value? 'n').getD [49, 48]
    let lines := Bytes.records content
    match count? text with
    | some (some 43, n) => .ok (lines.drop (n - 1)).flatten
    | some (_, n) => .ok (lines.drop (lines.length - n)).flatten
    | none => .error text

/-- Prints a part of each of some files, under headings if there are several. -/
def parts (program : String) (part : Options → Bytes → Except Bytes Bytes) (o : Options) : Work Nat := do
  let paths := if o.operands.isEmpty then [[45]] else o.operands
  let headed := (paths.length > 1 || o.has 'v') && !o.has 'q'
  match part o [] with
  | .error text =>
    let unit := if (o.value? 'c').isSome then "bytes" else "lines"
    complain (program ++ ": invalid number of " ++ unit ++ ": '" ++ Utf8.display text ++ "'\n")
    return 1
  | .ok _ =>
    let (_, status) ← paths.foldlM (fun (first, status) path => do
      let content ← if path = [45] then do
          let bytes ← Work.glance
          let used := match part o bytes with
            | .ok b => if program = "head" then b.length else bytes.length
            | .error _ => bytes.length
          if (o.value? 'c').isSome then Work.take used else takeUsed used
          pure (Except.ok bytes)
        else Work.contentOf path
      match content with
      | .error e =>
        let verb := if program = "head" ∧ e = .isDirectory then "error reading" else "cannot open"
        complain (program ++ ": " ++ verb ++ " '" ++ Utf8.display path
          ++ (if e = .isDirectory then "': " else "' for reading: ") ++ e.describe ++ "\n")
        return (first, 1)
      | .ok bytes =>
        if headed then
          let name := if path = [45] then "standard input" else Utf8.display path
          say (Bytes.ofString ((if first then "" else "\n") ++ "==> " ++ name ++ " <==\n"))
        match part o bytes with
        | .ok b => say b
        | .error _ => pure ()
        return (false, status)) ((true, 0) : Bool × Nat)
    return status

/-- The options of the programs for the ends of files. -/
def endRules : OptionRules :=
  ⟨"qvf", "nc", [("lines", 'n'), ("bytes", 'c'), ("quiet", 'q'), ("silent", 'q'), ("verbose", 'v')]⟩

/-- Prints the start of files. -/
def head (args : List Bytes) : Work Nat :=
  withOptions "head" endRules (modernise args) 1 (parts "head" front)

/-- An old option for the end of a file from a line on. -/
def moderniseTail (args : List Bytes) : List Bytes :=
  match args with
  | (43 :: d) :: others =>
    if (Bytes.toNat? d).isSome then [45, 110] :: (43 :: d) :: others else args
  | _ => modernise args

/-- Prints the end of files. -/
def tail (args : List Bytes) : Work Nat :=
  withOptions "tail" endRules (moderniseTail args) 1 (parts "tail" back)

/-! ## Counting -/

/-- The column behind a byte. -/
def columnAfter (column : Nat) (b : UInt8) : Nat :=
  match b with
  | 8 => column - 1
  | 9 => (column / 8 + 1) * 8
  | 13 => 0
  | _ => column + 1

/-- The number of words. -/
def wordCount (b : Bytes) : Nat :=
  (b.foldl (fun (n, inside) x =>
    if Bytes.isSpace x then (n, false) else (if inside then n else n + 1, true)) (0, false)).1

/-- Counts lines, words and bytes. -/
def wc (args : List Bytes) : Work Nat :=
  withOptions "wc" ⟨"lwcmL", "", [("lines", 'l'), ("words", 'w'), ("bytes", 'c'), ("chars", 'm')]⟩
    args 1 fun o => do
  let (found, status) ← gather "wc" o.operands
  let all := o.options.isEmpty
  let counts (b : Bytes) : List Nat :=
    (if all || o.has 'l' then [b.count 10] else [])
      ++ (if all || o.has 'w' then [wordCount b] else [])
      ++ (if o.has 'm' then [(Utf8.lossy b).length] else [])
      ++ (if all || o.has 'c' then [b.length] else [])
      ++ (if o.has 'L' then
        [((Bytes.lines b).map fun l => l.foldl columnAfter 0).foldl max 0] else [])
  let rows := found.map fun f => (counts f.2, f.1)
  let total := (List.range (counts []).length).map fun i =>
    (rows.map fun r => r.1.getD i 0).foldl (· + ·) 0
  let named := !o.operands.isEmpty
  let rows := if o.operands.length > 1 then rows ++ [(total, Bytes.ofString "total")] else rows
  let size := (found.map fun f => f.2.length).foldl (· + ·) 0
  let width :=
    if (counts []).length = 1 && o.operands.length ≤ 1 then 1
    else if named && !o.operands.contains [45] then (Bytes.ofNat size).length
    else 7
  say (Bytes.unlines (rows.map fun r =>
    [32].intercalate (r.1.map fun n => Bytes.padLeft width (Bytes.ofNat n))
      ++ if named then 32 :: r.2 else []))
  return status

/-! ## Sorting -/

/-- Where the key of a line lies and how it is compared. -/
structure Key where
  first : Nat
  firstByte : Nat
  last : Option Nat
  lastByte : Nat
  letters : List Char

/-- A field and a byte in it, with the letters behind. -/
def keyPart (b : Bytes) : Nat × Nat × List Char :=
  let field := b.takeWhile fun d => 48 ≤ d && d ≤ 57
  let rest := b.drop field.length
  let (byte, rest) := match rest with
    | 46 :: rest =>
      let digits := rest.takeWhile fun d => 48 ≤ d && d ≤ 57
      ((Bytes.toNat? digits).getD 0, rest.drop digits.length)
    | rest => (0, rest)
  ((Bytes.toNat? field).getD 0, byte, rest.map fun b => Char.ofNat b.toNat)

/-- Reads a key. -/
def Key.ofBytes (b : Bytes) : Key :=
  match Bytes.splitBy (· == 44) b with
  | [first, last] =>
    let (f, fb, letters) := keyPart first
    let (l, lb, more) := keyPart last
    ⟨f, fb, some l, lb, letters ++ more⟩
  | _ =>
    let (f, fb, letters) := keyPart b
    ⟨f, fb, none, 0, letters⟩

/-- The fields of a line, with the separators that lead up to them where white space separates. -/
def fieldsOf (separator : Option UInt8) (line : Bytes) : List Bytes :=
  match separator with
  | some c => Bytes.splitBy (· == c) line
  | none =>
    let (done, last, _) := line.foldl (fun (done, current, word) b =>
      let blank := b == 32 || b == 9
      if blank && word then (current.reverse :: done, [b], false)
      else (done, b :: current, word || !blank))
      (([], [], false) : List Bytes × Bytes × Bool)
    (last.reverse :: done).reverse

/-- The part of a line that a key names. -/
def Key.extract (k : Key) (separator : Option UInt8) (line : Bytes) : Bytes :=
  let fields := fieldsOf separator line
  let joiner : Bytes := separator.toList
  let chosen := match k.last with
    | none => fields.drop (k.first - 1)
    | some last =>
      let upTo := (fields.take last).drop (k.first - 1)
      if k.lastByte = 0 then upTo
      else upTo.dropLast ++ (upTo.getLast?.map fun f => f.take k.lastByte).toList
  (joiner.intercalate chosen).drop (k.firstByte - 1)

/-- The number at the start of some bytes, as a whole part with its sign and the digits behind a
    point. -/
def numeric (b : Bytes) : Int × Bytes :=
  let b := b.dropWhile fun x => x == 32 || x == 9
  let (negative, b) := match b with
    | 45 :: rest => (true, rest)
    | rest => (false, rest)
  let whole := b.takeWhile fun d => 48 ≤ d && d ≤ 57
  let fraction := match b.drop whole.length with
    | 46 :: rest => rest.takeWhile fun d => 48 ≤ d && d ≤ 57
    | _ => []
  let scaled := (Bytes.toNat? (whole ++ (fraction ++ List.replicate 12 48).take 12)).getD 0
  (if negative then -(scaled : Int) else scaled, fraction)

/-- Compares two texts by the letters of a key. -/
def compareBy (letters : List Char) (a b : Bytes) : Ordering :=
  let trim (x : Bytes) : Bytes :=
    if letters.contains 'b' then x.dropWhile fun c => c == 32 || c == 9 else x
  let foldCase (x : Bytes) : Bytes := if letters.contains 'f' then Bytes.toUpper x else x
  let order :=
    if letters.contains 'n' || letters.contains 'g' then compare (numeric a).1 (numeric b).1
    else
      let x := foldCase (trim a)
      let y := foldCase (trim b)
      if x = y then .eq else if x < y then .lt else .gt
  if letters.contains 'r' then order.swap else order

/-- Sorts lines. -/
def sort (args : List Bytes) : Work Nat :=
  withOptions "sort" ⟨"bdfgnrsuzcmiVh", "ktoST",
    [("reverse", 'r'), ("numeric-sort", 'n'), ("unique", 'u'), ("key", 'k'), ("ignore-case", 'f'),
      ("field-separator", 't'), ("output", 'o'), ("stable", 's')]⟩ args 2 fun o => do
  let (found, status) ← gather "sort" o.operands
  let lines := found.flatMap fun f => Bytes.lines f.2
  let letters := "bfgnr".toList.filter o.has
  let separator := (o.value? 't').bind List.head?
  let keys := (o.values 'k').map Key.ofBytes
  let order (a b : Bytes) : Ordering :=
    if keys.isEmpty then compareBy letters a b
    else keys.foldl (fun sofar k =>
      sofar.then (compareBy (if k.letters.isEmpty then letters else k.letters)
        (k.extract separator a) (k.extract separator b))) .eq
  let full (a b : Bytes) : Ordering :=
    if o.has 's' || o.has 'u' then order a b
    else (order a b).then (compareBy (letters.filter (· == 'r')) a b)
  let numbered := (List.range lines.length).zip (lines.zip (lines.drop 1))
  match if o.has 'c' then numbered.find? fun p => full p.2.1 p.2.2 == .gt else none with
  | some (n, _, next) =>
    complain ("sort: " ++ (o.operands.head?.map Utf8.display).getD "-" ++ ":" ++ toString (n + 2)
      ++ ": disorder: " ++ Utf8.display next ++ "\n")
    return 1
  | none =>
  if o.has 'c' then return status
  let sorted := lines.mergeSort fun a b => full a b != .gt
  let kept := if o.has 'u' then
      sorted.foldr (fun line rest => match rest with
        | next :: more => if order line next == .eq then line :: more else line :: rest
        | [] => [line]) []
    else sorted
  match o.value? 'o' with
  | some path =>
    match (← get).openPath (← read) .write path with
    | .ok (n, s) => set (s.put n (Bytes.unlines kept))
    | .error e => complain ("sort: open failed: " ++ Utf8.display path ++ ": " ++ e.describe ++ "\n")
  | none => say (Bytes.unlines kept)
  return if status = 0 then 0 else 2

/-- Leaves out lines that repeat the one before. -/
def uniq (args : List Bytes) : Work Nat :=
  withOptions "uniq" ⟨"cdui", "fsw", [("count", 'c'), ("repeated", 'd'), ("unique", 'u')]⟩ args 1 fun o => do
  let (found, status) ← gather "uniq" (o.operands.take 1)
  let number (c : Char) : Nat := ((o.value? c).bind Bytes.toNat?).getD 0
  let withoutField (b : Bytes) : Bytes :=
    (b.dropWhile Bytes.isIndent).dropWhile fun c => !Bytes.isIndent c
  let key (b : Bytes) : Bytes :=
    let b := ((List.range (number 'f')).foldl (fun b _ => withoutField b) b).drop (number 's')
    let b := if (o.value? 'w').isSome then b.take (number 'w') else b
    if o.has 'i' then Bytes.toUpper b else b
  let same (a b : Bytes) : Bool := key a == key b
  let runs := (found.flatMap fun f => Bytes.lines f.2).foldr (fun line runs => match runs with
    | (next, n) :: more => if same line next then (line, n + 1) :: more else (line, 1) :: runs
    | [] => [(line, 1)]) ([] : List (Bytes × Nat))
  let kept := runs.filter fun r =>
    if o.has 'd' then r.2 > 1 else if o.has 'u' then r.2 == 1 else true
  say (Bytes.unlines (kept.map fun r =>
    if o.has 'c' then Bytes.padLeft 7 (Bytes.ofNat r.2) ++ 32 :: r.1 else r.1))
  return status

/-! ## Columns -/

/-- The ranges of a list such as 1,3-5. A range without an end goes on for ever. -/
def rangesOf (b : Bytes) : List (Nat × Option Nat) :=
  (Bytes.splitBy (fun x => x == 44 || x == 32) b).map fun piece =>
    match Bytes.splitBy (· == 45) piece with
    | [a, c] => ((Bytes.toNat? a).getD 1, if c.isEmpty then none else Bytes.toNat? c)
    | _ => ((Bytes.toNat? piece).getD 0, Bytes.toNat? piece)

/-- Whether a place is in one of some ranges. -/
def chosen (ranges : List (Nat × Option Nat)) (n : Nat) : Bool :=
  ranges.any fun r => r.1 ≤ n && r.2.all fun last => n ≤ last

/-- The chosen members of a list, counted from one. -/
def choose {α : Type} (ranges : List (Nat × Option Nat)) (xs : List α) : List α :=
  ((List.range xs.length).zip xs).filterMap fun p => if chosen ranges (p.1 + 1) then some p.2 else none

/-- Cuts fields or bytes out of lines. -/
def cut (args : List Bytes) : Work Nat :=
  withOptions "cut" ⟨"snz", "dfcb",
    [("delimiter", 'd'), ("fields", 'f'), ("characters", 'c'), ("bytes", 'b')]⟩ args 1 fun o => do
  match o.value? 'f', (o.value? 'c').orElse fun _ => o.value? 'b' with
  | none, none =>
    complain ("cut: you must specify a list of bytes, characters, or fields\n"
      ++ "Try 'cut --help' for more information.\n")
    return 1
  | fields, bytes =>
    let list := (fields.or bytes).getD []
    if (rangesOf list).any fun r => r.1 == 0 then
      return ← misuse "cut" (if fields.isSome then "fields are numbered from 1"
        else "byte/character positions are numbered from 1")
    let (found, status) ← gather "cut" o.operands
    let delimiter := ((o.value? 'd').bind List.head?).getD 9
    let cutLine (line : Bytes) : Option Bytes :=
      match fields, bytes with
      | some list, _ =>
        if !List.contains line delimiter then (if o.has 's' then none else some line)
        else some ([delimiter].intercalate (choose (rangesOf list) (Bytes.splitBy (· == delimiter) line)))
      | none, some list => some (choose (rangesOf list) line)
      | none, none => some line
    say (Bytes.unlines ((found.flatMap fun f => Bytes.lines f.2).filterMap cutLine))
    return status

end SyscallGuard.Utility
