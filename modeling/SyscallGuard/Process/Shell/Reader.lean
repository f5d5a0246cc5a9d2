import SyscallGuard.Process.Shell.Command

set_option autoImplicit false

/-! # Reading scripts

A script is read command by command, so that a mistake in one line does not keep the lines before it
from running. Words are read together with the quotes and the parts to put in; the text that follows
a line for one of its commands is cut out as soon as the command asks for it. -/

namespace SyscallGuard.Shell

/-- What is left of a script. -/
structure Source where
  rest : Bytes
  line : Nat
  /-- How many lines were cut out behind the next line feed. -/
  hidden : Nat := 0

/-- Why a script cannot be read. -/
inductive Fault where
  | unexpected (token : String) (expected : Option String)
  /-- A quote is not closed that was opened in some line. -/
  | unclosed (quote : UInt8) (line : Nat)
  | message (text : String)

/-- The text of a mistake. -/
def Fault.text : Fault → String
  | unexpected token expected =>
    token ++ " unexpected" ++ match expected with
      | some e => " (expecting " ++ e ++ ")"
      | none => ""
  | unclosed _ _ => "Unterminated quoted string"
  | message text => text

/-- Reads a script. -/
abbrev Reader := ExceptT Fault (StateM Source)

namespace Reader

/-- The bytes that are left. -/
def rest : Reader Bytes := return (← get).rest

/-- Takes a byte, and counts it if it ends a line. -/
def skip : Reader Unit := modify fun s =>
  match s.rest with
  | [] => s
  | 10 :: rest => { s with rest, line := s.line + 1 + s.hidden, hidden := 0 }
  | _ :: rest => { s with rest }

/-- Takes some bytes. -/
def skipMany : Nat → Reader Unit
  | 0 => return
  | n + 1 => do
    skip
    skipMany n

/-- Takes bytes as long as a test holds. -/
def takeWhile (test : UInt8 → Bool) : Reader Bytes := do
  let taken := (← rest).takeWhile test
  skipMany taken.length
  return taken

/-- Fails with a message. -/
def fail {α : Type} (text : String) : Reader α := throw (.message text)

end Reader

/-! ## Words -/

/-- Whether a byte can start a name. -/
def isNameStart (b : UInt8) : Bool := (65 ≤ b && b ≤ 90) || (97 ≤ b && b ≤ 122) || b == 95

/-- Whether a byte can stand in a name. -/
def isNameByte (b : UInt8) : Bool := isNameStart b || (48 ≤ b && b ≤ 57)

/-- Whether bytes are a name. -/
def isName (b : Bytes) : Bool :=
  match b with
  | [] => false
  | first :: rest => isNameStart first && rest.all isNameByte

/-- Whether a byte is a digit. -/
def isDigit (b : UInt8) : Bool := 48 ≤ b && b ≤ 57

/-- The parameters whose name is a sign. -/
def isSpecial (b : UInt8) : Bool := List.contains (Bytes.ofString "@*#?-$") b

/-- Whether a byte ends a word. -/
def isMeta (b : UInt8) : Bool := List.contains (Bytes.ofString " \t\n;&|<>()") b

/-- What parts stand between. The number that goes with a mode is the line in which a quote was opened,
    or the number of open parentheses. -/
inductive Mode where
  | plain
  /-- Between double quotes. -/
  | double
  /-- Between braces, which may themselves be between double quotes. -/
  | brace (quoted : Bool)
  /-- In a calculation. -/
  | arithmetic
  /-- In the text that follows a line. -/
  | document
deriving DecidableEq

namespace Mode

/-- Whether parts are protected from being split. -/
def isQuoted : Mode → Bool
  | plain => false
  | brace quoted => quoted
  | double | arithmetic | document => true

end Mode

/-- Puts a byte behind the last part, the parts being kept in reverse. -/
def pushByte (b : UInt8) (quoted : Bool) : List Part → List Part
  | .text bytes q :: rest =>
    if q == quoted then .text (bytes ++ [b]) q :: rest else .text [b] quoted :: .text bytes q :: rest
  | parts => .text [b] quoted :: parts

/-- The text of a command up to the parenthesis that ends it. -/
def commandText : Nat → Nat → Bytes → Bytes → Option Bytes
  | 0, _, _, _ => none
  | _ + 1, _, _, [] => none
  | fuel + 1, depth, taken, b :: rest =>
    if b = 92 then
      match rest with
      | c :: rest => commandText fuel depth (c :: b :: taken) rest
      | [] => none
    else if b = 39 then
      let inner := rest.takeWhile fun c => c != 39
      let behind := rest.drop (inner.length + 1)
      if inner.length = rest.length then none
      else commandText fuel depth (39 :: (inner.reverse ++ b :: taken)) behind
    else if b = 34 then
      let inner := (rest.zip (0 :: rest)).takeWhile fun c => !(c.1 == 34 && c.2 != 92)
      let behind := rest.drop (inner.length + 1)
      if inner.length = rest.length then none
      else commandText fuel depth (34 :: ((inner.map Prod.fst).reverse ++ b :: taken)) behind
    else if b = 40 then commandText fuel (depth + 1) (b :: taken) rest
    else if b = 41 then
      if depth = 0 then some taken.reverse else commandText fuel (depth - 1) (b :: taken) rest
    else commandText fuel depth (b :: taken) rest

/-- The text of a command up to the back quote that ends it, without the backslashes that belong to
    the quote. -/
def backquoted (quoted : Bool) : Nat → Bytes → Bytes → Option (Bytes × Bytes)
  | 0, _, _ => none
  | _ + 1, _, [] => none
  | fuel + 1, taken, 92 :: c :: rest =>
    if c = 96 ∨ c = 92 ∨ c = 36 ∨ (quoted ∧ c = 34) then backquoted quoted fuel (c :: taken) rest
    else backquoted quoted fuel (c :: 92 :: taken) rest
  | fuel + 1, taken, b :: rest =>
    if b = 96 then some (taken.reverse, rest) else backquoted quoted fuel (b :: taken) rest

/-- The operator behind the name of a parameter, and how long it is. -/
def operatorOf : Bytes → Operator × Nat
  | 125 :: _ => (.value, 0)
  | 58 :: 45 :: _ => (.default true, 2)
  | 58 :: 61 :: _ => (.assign true, 2)
  | 58 :: 43 :: _ => (.alternative true, 2)
  | 58 :: 63 :: _ => (.require true, 2)
  | 45 :: _ => (.default false, 1)
  | 61 :: _ => (.assign false, 1)
  | 43 :: _ => (.alternative false, 1)
  | 63 :: _ => (.require false, 1)
  | 37 :: 37 :: _ => (.trim true true, 2)
  | 37 :: _ => (.trim true false, 1)
  | 35 :: 35 :: _ => (.trim false true, 2)
  | 35 :: _ => (.trim false false, 1)
  | _ => (.bad, 0)

/-- The name of a parameter at the start of some bytes. -/
def parameterName (b : Bytes) : Bytes :=
  match b with
  | first :: _ =>
    if isDigit first then b.takeWhile isDigit
    else if isNameStart first then b.takeWhile isNameByte
    else if isSpecial first then [first]
    else []
  | [] => []

mutual

/-- Reads parts up to the end of their mode, behind the ones read so far, which are kept in
    reverse. -/
def readParts : Nat → Mode → Nat → List Part → Reader Word
  | 0, _, _, done => return done.reverse
  | fuel + 1, mode, depth, done => do
    let quoted := mode.isQuoted
    match ← Reader.rest with
    | [] =>
      match mode with
      | .plain | .document => return done.reverse
      | .double => throw (.unclosed 34 depth)
      | .brace _ => Reader.fail "Missing '\x7d'"
      | .arithmetic => Reader.fail "Missing '))'"
    | 92 :: next => do
      match next with
      | [] =>
        Reader.skip
        readParts fuel mode depth (pushByte 92 quoted done)
      | c :: _ =>
        if c = 10 then
          Reader.skipMany 2
          readParts fuel mode depth done
        else
          let escapes := match mode with
            | .plain | .brace false => true
            | .double | .brace true => List.contains [36, 96, 34, 92, 125] c
            | .arithmetic => List.contains [36, 96, 92] c
            | .document => List.contains [36, 96, 92] c
          let escapes := if mode = .double && c == 125 then false else escapes
          Reader.skipMany 2
          if escapes then readParts fuel mode depth (pushByte c true done)
          else readParts fuel mode depth (pushByte c quoted (pushByte 92 quoted done))
    | 36 :: _ => do
      let part ← readDollar fuel quoted
      readParts fuel mode depth (match part with
        | .text bytes q => bytes.foldl (fun done b => pushByte b q done) done
        | part => part :: done)
    | 96 :: rest => do
      let line := (← get).line
      match backquoted quoted (rest.length + 1) [] rest with
      | none => Reader.fail "EOF in backquote substitution"
      | some (source, behind) =>
        Reader.skipMany (rest.length + 1 - behind.length)
        readParts fuel mode depth (.command source line quoted :: done)
    | b :: rest =>
      match mode with
      | .plain | .brace false =>
        if mode = .plain && isMeta b then return done.reverse
        else if b = 125 && mode != .plain then
          Reader.skip
          return done.reverse
        else if b = 39 then
          let inner := rest.takeWhile fun c => c != 39
          let line := (← get).line
          Reader.skipMany (inner.length + 2)
          if inner.length = rest.length then throw (.unclosed 39 line)
          let done := if inner.isEmpty then .text [] true :: done else done
          readParts fuel mode depth (inner.foldl (fun done b => pushByte b true done) done)
        else if b = 34 then
          let line := (← get).line
          Reader.skip
          let inner ← readParts fuel .double line []
          let inner := if inner.isEmpty then [.text [] true] else inner
          readParts fuel mode depth (inner.reverse ++ done)
        else
          Reader.skip
          readParts fuel mode depth (pushByte b false done)
      | .brace true =>
        Reader.skip
        if b = 125 then return done.reverse
        else if b = 34 then
          let inner ← readParts fuel .double (← get).line []
          readParts fuel mode depth (inner.reverse ++ done)
        else readParts fuel mode depth (pushByte b true done)
      | .double =>
        Reader.skip
        if b = 34 then return done.reverse
        else readParts fuel mode depth (pushByte b true done)
      | .arithmetic =>
        if b = 41 && depth == 0 then
          if rest.head? = some 41 then
            Reader.skipMany 2
            return done.reverse
          else Reader.fail "Missing '))'"
        else
          Reader.skip
          let depth := if b = 40 then depth + 1 else if b = 41 then depth - 1 else depth
          if b = 34 then readParts fuel mode depth done
          else readParts fuel mode depth (pushByte b true done)
      | .document =>
        Reader.skip
        readParts fuel mode depth (pushByte b true done)

/-- Reads what stands behind a dollar sign. -/
def readDollar : Nat → Bool → Reader Part
  | 0, quoted => return .text [36] quoted
  | fuel + 1, quoted => do
    let line := (← get).line
    Reader.skip
    match ← Reader.rest with
    | 40 :: 40 :: _ =>
      Reader.skipMany 2
      return .arithmetic (← readParts fuel .arithmetic 0 []) quoted
    | 40 :: rest =>
      match commandText (rest.length + 1) 0 [] rest with
      | none =>
        Reader.skipMany (rest.length + 1)
        throw (.unexpected "end of file" (some "\")\""))
      | some source =>
        Reader.skipMany (source.length + 2)
        return .command source line quoted
    | 123 :: rest =>
      Reader.skip
      match rest with
      | 35 :: behind =>
        let name := parameterName behind
        if !name.isEmpty && (behind.drop name.length).head? == some 125 then
          Reader.skipMany (name.length + 2)
          return .parameter name .length [] quoted
        else readParameter fuel rest quoted
      | _ => readParameter fuel rest quoted
    | rest =>
      let name := parameterName rest
      if name.isEmpty then return .text [36] quoted
      else
        let name := if (name.head?.map isDigit).getD false then name.take 1 else name
        Reader.skipMany name.length
        return .parameter name .value [] quoted

/-- Reads a parameter between braces. -/
def readParameter : Nat → Bytes → Bool → Reader Part
  | 0, _, quoted => return .text [] quoted
  | fuel + 1, rest, quoted => do
    let name := parameterName rest
    Reader.skipMany name.length
    let behind := rest.drop name.length
    if behind.isEmpty || behind.head? == some 10 then Reader.fail "Missing '\x7d'"
    let (operator, length) := operatorOf behind
    let operator := if name.isEmpty then .bad else operator
    Reader.skipMany length
    let mode := match operator with
      | .trim .. => Mode.brace false
      | _ => .brace quoted
    let word ← readParts fuel mode 0 []
    return .parameter name operator word quoted

end

/-! ## Tokens -/

/-- A piece of a script. -/
inductive Token where
  | word (w : Word)
  /-- A number directly in front of a redirection. -/
  | number (n : Nat)
  | operator (text : String)
  | newline
  | stop

/-- The words with a meaning of their own at the start of a command. -/
def keywords : List String :=
  ["!", "\x7b", "\x7d", "case", "do", "done", "elif", "else", "esac", "fi", "for", "if", "in", "then",
    "until", "while"]

/-- The keyword that a word is. -/
def keyword? (w : Word) : Option String :=
  (Word.plain? w).bind fun b => keywords.find? fun k => Bytes.ofString k == b

/-- The signs between words, longer ones first. -/
def operators : List String :=
  ["<<-", "&&", "||", ";;", "<<", ">>", "<&", ">&", "<>", ";", "&", "|", "<", ">", "(", ")"]

/-- The name of a token in a complaint. -/
def Token.describe (keywordsCount : Bool) : Token → String
  | word w =>
    match if keywordsCount then keyword? w else none with
    | some k => "\"" ++ k ++ "\""
    | none => "word"
  | number _ => "word"
  | operator text => if [";", "&", "&&", "||", "|", "(", ")", ";;"].contains text
    then "\"" ++ text ++ "\"" else "redirection"
  | newline => "newline"
  | stop => "end of file"

/-- Passes over blanks, comments and joined lines. -/
def skipBlanks : Nat → Reader Unit
  | 0 => return
  | fuel + 1 => do
    match ← Reader.rest with
    | 92 :: 10 :: _ =>
      Reader.skipMany 2
      skipBlanks fuel
    | 35 :: _ =>
      let _ ← Reader.takeWhile fun b => b != 10
      return
    | b :: _ =>
      if b = 32 ∨ b = 9 then
        Reader.skip
        skipBlanks fuel
      else return
    | [] => return

/-- More steps than a script needs. -/
def depthLimit : Nat := 1000000

/-- Reads a token. -/
def readToken : Reader Token := do
  skipBlanks depthLimit
  let rest ← Reader.rest
  match rest with
  | [] => return .stop
  | 10 :: _ =>
    Reader.skip
    return .newline
  | _ =>
    match operators.find? fun o => (Bytes.ofString o).isPrefixOf rest with
    | some o =>
      Reader.skipMany o.length
      return .operator o
    | none =>
      let digits := rest.takeWhile isDigit
      let behind := (rest.drop digits.length).head?
      if !digits.isEmpty && (behind == some 60 || behind == some 62) then
        Reader.skipMany digits.length
        return .number (digits.foldl (fun n b => n * 10 + (b.toNat - 48)) 0)
      else return .word (← readParts depthLimit .plain 0 [])

/-- The next token, which stays. -/
def peekToken : Reader Token := do
  let s ← get
  let t ← readToken
  set s
  return t

/-- Passes over the ends of lines. -/
def skipLines : Nat → Reader Unit
  | 0 => return
  | fuel + 1 => do
    match ← peekToken with
    | .newline =>
      let _ ← readToken
      skipLines fuel
    | _ => return

/-- Fails at the next token. -/
def refuse {α : Type} (expected : Option String) : Reader α := do
  let t ← readToken
  throw (.unexpected (t.describe true) expected)

/-- Whether the next token is a keyword. -/
def isKeyword (k : String) : Token → Bool
  | .word w => keyword? w == some k
  | _ => false

/-- Takes a keyword. -/
def expectKeyword (k : String) : Reader Unit := do
  skipLines depthLimit
  if isKeyword k (← peekToken) then
    let _ ← readToken
  else refuse (some ("\"" ++ k ++ "\""))

/-- Whether a token ends a list of commands inside of another command. -/
def endsList : Token → Bool
  | .stop => true
  | .operator o => o == ")" || o == ";;"
  | .word w => ["do", "done", "elif", "else", "esac", "fi", "then", "\x7d"].any fun k =>
    keyword? w == some k
  | _ => false

/-! ## Redirections -/

/-- The text of a word, with the quotes taken away, and whether there were any. -/
def unquote (w : Word) : Bytes × Bool :=
  w.foldl (fun (bytes, quoted) p => match p with
    | .text b q => (bytes ++ b, quoted || q)
    | .parameter name _ _ q => (bytes ++ 36 :: name, quoted || q)
    | _ => (bytes, quoted)) ([], false)

/-- Splits lines into those in front of a final line and those behind it. -/
def splitAtLine (stop : Bytes) (stripTabs : Bool) :
    List Bytes → List Bytes → List Bytes × List Bytes × Bool
  | taken, [] => (taken.reverse, [], false)
  | taken, line :: rest =>
    let line := if stripTabs then line.dropWhile fun b => b == 9 else line
    if line = stop then (taken.reverse, rest, true)
    else splitAtLine stop stripTabs (line :: taken) rest

/-- The lines of a text, without their ends. -/
def linesOf (b : Bytes) : List Bytes :=
  let (done, last) := b.foldl (fun (done, current) x =>
    if x = 10 then (current.reverse :: done, []) else (done, x :: current)) ([], [])
  (if last.isEmpty then done else last.reverse :: done).reverse

/-- Cuts out the text that follows the current line. -/
def readDocument (stop : Word) (stripTabs : Bool) : Reader Word := do
  let (mark, quoted) := unquote stop
  let s ← get
  let current := s.rest.takeWhile fun b => b != 10
  let following := s.rest.drop (current.length + 1)
  let passed := linesOf following
  let (body, behind, ended) := splitAtLine mark stripTabs [] passed
  let text := body.flatMap fun l => l ++ [10]
  let text := if ended || following.getLast? == some 10 then text else text.dropLast
  let cut := body.length + if ended then 1 else 0
  let behindText := behind.flatMap fun l => l ++ [10]
  let behindText := if following.getLast? == some 10 || behind.isEmpty then behindText
    else behindText.dropLast
  set { s with rest := current ++ 10 :: behindText, hidden := s.hidden + cut }
  if quoted then return [.text text true]
  else
    let inner : Source := ⟨text, s.line + 1, 0⟩
    match ((readParts depthLimit .document 0 []).run.run inner).1 with
    | .ok w => return w
    | .error e => throw e

/-- Reads the target of a redirection. -/
def readTarget (descriptor : Option Nat) (o : String) : Reader Redirect := do
  match ← peekToken with
  | .word w =>
    let _ ← readToken
    let make (default : Nat) (kind : Redirection) : Redirect :=
      ⟨descriptor.getD default, kind, w⟩
    match o with
    | "<" => return make 0 .input
    | ">" => return make 1 .output
    | ">>" => return make 1 .append
    | "<>" => return make 0 .both
    | "<&" => return make 0 .duplicate
    | ">&" => return make 1 .duplicate
    | "<<" => return { make 0 .here with target := ← readDocument w false }
    | _ => return { make 0 .here with target := ← readDocument w true }
  | _ => refuse none

/-- Reads a redirection, if there is one. -/
def readRedirect? : Reader (Option Redirect) := do
  let isRedirection (o : String) : Bool :=
    ["<", ">", ">>", "<>", "<&", ">&", "<<", "<<-"].contains o
  match ← peekToken with
  | .number n =>
    let _ ← readToken
    match ← readToken with
    | .operator o => return some (← readTarget (some n) o)
    | t => throw (.unexpected (t.describe true) none)
  | .operator o =>
    if isRedirection o then
      let _ ← readToken
      return some (← readTarget none o)
    else return none
  | _ => return none

/-- Reads redirections. -/
def readRedirects : Nat → Reader (List Redirect)
  | 0 => return []
  | fuel + 1 => do
    match ← readRedirect? with
    | some r => return r :: (← readRedirects fuel)
    | none => return []

/-! ## Commands -/

/-- The assignment that a word is. -/
def assignment? : Word → Option (Bytes × Word)
  | .text b false :: rest =>
    let name := b.takeWhile fun c => c != 61
    if name.length < b.length && isName name then
      let behind := b.drop (name.length + 1)
      some (name, if behind.isEmpty then rest else .text behind false :: rest)
    else none
  | _ => none

/-- What was read of a command without keywords. -/
structure Draft where
  assignments : List (Bytes × Word) := []
  words : List Word := []
  redirects : List Redirect := []

mutual

/-- Reads the words of a command. -/
def readSimple : Nat → Nat → Draft → Reader Command
  | 0, line, d => return .simple line d.assignments d.words d.redirects
  | fuel + 1, line, d => do
    match ← readRedirect? with
    | some r => readSimple fuel line { d with redirects := d.redirects ++ [r] }
    | none =>
      match ← peekToken with
      | .word w =>
        let _ ← readToken
        match if d.words.isEmpty then assignment? w else none with
        | some a => readSimple fuel line { d with assignments := d.assignments ++ [a] }
        | none => readSimple fuel line { d with words := d.words ++ [w] }
      | _ => return .simple line d.assignments d.words d.redirects

/-- Reads a command. -/
def readCommand : Nat → Reader Command
  | 0 => Reader.fail "too deep"
  | fuel + 1 => do
    let t ← peekToken
    let line := (← get).line
    let redirected (c : Command) : Reader Command := do
      match ← readRedirects depthLimit with
      | [] => return c
      | rs => return .redirected line c rs
    match t with
    | .operator "(" =>
      let _ ← readToken
      let body ← readList fuel
      match ← readToken with
      | .operator ")" => redirected (.subshell body)
      | t => throw (.unexpected (t.describe true) (some "\")\""))
    | .word w =>
      match keyword? w with
      | none => readSimple fuel line {}
      | some "\x7b" =>
        let _ ← readToken
        let body ← readList fuel
        expectKeyword "\x7d"
        redirected body
      | some "if" =>
        let _ ← readToken
        redirected (← readConditional fuel)
      | some "while" => redirected (← readLoop fuel false)
      | some "until" => redirected (← readLoop fuel true)
      | some "for" => redirected (← readEach fuel)
      | some "case" => redirected (← readSelect fuel line)
      | some _ => refuse none
    | .operator o =>
      if [";", "&", "&&", "||", "|", ")", ";;"].contains o then refuse none
      else readSimple fuel line {}
    | .number _ => readSimple fuel line {}
    | .newline | .stop => refuse none

/-- Reads a condition and what depends on it. -/
def readConditional : Nat → Reader Command
  | 0 => Reader.fail "too deep"
  | fuel + 1 => do
    let test ← readList fuel
    expectKeyword "then"
    let yes ← readList fuel
    match ← peekToken with
    | .word w =>
      match keyword? w with
      | some "elif" =>
        let _ ← readToken
        return .conditional test yes (some (← readConditional fuel))
      | some "else" =>
        let _ ← readToken
        let no ← readList fuel
        expectKeyword "fi"
        return .conditional test yes (some no)
      | _ =>
        expectKeyword "fi"
        return .conditional test yes none
    | _ =>
      expectKeyword "fi"
      return .conditional test yes none

/-- Reads a loop. -/
def readLoop : Nat → Bool → Reader Command
  | 0, _ => Reader.fail "too deep"
  | fuel + 1, whileFails => do
    let _ ← readToken
    let test ← readList fuel
    expectKeyword "do"
    let body ← readList fuel
    expectKeyword "done"
    return .loop whileFails test body

/-- Reads a loop over words. -/
def readEach : Nat → Reader Command
  | 0 => Reader.fail "too deep"
  | fuel + 1 => do
    let _ ← readToken
    let name ← match ← readToken with
      | .word w =>
        match Word.plain? w with
        | some b => if isName b then pure b else Reader.fail "Bad for loop variable"
        | none => Reader.fail "Bad for loop variable"
      | _ => Reader.fail "Bad for loop variable"
    skipLines depthLimit
    let words ← if isKeyword "in" (← peekToken) then do
        let _ ← readToken
        let words ← readWords fuel
        match ← readToken with
        | .newline | .operator ";" => pure (some words)
        | t => throw (.unexpected (t.describe true) none)
      else match ← peekToken with
        | .operator ";" => do
          let _ ← readToken
          pure none
        | _ => pure none
    expectKeyword "do"
    let body ← readList fuel
    expectKeyword "done"
    return .each name words body

/-- Reads words. -/
def readWords : Nat → Reader (List Word)
  | 0 => return []
  | fuel + 1 => do
    match ← peekToken with
    | .word w =>
      let _ ← readToken
      return w :: (← readWords fuel)
    | _ => return []

/-- Reads a choice by a word. -/
def readSelect : Nat → Nat → Reader Command
  | 0, _ => Reader.fail "too deep"
  | fuel + 1, line => do
    let _ ← readToken
    match ← readToken with
    | .word w =>
      skipLines depthLimit
      expectKeyword "in"
      return .select line w (← readBranches fuel)
    | t => throw (.unexpected (t.describe true) (some "word"))

/-- Reads the branches of a choice. -/
def readBranches : Nat → Reader (List (List Word × Option Command))
  | 0 => return []
  | fuel + 1 => do
    skipLines depthLimit
    let t ← peekToken
    if isKeyword "esac" t then
      let _ ← readToken
      return []
    else
      match t with
      | .operator "(" =>
        let _ ← readToken
      | _ => pure ()
      let patterns ← readPatterns fuel
      match ← readToken with
      | .operator ")" => pure ()
      | t => throw (.unexpected (t.describe false) (some "\")\""))
      skipLines depthLimit
      let body ← if endsList (← peekToken) then pure none else some <$> readList fuel
      skipLines depthLimit
      let t ← readToken
      if isKeyword "esac" t then return [(patterns, body)]
      else match t with
        | .operator ";;" => return (patterns, body) :: (← readBranches fuel)
        | t => throw (.unexpected (t.describe true) (some "\";;\""))

/-- Reads the patterns of a branch. -/
def readPatterns : Nat → Reader (List Word)
  | 0 => return []
  | fuel + 1 => do
    let w := match ← readToken with
      | .word w => w
      | _ => []
    match ← peekToken with
    | .operator "|" =>
      let _ ← readToken
      return w :: (← readPatterns fuel)
    | _ => return [w]

/-- Reads commands joined by pipes. -/
def readPipeline : Nat → Reader Command
  | 0 => Reader.fail "too deep"
  | fuel + 1 => do
    if isKeyword "!" (← peekToken) then
      let _ ← readToken
      return .negation (← readPipeline fuel)
    else
      let first ← readCommand fuel
      let others ← readPiped fuel
      return if others.isEmpty then first else .pipeline (first :: others)

/-- Reads the commands behind a pipe. -/
def readPiped : Nat → Reader (List Command)
  | 0 => return []
  | fuel + 1 => do
    match ← peekToken with
    | .operator "|" =>
      let _ ← readToken
      skipLines depthLimit
      let c ← readCommand fuel
      return c :: (← readPiped fuel)
    | _ => return []

/-- Reads pipelines that depend on each other, behind the ones read so far. -/
def readChain : Nat → Command → Reader Command
  | 0, c => return c
  | fuel + 1, c => do
    match ← peekToken with
    | .operator "&&" =>
      let _ ← readToken
      skipLines depthLimit
      readChain fuel (.conjunction c (← readPipeline fuel))
    | .operator "||" =>
      let _ ← readToken
      skipLines depthLimit
      readChain fuel (.disjunction c (← readPipeline fuel))
    | _ => return c

/-- Reads a list of commands inside of another command. -/
def readList : Nat → Reader Command
  | 0 => Reader.fail "too deep"
  | fuel + 1 => do
    skipLines depthLimit
    match ← peekToken with
    | .stop => return .pipeline []
    | _ => pure ()
    let c ← readChain fuel (← readPipeline fuel)
    let c ← match ← peekToken with
      | .operator "&" => do
        let _ ← readToken
        pure (.background c)
      | .operator ";" => do
        let _ ← readToken
        pure c
      | .newline => pure c
      | _ => return c
    skipLines depthLimit
    if endsList (← peekToken) then return c else return .sequence c (← readList fuel)

end

/-- Reads the commands on a line. -/
def readLine : Nat → Reader Command
  | 0 => Reader.fail "too deep"
  | fuel + 1 => do
    let c ← readChain depthLimit (← readPipeline depthLimit)
    let goOn (c : Command) : Reader Command := do
      match ← peekToken with
      | .newline =>
        let _ ← readToken
        return c
      | .stop => return c
      | _ => return .sequence c (← readLine fuel)
    match ← readToken with
    | .newline | .stop => return c
    | .operator ";" => goOn c
    | .operator "&" => goOn (.background c)
    | t => throw (.unexpected (t.describe true) none)

/-- Reads the next commands of a script, if there are any. -/
def readNext : Reader (Option Command) := do
  skipLines depthLimit
  match ← peekToken with
  | .stop => return none
  | _ => return some (← readLine depthLimit)

end SyscallGuard.Shell
