import SyscallGuard.Process.Shell.State
import SyscallGuard.Process.Shell.Wildcard

set_option autoImplicit false

/-! # Expanding words

Before a command runs, parameters, commands and calculations are put into its words. What was put in
outside of quotes is split into fields, and a field with the signs of a pattern is replaced by the
paths it leads to. -/

namespace SyscallGuard.Shell

/-- A piece of an expanded word. -/
inductive Fragment where
  /-- Bytes that may be quoted and may be split. -/
  | text (bytes : Bytes) (quoted splits : Bool)
  /-- The end of a field. -/
  | separator

/-! ## Fields -/

/-- Fields in the making. -/
structure Fields where
  /-- The finished fields, the last one first. -/
  done : List (List Letter) := []
  /-- The letters of the current field, the last one first. -/
  current : Option (List Letter) := none
  /-- Whether the last field was ended by white space, which goes together with another separator. -/
  loose : Bool := false

namespace Fields

/-- Ends the current field, if there is one. -/
def close (f : Fields) (loose : Bool) : Fields :=
  match f.current with
  | some letters => ⟨letters.reverse :: f.done, none, loose⟩
  | none => f

/-- Adds a letter to the current field. -/
def push (f : Fields) (c : Letter) : Fields :=
  { f with current := some (c :: f.current.getD []), loose := false }

/-- Adds a byte that may separate fields. -/
def split (separators : Bytes) (f : Fields) (b : UInt8) : Fields :=
  if !List.contains separators b then f.push ⟨b, false⟩
  else if b = 32 ∨ b = 9 ∨ b = 10 then f.close true
  else if f.current.isSome then f.close false
  else if f.loose then { f with loose := false }
  else { f with done := [] :: f.done }

/-- Adds a piece of a word. -/
def add (separators : Bytes) (f : Fields) : Fragment → Fields
  | .separator => f.close false
  | .text bytes quoted splits =>
    if splits && !quoted then bytes.foldl (split separators) f
    else
      let f := if quoted && f.current.isNone then { f with current := some [] } else f
      bytes.foldl (fun f b => f.push ⟨b, quoted⟩) f

/-- All fields. -/
def finish (f : Fields) : List (List Letter) := (f.close false).done.reverse

end Fields

/-- The fields of the pieces of a word. -/
def fieldsOf (separators : Bytes) (fragments : List Fragment) : List (List Letter) :=
  (fragments.foldl (Fields.add separators) {}).finish

/-- The pieces of a word as one text. -/
def joined (fragments : List Fragment) : List Letter :=
  fragments.flatMap fun f => match f with
    | .text bytes quoted _ => bytes.map fun b => ⟨b, quoted⟩
    | .separator => [⟨32, false⟩]

/-! ## Parameters -/

/-- A text between arguments. -/
def between (gap : Bytes) (args : List Bytes) : Bytes := gap.intercalate args

/-- The letters of the options as a parameter shows them. -/
def optionLetters (s : State) : Bytes :=
  s.options.map fun c => UInt8.ofNat c.toNat

/-- The value of a parameter that is not a list. -/
def parameter? (s : State) (name : Bytes) : Option Bytes :=
  match name with
  | [35] => some (Bytes.ofNat s.arguments.length)
  | [63] => some (Bytes.ofNat s.status)
  | [45] => some (optionLetters s)
  | [36] => some (Bytes.ofNat ownNumber)
  | [64] | [42] =>
    if s.arguments.isEmpty then none
    else
      let gap := if name == [64] then [32] else s.separators.take 1
      some (between gap s.arguments)
  | b :: _ =>
    if isDigit b then
      match Bytes.toNat? name with
      | some 0 => some s.name
      | some n => s.arguments[n - 1]?
      | none => none
    else s.value? name
  | [] => none

/-- The shortest or longest piece at an end that fits a pattern, taken away. -/
def trim (fromEnd longest : Bool) (pattern : List Wildcard) (value : Bytes) : Bytes :=
  let lengths := List.range (value.length + 1)
  let lengths := if longest then lengths.reverse else lengths
  let found := lengths.find? fun n =>
    Wildcard.fits pattern (if fromEnd then value.drop (value.length - n) else value.take n)
  match found with
  | some n => if fromEnd then value.take (value.length - n) else value.drop n
  | none => value

/-! ## Expansion -/

/-- Runs a command that stands in a word, given its text and its line, for its output. -/
abbrev Substitution := Bytes → Nat → Job Bytes

/-- An output without the line feeds at its end. -/
def trimNewlines (b : Bytes) : Bytes := (b.reverse.dropWhile fun c => c == 10).reverse

mutual

/-- Expands the parts of a word. The flag says whether text that was not quoted is split. -/
def expandParts (run : Substitution) (splits : Bool) : Nat → Word → Job (List Fragment)
  | 0, _ => return []
  | _ + 1, [] => return []
  | fuel + 1, p :: rest => do
    let first ← expandPart run splits fuel p
    return first ++ (← expandParts run splits fuel rest)

/-- Expands a part of a word. -/
def expandPart (run : Substitution) (splits : Bool) : Nat → Part → Job (List Fragment)
  | 0, _ => return []
  | fuel + 1, p => do
    match p with
    | .text bytes quoted => return [.text bytes quoted splits]
    | .command source line quoted =>
      return [.text (trimNewlines (← run source line)) quoted true]
    | .arithmetic expression quoted =>
      let text := lettersBytes (joined (← expandParts run false fuel expression))
      let s ← get
      let text := if s.dialect = .rich && text.all Bytes.isSpace then [48] else text
      match Arithmetic.evaluate s.value? text with
      | .ok n => return [.text (Bytes.ofString (toString n)) quoted true]
      | .error (.number value) =>
        Job.abort ("Illegal number: " ++ Utf8.display value)
      | .error e =>
        match s.dialect with
        | .plain =>
          Job.abort ("arithmetic expression: " ++ e.text ++ ": \"" ++ Utf8.display text ++ "\"")
        | .rich =>
          Job.discard (Utf8.display text ++ ": " ++ (match e with
            | .division => "division by 0 (error token is \"0\")"
            | e => "syntax error: " ++ e.text))
    | .parameter name operator word quoted => expandParameter run fuel name operator word quoted

/-- Expands a parameter. -/
def expandParameter (run : Substitution) :
    Nat → Bytes → Operator → Word → Bool → Job (List Fragment)
  | 0, _, _, _, _ => return []
  | fuel + 1, name, operator, word, quoted => do
    let s ← get
    let value := parameter? s name
    let isList := name == [64] || name == [42]
    let list : List Fragment :=
      if quoted && name == [42] then [.text (value.getD []) true true]
      else (s.arguments.map fun a => Fragment.text a quoted true).intersperse .separator
    let plain : List Fragment := if isList then list else [.text (value.getD []) quoted true]
    let isUnset := value.isNone && !isList
    let check : Job Unit := do
      if isUnset && s.has 'u' then
        match s.dialect with
        | .plain => Job.abort (Utf8.display name ++ ": parameter not set")
        | .rich => Job.abort (Utf8.display name ++ ": unbound variable")
    let isMissing (empty : Bool) : Bool := value.isNone || (empty && value == some [])
    match operator with
    | .value =>
      check
      return plain
    | .length =>
      check
      let n := if isList then s.arguments.length else (value.getD []).length
      return [.text (Bytes.ofNat n) quoted true]
    | .default empty =>
      if isMissing empty then expandParts run true fuel word else return plain
    | .alternative empty =>
      if isMissing empty then return [.text [] quoted true] else expandParts run true fuel word
    | .assign empty =>
      if !isMissing empty then return plain
      else
        let text := lettersBytes (joined (← expandParts run true fuel word))
        if !isName name then Job.abort (Utf8.display name ++ ": bad variable name")
        Job.assign name text
        return [.text text quoted true]
    | .require empty =>
      if !isMissing empty then return plain
      else
        let text := lettersBytes (joined (← expandParts run true fuel word))
        let message :=
          if !word.isEmpty then Utf8.display text
          else if empty then "parameter not set or null"
          else "parameter not set"
        Job.abort (Utf8.display name ++ ": " ++ message)
    | .trim fromEnd longest =>
      check
      let pattern := Wildcard.read (joined (← expandParts run true fuel word))
      let cut (b : Bytes) : Bytes := trim fromEnd longest pattern b
      if isList then
        return plain.map fun f => match f with
          | .text b q k => .text (cut b) q k
          | .separator => .separator
      else return [.text (cut (value.getD [])) quoted true]
    | .bad =>
      match s.dialect with
      | .plain => Job.abort "Bad substitution"
      | .rich => Job.abort ("$\x7b" ++ Utf8.display name ++ "\x7d: bad substitution")

end

/-- A word with the home directory in place of a tilde at its start. -/
def withHome (s : State) (w : Word) : Word :=
  match w with
  | .text (126 :: rest) false :: more =>
    if (rest.isEmpty && more.isEmpty) || rest.head? == some 47 then
      match s.value? (Bytes.ofString "HOME") with
      | some home => .text home true :: .text rest false :: more
      | none => w
    else w
  | _ => w

/-- More steps than a word needs. -/
def wordLimit : Nat := 100000

/-- A word as one text. -/
def expandText (run : Substitution) (w : Word) : Job Bytes := do
  return lettersBytes (joined (← expandParts run false wordLimit (withHome (← get) w)))

/-- A word as a pattern. -/
def expandPattern (run : Substitution) (w : Word) : Job (List Wildcard) := do
  return Wildcard.read (joined (← expandParts run false wordLimit w))

/-- A word as the texts that it becomes. -/
def expandWord (run : Substitution) (w : Word) : Job (List Bytes) := do
  let fragments ← expandParts run false wordLimit (withHome (← get) w)
  let s ← get
  let world := (← (getThe Session : StateT State (StateM Session) Session)).world
  return (fieldsOf s.separators fragments).flatMap fun letters =>
    if s.has 'f' || !Wildcard.isPattern letters then [lettersBytes letters]
    else match Wildcard.paths world s.directory letters with
      | [] => [lettersBytes letters]
      | found => found

/-- Words as the texts that they become. -/
def expandWords (run : Substitution) : List Word → Job (List Bytes)
  | [] => return []
  | w :: rest => do
    let first ← expandWord run w
    return first ++ (← expandWords run rest)

end SyscallGuard.Shell
