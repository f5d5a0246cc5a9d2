import SyscallGuard.Log.Event
import SyscallGuard.Log.Pattern
import SyscallGuard.Text.Order

set_option autoImplicit false

/-! # Log filters

A filter says which events are shown. It is written as directives with commas between them: a level
for everything, a target, or a target with a level. A directive may also name a span, or a field
with or without a value, in brackets. The directive that describes an event most closely decides
about it. Nothing here runs inside a span, and values are only looked at in spans, so directives
that ask for one of these decide about nothing. -/

namespace SyscallGuard

/-- Why a filter cannot be read. -/
inductive FilterError where
  | directive | level
  /-- The value that a field should have is not a pattern. -/
  | field (cause : PatternError)
deriving DecidableEq

/-- The text of an error. -/
def FilterError.text : FilterError → String
  | directive => "invalid filter directive"
  | level =>
    "error parsing level filter: expected one of \"off\", \"error\", \"warn\", \"info\", "
      ++ "\"debug\", \"trace\", or a number 0-5"
  | field .malformed => "invalid field filter: error building NFA"
  | field .wordBoundary =>
    "invalid field filter: unsupported regex feature for DFAs: cannot build DFAs for regexes with "
      ++ "Unicode word boundaries; switch to ASCII word boundaries, or heuristically enable Unicode "
      ++ "word boundaries or use a different regex engine"

/-- A field that events must have. -/
structure FieldTest where
  name : Bytes
  /-- Whether a value is asked for. -/
  valued : Bool

/-- One directive. -/
structure Directive where
  target : Option Bytes
  /-- Whether a span is asked for. -/
  span : Bool
  field : Option FieldTest
  /-- The rank of the least important level that is shown; zero shows nothing. -/
  rank : Nat

namespace Directive

/-! ## Reading -/

/-- A small letter for a capital one. -/
def lower (c : Char) : Char := if 'A' ≤ c ∧ c ≤ 'Z' then Char.ofNat (c.toNat + 32) else c

/-- The names of the levels in the order of their ranks. -/
def levelNames : List String := ["off", "error", "warn", "info", "debug", "trace"]

/-- The number that digits stand for, after an optional plus. -/
def number? (chars : List Char) : Option Nat :=
  let digits := if chars.head? == some '+' then chars.drop 1 else chars
  if !digits.isEmpty && digits.all Char.isDigit then
    some (digits.foldl (fun n c => n * 10 + (c.toNat - 48)) 0)
  else none

/-- The rank that a level is written as: its name in any case, or a number. -/
def rank? (text : Bytes) : Option Nat :=
  let chars := Utf8.lossy text
  match number? chars with
  | some n => if n ≤ 5 then some n else none
  | none => levelNames.idxOf? (String.ofList (chars.map lower))

/-- The rank behind an equals sign. Nothing there means every level. -/
def rankOf (text : Bytes) : Except FilterError Nat :=
  if text.isEmpty then .ok 5
  else match rank? text with
    | some n => .ok n
    | none => .error .level

/-- Whether a directive may start with a character. -/
def isStart (c : Char) : Bool :=
  c == '-' || c == ':' || c == '_' || Alphanumeric.isAlphanumeric c

/-- The part of a directive from one offset to another. -/
def part (whole : Bytes) (start stop : Nat) : Bytes := (whole.drop start).take (stop - start)

/-- The offset of the first of some characters at or behind an offset, and the character. -/
def find? (stops : List Char) (text : Bytes) (start : Nat) : Option (Nat × Char) :=
  let isStop (b : UInt8) : Bool := stops.any fun c => c.toNat == b.toNat
  let skipped := (text.drop start).takeWhile fun b => !isStop b
  (text[start + skipped.length]?).map fun b => (start + skipped.length, Char.ofNat b.toNat)

/-- What follows the brackets: nothing, or an equals sign and a level. -/
def behindBrackets (whole text : Bytes) (start : Nat) : Except FilterError Nat :=
  match find? ['='] text start with
  | some (i, _) => if i = start then rankOf (whole.drop (start + 1)) else .error .directive
  | none => if start < text.length then .error .directive else .ok 5

/-- The pieces between equals signs. -/
def sides (text : Bytes) : Bytes × Option Bytes :=
  let name := text.takeWhile fun b => b != 61
  let behind := text.drop name.length
  (name, if behind.isEmpty then none else some ((behind.drop 1).takeWhile fun b => b != 61))

/-- Reads a field test: a name, maybe with a value. -/
def fieldTest (text : Bytes) : Except FilterError FieldTest :=
  match sides text with
  | (name, none) => .ok ⟨name, false⟩
  | (name, some value) =>
    match ValuePattern.fault? (Utf8.lossy value) with
    | some e => .error (.field e)
    | none => .ok ⟨name, true⟩

/-- Reads what follows an opening bracket. -/
def brackets (whole text : Bytes) (target : Option Bytes) (start : Nat) :
    Except FilterError Directive :=
  match find? [']', '\x7b'] text start with
  | none => .error .directive
  | some (i, ']') => do
    let rank ← behindBrackets whole text (i + 1)
    return ⟨target, true, none, rank⟩
  | some (i, _) =>
    match find? ['\x7d'] text (i + 1) with
    | none => .error .directive
    | some (j, _) =>
      let field := part whole (i + 1) j
      if field.isEmpty then .error .directive
      else do
        let field ← fieldTest field
        if text[j + 1]? ≠ some 93 then .error .directive
        else
          let rank ← behindBrackets whole text (j + 2)
          return ⟨target, !(part whole start i).isEmpty, some field, rank⟩

/-- Reads a directive. Offsets are found without the white space around it, and then count from
    its very start. -/
def read (chars : List Char) : Except FilterError Directive :=
  let trimmed := Blank.trim chars
  let whole := Bytes.ofString (String.ofList chars)
  let text := Bytes.ofString (String.ofList trimmed)
  match trimmed with
  | [] => .error .directive
  | first :: _ =>
    if first = '[' then brackets whole text none 1
    else if !isStart first then .error .directive
    else match find? ['=', '['] text 1 with
      | none =>
        match rank? whole with
        | some n => .ok ⟨none, false, none, n⟩
        | none => .ok ⟨some whole, false, none, 5⟩
      | some (i, '=') => do
        let rank ← rankOf (whole.drop (i + 1))
        return ⟨some (part whole 0 i), false, none, rank⟩
      | some (i, _) => brackets whole text (some (part whole 0 i)) (i + 1)

/-! ## Fitting -/

/-- Whether a directive can decide about events outside of spans. -/
def decides (d : Directive) : Bool := !d.span && !d.field.any FieldTest.valued

/-- Whether a directive has a say about an event. Every event has a message. -/
def fits (d : Directive) (e : Event) : Bool :=
  (d.target.all fun target => target.isPrefixOf (Bytes.ofString e.target))
    && d.field.all fun f =>
      ("message" :: e.fields.map Prod.fst).any fun name => Bytes.ofString name == f.name

/-- Compares bytes in the order of dictionaries. -/
def compareBytes (a b : Bytes) : Ordering :=
  if a = b then .eq else if Bytes.before a b then .lt else .gt

/-- Which of two directives describes events less closely: one with a shorter target or none, one
    without a field, and then one whose names come first. -/
def closeness (a b : Directive) : Ordering :=
  (compare (a.target.map List.length) (b.target.map List.length)).then
    ((compare a.field.isSome.toNat b.field.isSome.toNat).then
      ((compareBytes (a.target.getD []) (b.target.getD [])).then
        (compareBytes ((a.field.map FieldTest.name).getD []) ((b.field.map FieldTest.name).getD []))))

end Directive

/-- What decides which events are shown. -/
structure Filter where
  /-- The directives that can decide about an event, the closest first. -/
  directives : List Directive
  /-- Whether there was any directive at all. -/
  given : Bool

namespace Filter

/-- The filter that is used if none is given. -/
def default : String := "info"

/-- The pieces between commas. -/
def pieces : List Char → List (List Char)
  | [] => [[]]
  | c :: rest =>
    if c = ',' then [] :: pieces rest
    else match pieces rest with
      | [] => [[c]]
      | piece :: more => (c :: piece) :: more

/-- Puts a directive among closer and less close ones. It takes the place of an earlier one that
    describes the same events. -/
def insert (d : Directive) : List Directive → List Directive
  | [] => [d]
  | first :: rest =>
    match d.closeness first with
    | .gt => d :: first :: rest
    | .eq => d :: rest
    | .lt => first :: insert d rest

/-- Reads a filter. -/
def read (text : List Char) : Except FilterError Filter :=
  match ((pieces text).filter fun p => !p.isEmpty).mapM Directive.read with
  | .error e => .error e
  | .ok all =>
    .ok ⟨(all.filter Directive.decides).foldl (fun ds d => insert d ds) [], !all.isEmpty⟩

/-- Whether an event is shown. A filter without directives shows errors only. -/
def shows (f : Filter) (e : Event) : Bool :=
  if !f.given then e.level.rank ≤ Level.error.rank
  else match f.directives.find? fun d => d.fits e with
    | some d => e.level.rank ≤ d.rank
    | none => false

end Filter

end SyscallGuard
