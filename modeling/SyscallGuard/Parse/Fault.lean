import SyscallGuard.Parse.Node

set_option autoImplicit false

/-! # Faults

A source is valid if its tree has no fault. A *fault* is a piece of the source that does not
belong to the grammar, or a token that had to be assumed. Strict parsing accepts valid sources only
and reports the first fault of the others; tolerant parsing lists them all. -/

namespace SyscallGuard

/-! ## Positions -/

/-- A line and a column, both counted from one; columns count bytes. -/
structure Position where
  line : Nat
  column : Nat
deriving DecidableEq

namespace Position

/-- The largest number a line or column is reported as. -/
def limit : Nat := 4294967295

/-- The position behind a byte: a line feed starts a new line. -/
def next (p : Position) (b : UInt8) : Position :=
  if b = Bytes.newline then ⟨p.line + 1, 1⟩ else ⟨p.line, p.column + 1⟩

/-- The position behind so many bytes. -/
def after (p : Position) : Nat → Bytes → Position
  | 0, _ => p
  | _ + 1, [] => p
  | n + 1, b :: rest => after (p.next b) n rest

/-- The position of an offset. -/
def ofOffset (source : Bytes) (offset : Nat) : Position :=
  let p := after ⟨1, 1⟩ offset source
  ⟨min limit p.line, min limit p.column⟩

end Position

/-! ## Faults -/

/-- A fault and where it lies. -/
structure Fault where
  start : Nat
  stop : Nat
  position : Position
  context : String
  message : String
deriving DecidableEq

namespace Fault

/-- A context longer than this is cut. -/
def contextLimit : Nat := 50

/-- What follows a context that has been cut. -/
def ellipsis : String := "..."

/-- Characters as a context: all of them, or the first with an ellipsis. -/
def clip (chars : List Char) : String :=
  if chars.length > contextLimit then
    String.ofList (chars.take (contextLimit - ellipsis.length)) ++ ellipsis
  else String.ofList chars

/-- The message for input outside of the grammar. -/
def unexpected : String := "unexpected input"

/-- Whether a node is a fault. -/
def isFault (n : Node) : Bool := n.kind == .fault || n.missing

/-- The fault at a node. -/
def ofNode (source : Bytes) (n : Node) : Fault where
  start := n.start
  stop := n.stop
  position := .ofOffset source n.start
  context := clip (Utf8.lossy (source.slice n.start n.stop))
  message := if n.missing then "missing " ++ n.kind.name else unexpected

/-- The faults of a tree, in the order of the source. -/
def ofTree (source : Bytes) (root : Node) : List Fault :=
  (root.preorder.filter isFault).map (ofNode source)

end Fault

/-! ## Errors -/

/-- Why a source has no syntax tree. -/
inductive SyntaxError where
  /-- The parser could not be set up. -/
  | parserInit (reason : String)
  /-- The source is not valid. -/
  | parse (position : Position) (message context : String)
  /-- The parser did not finish. -/
  | noTree
deriving DecidableEq

namespace SyntaxError

/-- The text of an error. -/
def text : SyntaxError → String
  | parserInit reason => "failed to initialise Go parser: " ++ reason
  | parse position message context =>
    "syntax error at " ++ toString position.line ++ ":" ++ toString position.column ++ ": "
      ++ message ++ " near `" ++ context ++ "`"
  | noTree => "parser produced no syntax tree"

/-- The error that reports a fault. -/
def ofFault (f : Fault) : SyntaxError := parse f.position f.message f.context

/-- The error for a source that is not valid though no fault can be shown. -/
def unlocated : SyntaxError := parse ⟨1, 1⟩ Fault.unexpected ""

end SyntaxError

/-! ## Parsing -/

/-- A source with its tree. -/
structure Parsed where
  source : Bytes
  root : Node
  hasFaults : Bool

namespace Parsed

/-- Parses any source. -/
def tolerant (source : Bytes) : Except SyntaxError Parsed :=
  match Tree.parse? source with
  | none => .error .noTree
  | some t => .ok ⟨source, t.root, 0 < t.cost⟩

/-- The faults of the source. -/
def faults (p : Parsed) : List Fault := Fault.ofTree p.source p.root

/-- Parses valid sources only. -/
def strict (source : Bytes) : Except SyntaxError Parsed :=
  match tolerant source with
  | .error e => .error e
  | .ok p =>
    if p.hasFaults then
      match p.faults with
      | f :: _ => .error (.ofFault f)
      | [] => .error .unlocated
    else .ok p

end Parsed

end SyscallGuard
