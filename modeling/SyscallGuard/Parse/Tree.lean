import SyscallGuard.Scan.Lexeme

set_option autoImplicit false

/-! # Parse trees

The trees a parser builds. A tree knows its range in the source, what it costs to accept its
faults, and its weight, by which two readings of the same bytes are compared. A tree without
faults costs nothing. -/

namespace SyscallGuard

/-! ## Costs of faults -/

namespace Cost

/-- Leaving the grammar once. -/
def recovery : Nat := 500
/-- Assuming a token that is not there. -/
def missing : Nat := 110
/-- Leaving out a subtree. -/
def skippedTree : Nat := 100
/-- Leaving out a byte. -/
def skippedByte : Nat := 1
/-- Leaving out a line end. -/
def skippedLine : Nat := 30

end Cost

/-! ## Trees -/

/-- What a tree is. -/
inductive Label where
  /-- A token of the source, or one assumed to be missing. -/
  | token (t : Token)
  /-- A phrase made by a reduction. -/
  | phrase (p : Phrase)
  /-- Input outside of the grammar. -/
  | fault
  /-- Skipped input that is not yet part of a finished fault. -/
  | skipped
deriving DecidableEq

namespace Label

/-- Whether a tree with this label has a node of its own. -/
def isVisible : Label → Bool
  | token t => t.isVisible
  | phrase p => p.isVisible
  | fault => true
  | skipped => false

/-- Whether the label stands for input outside of the grammar. -/
def isFaulty : Label → Bool
  | fault | skipped => true
  | _ => false

/-- The place of a label when two trees are compared: tokens, then phrases, then faults. -/
def rank : Label → Nat
  | token t => t.code
  | phrase p => 1000 + p.code
  | fault => 2000
  | skipped => 2001

end Label

/-- What is known of a tree besides its children. -/
structure TreeInfo where
  label : Label
  /-- The roles of the children that are not comments. -/
  roles : List Role
  /-- Where the white space in front begins. -/
  lead : Nat
  start : Nat
  stop : Nat
  /-- A comment or a fault, which may stand between any two children. -/
  extra : Bool
  /-- A token that is assumed though it is not there. -/
  missing : Bool
  /-- A word spelled like a keyword. -/
  isWord : Bool
  cost : Nat
  weight : Int
  /-- The number of nodes below. -/
  nodes : Nat
  /-- The number of nodes that become children of whatever takes this tree in. -/
  shown : Nat

/-- A parse tree. -/
inductive Tree where
  | mk (info : TreeInfo) (kids : List Tree)

namespace Tree

/-- What is known of a tree besides its children. -/
def info : Tree → TreeInfo
  | mk info _ => info

/-- The children. -/
def kids : Tree → List Tree
  | mk _ kids => kids

def label (t : Tree) : Label := t.info.label
def lead (t : Tree) : Nat := t.info.lead
def start (t : Tree) : Nat := t.info.start
def stop (t : Tree) : Nat := t.info.stop
def extra (t : Tree) : Bool := t.info.extra
def cost (t : Tree) : Nat := t.info.cost
def weight (t : Tree) : Int := t.info.weight
def isVisible (t : Tree) : Bool := t.label.isVisible

/-- The tree counted as a comment. -/
def asExtra (t : Tree) : Tree := mk { t.info with extra := true } t.kids

/-- The tree with some weight added. -/
def addWeight (w : Int) (t : Tree) : Tree := mk { t.info with weight := t.info.weight + w } t.kids

/-- How many nodes a tree contributes to a count of progress. -/
def nodeCount (t : Tree) : Nat :=
  t.info.nodes + (if t.isVisible then 1 else 0) + (if t.label = .skipped then 1 else 0)

/-! ## Leaves -/

/-- The leaf for a lexeme. The end of the source counts as a comment. -/
def ofLexeme (x : Lexeme) : Tree :=
  mk { label := (match x.token with | some t => .token t | none => .fault)
       roles := [], lead := x.lead, start := x.start, stop := x.stop
       extra := x.token == some .eof, missing := false, isWord := x.isWord
       cost := 0, weight := 0, nodes := 0, shown := 0 } []

/-- A token assumed at an offset. -/
def assumed (t : Token) (offset : Nat) : Tree :=
  mk { label := .token t, roles := [], lead := offset, start := offset, stop := offset
       extra := false, missing := true, isWord := false
       cost := Cost.missing + Cost.recovery, weight := 0, nodes := 0, shown := 0 } []

/-! ## Branches -/

/-- The totals of a list of children, gathered from left to right. -/
structure Totals where
  cost : Nat
  weight : Int
  nodes : Nat
  shown : Nat

/-- What leaving a child out adds to the cost of the fault that holds it. Comments are free, and
    so is input that was no token to begin with: its bytes are counted. -/
def leftOut (t : Tree) : Nat :=
  if t.extra || (t.label == .fault && t.kids.isEmpty) then 0
  else if t.isVisible then Cost.skippedTree
  else Cost.skippedTree * t.info.shown

/-- Whether a role gives a child a node of its own. -/
def namesChild : Role → Bool
  | .plain | .function | .right => false
  | _ => true

/-- The totals of children with their roles. -/
def totals (faulty : Bool) : List Role → List Tree → Totals
  | _, [] => ⟨0, 0, 0, 0⟩
  | roles, t :: rest =>
    let r := totals faulty (if t.extra then roles else roles.tail) rest
    let named := !t.extra && namesChild (roles.headD .plain)
    let own := if t.label = .skipped then 0 else t.cost
    { cost := own + (if faulty then leftOut t else 0) + r.cost
      weight := t.weight + r.weight
      nodes := t.info.nodes + (if named || t.isVisible then 1 else 0) + r.nodes
      shown := (if named || t.isVisible then 1 else t.info.shown) + r.shown }

/-- The tree over some children; `offset` is where it stands if there are none. A faulty tree
    costs the recovery and the bytes and lines it covers. -/
def branch (source : Input) (label : Label) (roles : List Role) (kids : List Tree) (offset : Nat) :
    Tree :=
  let lead := (kids.head?.map Tree.lead).getD offset
  let start := (kids.head?.map Tree.start).getD offset
  let stop := (kids.getLast?.map Tree.stop).getD offset
  let sum := totals label.isFaulty roles kids
  let fault :=
    if label.isFaulty then
      Cost.recovery + Cost.skippedByte * (stop - start)
        + Cost.skippedLine * source.newlinesIn start stop
    else 0
  mk { label := label, roles := roles, lead := lead, start := start, stop := stop
       extra := false, missing := false, isWord := false
       cost := sum.cost + fault, weight := sum.weight, nodes := sum.nodes, shown := sum.shown } kids

/-! ## Choosing between readings -/

mutual

/-- Compares two trees by their labels, their numbers of children and then child by child. -/
def compare : Tree → Tree → Ordering
  | mk i xs, mk j ys =>
    (Ord.compare i.label.rank j.label.rank).then
      ((Ord.compare xs.length ys.length).then (compareAll xs ys))

/-- Compares two lists of trees tree by tree. -/
def compareAll : List Tree → List Tree → Ordering
  | x :: xs, y :: ys => (compare x y).then (compareAll xs ys)
  | _, _ => .eq

end

/-- Whether `new` replaces `old`: it costs less, or as much and weighs more, or is as heavy and
    comes first in the order of trees. -/
def replaces (new old : Tree) : Bool :=
  if new.cost < old.cost then true
  else if old.cost < new.cost then false
  else if new.weight > old.weight then true
  else if old.weight > new.weight then false
  else if 0 < old.cost then true
  else compare old new == .gt

/-- Whether two trees on the stack stand for the same piece of the source. -/
def sameExtent (a b : Tree) : Bool :=
  a.label == b.label
    && ((0 < a.cost && 0 < b.cost)
      || (a.start - a.lead == b.start - b.lead && a.stop - a.start == b.stop - b.start
        && a.kids.length == b.kids.length && a.extra == b.extra))

end Tree

end SyscallGuard
