import SyscallGuard.Parse.Run

set_option autoImplicit false

/-! # Syntax nodes

The tree as the rest of the library sees it. Phrases that only group others are gone, and each node
knows its kind, its role in its parent and its range. -/

namespace SyscallGuard

/-- What a node is. -/
inductive Kind where
  | token (t : Token)
  | phrase (p : Phrase)
  /-- A name shown under a more precise kind. -/
  | role (r : Role)
  /-- Input outside of the grammar. -/
  | fault
deriving DecidableEq

namespace Kind

/-- The kind of a name: a name as such, or one of the functions that take a type. -/
def ofToken : Token → Kind
  | .kwNew | .kwMake => token .identifier
  | t => token t

/-- The kind of a tree with this label. -/
def ofLabel : Label → Kind
  | .token t => ofToken t
  | .phrase p => phrase p.shownAs
  | .fault | .skipped => fault

/-- How a kind is called in messages. Only tokens are ever missing, so phrases have no name. -/
def name : Kind → String
  | token t => t.name
  | role .typeIdentifier => "type_identifier"
  | role .fieldIdentifier => "field_identifier"
  | role .packageIdentifier => "package_identifier"
  | role .labelName => "label_name"
  | role .typeConstraint => "type_constraint"
  | _ => ""

/-- Phrases, names, literals and comments are named; signs and keywords are not. -/
def isNamed : Kind → Bool
  | token t => t.isNamed
  | _ => true

end Kind

/-- What is known of a node besides its children. -/
structure NodeInfo where
  kind : Kind
  role : Role
  start : Nat
  stop : Nat
  /-- A comment or a fault, which may stand anywhere. -/
  extra : Bool
  /-- A token that is assumed though it is not there. -/
  missing : Bool
deriving DecidableEq

/-- A node of the syntax tree. -/
inductive Node where
  | mk (info : NodeInfo) (children : List Node)

namespace Node

def info : Node → NodeInfo
  | mk info _ => info

def children : Node → List Node
  | mk _ children => children

def kind (n : Node) : Kind := n.info.kind
def role (n : Node) : Role := n.info.role
def start (n : Node) : Nat := n.info.start
def stop (n : Node) : Nat := n.info.stop
def extra (n : Node) : Bool := n.info.extra
def missing (n : Node) : Bool := n.info.missing
def isNamed (n : Node) : Bool := n.kind.isNamed

/-- The children that are named. -/
def namedChildren (n : Node) : List Node := n.children.filter isNamed

/-- The first child in a role. -/
def child? (n : Node) (role : Role) : Option Node := n.children.find? fun c => c.role == role

mutual

/-- A node and everything below it, each node before its children and in the order of the source. -/
def preorder : Node → List Node
  | mk info children => mk info children :: preorderAll children

/-- The nodes of several trees. -/
def preorderAll : List Node → List Node
  | [] => []
  | n :: rest => preorder n ++ preorderAll rest

end

end Node

/-! ## From trees to nodes -/

namespace Tree

mutual

/-- The nodes that a tree in some role contributes to its parent: itself, or its children if it
    only groups them. Those then take over its role. -/
def toNodes (role : Role) : Tree → List Node
  | mk info kids =>
    if namesChild role then
      [.mk ⟨.role role, .plain, info.start, info.stop, info.extra, info.missing⟩
        (kidNodes .plain info.roles kids)]
    else if info.label.isVisible then
      [.mk ⟨.ofLabel info.label, role, info.start, info.stop, info.extra, info.missing⟩
        (kidNodes .plain info.roles kids)]
    else kidNodes role info.roles kids

/-- The nodes of children with their roles. -/
def kidNodes (inherited : Role) (roles : List Role) : List Tree → List Node
  | [] => []
  | mk info kids :: rest =>
    if info.extra then toNodes .plain (mk info kids) ++ kidNodes inherited roles rest
    else
      let own := roles.headD .plain
      toNodes (if own = .plain then inherited else own) (mk info kids)
        ++ kidNodes inherited roles.tail rest

end

/-- The node of a whole tree. -/
def root (t : Tree) : Node :=
  .mk ⟨.ofLabel t.label, .plain, t.start, t.stop, t.extra, t.info.missing⟩
    (kidNodes .plain t.info.roles t.kids)

end Tree

end SyscallGuard
