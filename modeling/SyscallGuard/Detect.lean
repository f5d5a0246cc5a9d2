import SyscallGuard.Guard
import SyscallGuard.Parse.Fault

set_option autoImplicit false

/-! # Guard sites

A guard site is a statement that calls a primitive where a guard can stand in front of it: a call
that is a statement of its own, or a call on the right-hand side of a declaration or assignment.
The callee has to be the bare name of a primitive. -/

namespace SyscallGuard

/-- A call to be guarded: where its statement starts, its range, and what it calls. -/
structure Site where
  position : Position
  start : Nat
  stop : Nat
  primitive : Primitive
deriving DecidableEq

namespace Site

/-- The primitive that a node calls, if it is a call of one. -/
def calls? (source : Bytes) (n : Node) : Option Primitive :=
  if n.kind = .phrase .callExpression then
    match n.child? .function with
    | some f =>
      if f.kind = .token .identifier then Primitive.ofName? (source.slice f.start f.stop) else none
    | none => none
  else none

/-- The nodes of a statement at which a guarded call can stand. -/
def candidates (n : Node) : List Node :=
  match n.kind with
  | .phrase .expressionStatement =>
    match n.namedChildren.filter fun c => !c.extra with
    | [call] => [call]
    | _ => []
  | .phrase .shortVarDeclaration | .phrase .assignmentStatement =>
    match n.child? .right with
    | some values => values.namedChildren
    | none => []
  | _ => []

/-- The sites of one statement. -/
def ofStatement (source : Bytes) (n : Node) : List Site :=
  (candidates n).filterMap fun call =>
    (calls? source call).map fun p => ⟨.ofOffset source n.start, call.start, call.stop, p⟩

/-- The sites of a tree, in the order of the source. -/
def ofTree (source : Bytes) (root : Node) : List Site :=
  root.preorder.flatMap (ofStatement source)

end Site

/-- The sites of a parsed source. -/
def Parsed.sites (p : Parsed) : List Site := Site.ofTree p.source p.root

end SyscallGuard
