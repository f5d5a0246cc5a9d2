import SyscallGuard.Parse.Shelf
import SyscallGuard.Parse.Tree

set_option autoImplicit false

/-! # The stack of an ambiguous parse

While several readings are open they share what they have in common: the stack is a graph whose
vertices are states, and a link from a vertex to the one below it carries the tree between them. A
reading is a *head*, which points to the vertex on top. Two heads in the same state at the same
place are merged into one vertex with links to both of the stacks below, so the number of heads
stays small. What is added to a vertex is seen by every head above it. -/

namespace SyscallGuard

open Automaton (State)

/-! ## Vertices -/

/-- A tree and the number of the vertex below it. A link without a tree marks where the parser left
    the grammar. -/
abbrev Link := Option Tree × Nat

/-- A vertex of the stack with its links downwards. -/
structure Vertex where
  state : State
  /-- Where in the source the stack ends. -/
  offset : Nat
  /-- The cost of the trees on the stack. -/
  cost : Nat
  /-- The weight of the heaviest stack below. -/
  weight : Int
  /-- The number of nodes on the stack, by which progress is measured. -/
  nodes : Nat
  links : List Link

/-- The weight of a link's tree. -/
def linkWeight (tree : Option Tree) : Int := (tree.map Tree.weight).getD 0

/-- The number of nodes of a link's tree. -/
def linkNodes (tree : Option Tree) : Nat := (tree.map Tree.nodeCount).getD 0

namespace Vertex

/-- The empty stack. -/
def bottom : Vertex := ⟨Automaton.startState, 0, 0, 0, 0, []⟩

/-- A tree, or the mark of a fault, on top of the vertex `below`, whose number is `n`. -/
def above (below : Vertex) (n : Nat) (tree : Option Tree) (state : State) : Vertex where
  state := state
  offset := (tree.map Tree.stop).getD below.offset
  cost := below.cost + (tree.map Tree.cost).getD 0
  weight := below.weight + linkWeight tree
  nodes := below.nodes + linkNodes tree
  links := [(tree, n)]

/-- Whether two vertices can become one. -/
def mergeable (v w : Vertex) : Bool :=
  v.state == w.state && v.offset == w.offset && v.cost == w.cost

end Vertex

/-! ## Graphs -/

/-- The vertices, numbered in the order in which they were made. -/
structure Graph where
  size : Nat
  vertices : Shelf Vertex

namespace Graph

/-- The empty stack alone. -/
def initial : Graph := ⟨1, Shelf.empty.set Vertex.bottom 0⟩

/-- The vertex with a number. -/
def get (g : Graph) (n : Nat) : Vertex := (g.vertices.get? n).getD Vertex.bottom

/-- Adds a vertex, whose number is the size before. -/
def add (g : Graph) (v : Vertex) : Graph := ⟨g.size + 1, g.vertices.set v g.size⟩

/-- Changes a vertex. -/
def modify (g : Graph) (n : Nat) (f : Vertex → Vertex) : Graph :=
  { g with vertices := g.vertices.set (f (g.get n)) n }

/-! ## Merging -/

/-- Whether two links carry the same piece of the source. -/
def sameLink : Option Tree → Option Tree → Bool
  | some a, some b => a.sameExtent b
  | none, none => true
  | _, _ => false

/-- The first link that can stand for a new one as well: it carries the same piece, and leads to
    the same vertex or to one that can be merged with it. -/
def standIn? (g : Graph) (tree : Option Tree) (below : Nat) (links : List Link) : Option Nat :=
  links.findIdx? fun l =>
    sameLink l.1 tree && (l.2 == below || (g.get l.2).mergeable (g.get below))

/-- No vertex has more links than this. -/
def maxLinks : Nat := 8

/-- A vertex with one more link. -/
def withLink (v : Vertex) (tree : Option Tree) (below : Vertex) (n : Nat) : Vertex :=
  { v with
    weight := max v.weight (below.weight + linkWeight tree)
    nodes := max v.nodes (below.nodes + linkNodes tree)
    links := v.links ++ [(tree, n)] }

/-- Adds a link to vertex `n`. Between the same two vertices the heavier tree stays; where the
    vertices below can be merged they are. The first argument bounds how deep merging goes. -/
def addLink : Nat → Nat → Graph → Link → Graph
  | 0, _, g, _ => g
  | fuel + 1, n, g, (tree, below) =>
    let v := g.get n
    if below = n then g
    else match g.standIn? tree below v.links with
      | some i =>
        match v.links[i]? with
        | none => g
        | some (old, m) =>
          let weight := (g.get below).weight + linkWeight tree
          if m = below then
            if linkWeight tree > linkWeight old then
              g.modify n fun v => { v with links := v.links.set i (tree, m), weight := weight }
            else g
          else
            let g := (g.get below).links.foldl (addLink fuel m) g
            g.modify n fun v => { v with weight := max v.weight weight }
      | none =>
        if v.links.length == maxLinks then g
        else g.modify n fun v => withLink v tree (g.get below) below

/-- Adds the links of vertex `k` to vertex `n`. -/
def merge (g : Graph) (n k : Nat) : Graph := (g.get k).links.foldl (addLink g.size n) g

/-! ## Popping -/

/-- A path down from a head: the vertex it has reached, the trees above it from left to right, and
    how many of them are not comments. -/
structure Path where
  bottom : Nat
  trees : List Tree
  count : Nat

/-- A path with one more link. -/
def Path.extend (p : Path) (link : Link) : Path :=
  match link with
  | (some t, v) => ⟨v, t :: p.trees, if t.extra then p.count else p.count + 1⟩
  | (none, v) => ⟨v, p.trees, p.count + 1⟩

/-- No more paths than this are followed at a time. -/
def maxPaths : Nat := 64

/-- Takes every path that does not end one link further. Where a path forks, the first link takes
    its place and the others queue up behind, as long as there is room. -/
def descend (g : Graph) (ends : Path → Bool) (kept : Nat) (queue : List Path) :
    List Path → List Path × List Path
  | [] => ([], queue)
  | p :: rest =>
    match (g.get p.bottom).links with
    | [] => descend g ends kept queue rest
    | first :: others =>
      if ends p then descend g ends kept queue rest
      else
        let room := maxPaths - (kept + 1 + rest.length + queue.length)
        let (firsts, queue) :=
          descend g ends (kept + 1) (queue ++ (others.take room).map p.extend) rest
        (p.extend first :: firsts, queue)

/-- Follows all paths down link by link until they end, and collects those that are wanted in the
    order in which they are met. -/
def follow (g : Graph) (wanted ends : Path → Bool) : Nat → List Path → List Path
  | 0, _ => []
  | fuel + 1, paths =>
    if paths.isEmpty then []
    else
      let (firsts, queue) := g.descend ends 0 [] paths
      paths.filter wanted ++ follow g wanted ends fuel (firsts ++ queue)

/-- The wanted paths down from a vertex. -/
def paths (g : Graph) (n : Nat) (wanted ends : Path → Bool) : List Path :=
  g.follow wanted ends (g.size + 1) [⟨n, [], 0⟩]

/-- The stacks below some paths, each with the lists of trees that were above it. -/
def gather (paths : List Path) : List (Nat × List (List Tree)) :=
  paths.foldl (fun groups p =>
    if groups.any fun g => g.1 == p.bottom then
      groups.map fun g => if g.1 == p.bottom then (g.1, g.2 ++ [p.trees]) else g
    else groups ++ [(p.bottom, [p.trees])]) []

/-- The ways to take `count` trees off, comments among them not counted. -/
def pop (g : Graph) (n count : Nat) : List (Nat × List (List Tree)) :=
  gather (g.paths n (fun p => p.count == count) fun p => p.count == count)

/-- The ways to take everything off. -/
def popAll (g : Graph) (n : Nat) : List Path :=
  g.paths n (fun p => (g.get p.bottom).links.isEmpty) fun _ => false

end Graph

/-! ## Heads -/

/-- What a head is doing. -/
inductive Status where
  | active
  /-- Given up. -/
  | halted
  /-- Stopped at a token that does not fit. -/
  | paused (at_ : Tree)

/-- A state further down, to which a parser in a fault may return. -/
structure Stop where
  offset : Nat
  /-- How many trees lie above it. -/
  depth : Nat
  state : State

/-- A reading in progress. -/
structure Head where
  /-- The number of the vertex on top. -/
  top : Nat
  /-- The number of nodes when the last fault was met. -/
  mark : Nat
  status : Status
  /-- Where to return to, if a fault is being skipped. -/
  stops : Option (List Stop)

namespace Head

def isActive (h : Head) : Bool := match h.status with | .active => true | _ => false
def isHalted (h : Head) : Bool := match h.status with | .halted => true | _ => false
def isPaused (h : Head) : Bool := match h.status with | .paused _ => true | _ => false

def halt (h : Head) : Head := { h with status := .halted }

/-- Whether two heads can become one. -/
def mergeable (g : Graph) (h k : Head) : Bool :=
  h.isActive && k.isActive && (g.get h.top).mergeable (g.get k.top)

/-- The head that stands for another as well, once their vertices are merged. -/
def merged (g : Graph) (h : Head) : Head :=
  let top := g.get h.top
  { h with mark := if top.state = Automaton.faultState then top.nodes else h.mark }

/-- The mark is never ahead of the stack. -/
def settle (g : Graph) (h : Head) : Head := { h with mark := min h.mark (g.get h.top).nodes }

/-- The number of nodes since the last fault. -/
def progress (g : Graph) (h : Head) : Nat := (g.get h.top).nodes - h.mark

/-- Whether the head has just left the grammar. -/
def atMark (g : Graph) (h : Head) : Bool :=
  let top := g.get h.top
  top.state == Automaton.faultState && (match top.links.head? with
    | some (none, _) => true
    | _ => false)

/-- The cost of a head, with the fault it is about to make. -/
def cost (g : Graph) (h : Head) : Nat :=
  (g.get h.top).cost + if h.isPaused || h.atMark g then Cost.recovery else 0

end Head

/-! ## The machine -/

/-- Everything a parse holds: the stack, the heads, most promising first, the best finished tree,
    how many trees have been finished, and the lexeme that was read last. -/
structure Machine where
  graph : Graph
  heads : List Head
  finished : Option Tree
  accepted : Nat
  last : Option Reading

namespace Machine

/-- One head on the empty stack. -/
def initial : Machine := ⟨.initial, [⟨0, 0, .active, none⟩], none, 0, none⟩

/-- The vertex on top of a head. -/
def topOf (m : Machine) (h : Head) : Vertex := m.graph.get h.top

/-- Changes a head. -/
def modify (m : Machine) (n : Nat) (f : Head → Head) : Machine :=
  { m with heads := m.heads.modify n f }

/-- Removes a head. -/
def remove (m : Machine) (n : Nat) : Machine := { m with heads := m.heads.eraseIdx n }

/-- Moves head `a` to the place of an earlier head `b`, which is dropped, but whose stops it keeps
    if it has none of its own. -/
def moveTo (m : Machine) (a b : Nat) : Machine :=
  match m.heads[a]?, m.heads[b]? with
  | some h, some old =>
    let h := { h with stops := if h.stops.isNone then old.stops else h.stops }
    { m with heads := (m.heads.eraseIdx a).set b h }
  | _, _ => m

/-- Puts a tree, or the mark of a fault, on a head. -/
def pushOn (m : Machine) (n : Nat) (tree : Option Tree) (state : State) : Machine :=
  match m.heads[n]? with
  | none => m
  | some h =>
    let top := (m.topOf h).above h.top tree state
    let h := { h with top := m.graph.size, mark := if tree.isNone then top.nodes else h.mark }
    { m with graph := m.graph.add top, heads := m.heads.set n h }

/-- Puts several trees on a head, all in one state. -/
def pushAll (m : Machine) (n : Nat) (trees : List Tree) (state : State) : Machine :=
  trees.foldl (fun m t => m.pushOn n (some t) state) m

/-- The first of some heads that a head can be merged into, other than number `except`. -/
def mergeTarget? (m : Machine) (heads : List Head) (except : Nat) (h : Head) : Option Nat :=
  (List.range heads.length).find? fun n =>
    n != except && (match heads[n]? with | some k => k.mergeable m.graph h | none => false)

/-- Merges head `b` into head `a` if they can be merged. -/
def merge? (m : Machine) (a b : Nat) : Option Machine :=
  match m.heads[a]?, m.heads[b]? with
  | some h, some k =>
    if h.mergeable m.graph k then
      let graph := m.graph.merge h.top k.top
      some { m with graph := graph, heads := (m.heads.set a (h.merged graph)).eraseIdx b }
    else none
  | _, _ => none

end Machine

end SyscallGuard
