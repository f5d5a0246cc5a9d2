import SyscallGuard.Files.Resolve

set_option autoImplicit false

/-! # Walking a tree

The Go sources that a root path leads to. A root that is a file is walked by itself, a root that
is a directory, or a link to one, with everything below it; links below the root are passed over.
A directory is looked into when the walk comes to it, so what happens to the tree on the way shows.
The walk ends at the first directory that cannot be listed. A root path that leads out of the tree
comes to what is known of the system, and above the tree to nothing. For a tree that stays as it is,
`FileTree.goSources` lists the whole walk at once. -/

namespace SyscallGuard

/-- What an entry is to a walk. -/
inductive EntryKind where
  | file | directory | link
deriving DecidableEq

/-- The kind of an entry. -/
def Entry.kind : Entry → EntryKind
  | .file .. => .file
  | .directory => .directory
  | .link _ => .link

/-- An entry as a walk meets it: the path to report, where the entry was, and what it was. -/
structure Visit where
  path : Bytes
  spot : Spot
  kind : EntryKind
deriving DecidableEq

namespace FileTree

/-- Where a visit leads now: to its spot, as long as an entry of its kind stands there, and else to
    where its path leads. A walk goes down name by name and may come to an entry whose path is too
    long; such a path leads nowhere. -/
def settle (t : FileTree) (v : Visit) : Except OsError Spot :=
  if v.path.length ≥ World.pathLimit then .error .nameTooLong
  else if (t.world.entry? v.spot).map Entry.kind = some v.kind then .ok v.spot
  else t.resolve true v.path

/-- The content of the file that a walk has come to. -/
def read (t : FileTree) (v : Visit) : Except OsError Bytes :=
  match t.settle v with
  | .error e => .error e
  | .ok spot => t.world.content spot

/-- The entries of a directory that a walk has come to. -/
def entriesOf (t : FileTree) (v : Visit) : Except OsError (List Visit) :=
  match t.settle v with
  | .error e => .error e
  | .ok spot =>
    match t.world.listing spot with
    | .error e => .error e
    | .ok found => .ok (found.filterMap fun e =>
        (spot.child? e.1).map fun s => ⟨Path.child v.path e.1, s, e.2.kind⟩)

/-- Where a walk begins. A link is followed to a directory; a link to anything else is passed
    over. -/
def start (t : FileTree) (root : Bytes) : Except OsError Visit :=
  match t.resolve false root with
  | .error e => .error e
  | .ok spot =>
    match t.world.entry? spot with
    | some (.link _) =>
      match t.resolve true root with
      | .error e => .error e
      | .ok target =>
        if t.world.entry? target = some .directory then .ok ⟨root, target, .directory⟩
        else .ok ⟨root, spot, .link⟩
    | some e => .ok ⟨root, spot, e.kind⟩
    | none => .error .notFound

/-! ## The whole walk -/

end FileTree

/-- The spot that some names lead to. -/
def Spot.descend : Spot → Location → Spot
  | inside place, names => inside (place ++ names)
  | around place, names => around (place ++ names)
  | beyond, _ => beyond

namespace Visit

/-- The visit of what lies some names below. -/
def descend (v : Visit) (e : Location × Entry) : Visit :=
  ⟨Path.descend v.path e.1, v.spot.descend e.1, e.2.kind⟩

/-- Whether a walk has come to a Go source. -/
def isSource (v : Visit) : Bool := v.kind == .file && Path.isGoSource v.path

end Visit

namespace FileTree

/-- Everything that a walk comes to from a visit on: below a directory, the table from top to
    bottom. -/
def itinerary (t : FileTree) (v : Visit) : List Visit :=
  v :: match v.kind with
    | .directory => (t.world.below v.spot).map v.descend
    | .file | .link => []

/-- Everything that a walk from a root path comes to. -/
def visits (t : FileTree) (root : Bytes) : Except OsError (List Visit) :=
  match t.start root with
  | .error e => .error e
  | .ok v => .ok (t.itinerary v)

/-- The Go sources that a root path leads to. -/
def goSources (t : FileTree) (root : Bytes) : Except OsError (List Visit) :=
  match t.visits root with
  | .error e => .error e
  | .ok visits => .ok (visits.filter Visit.isSource)

end FileTree

end SyscallGuard
