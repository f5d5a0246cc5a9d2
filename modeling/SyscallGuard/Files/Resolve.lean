import SyscallGuard.Files.Path
import SyscallGuard.Files.System
import SyscallGuard.Format

set_option autoImplicit false

/-! # Resolving paths

A path is followed step by step: every step but the last has to lead to a directory, and a link is
replaced by the steps of its target. Paths can leave the tree: at the top of the system they find
what is known of it, and between the two are directories of which nothing is known but that they
are there. -/

namespace SyscallGuard

/-- A tree with the system around it. Nothing is known of the directories that the tree itself
    stands in, and the top of the system does not lead back to it. -/
structure World where
  tree : FileTree
  system : FileTree

/-- Where a path leads. -/
inductive Spot where
  /-- A location in the tree. -/
  | inside (place : Location)
  /-- A location in the system. -/
  | around (place : Location)
  /-- A directory somewhere above the tree. -/
  | beyond
deriving DecidableEq

namespace Spot

/-- The directory above. -/
def parent : Spot → Spot
  | inside [] | beyond => beyond
  | inside (first :: rest) => inside (first :: rest).dropLast
  | around place => around place.dropLast

/-- The spot of a name in a directory, if anything is known about it. -/
def child? (name : Bytes) : Spot → Option Spot
  | inside place => some (inside (place ++ [name]))
  | around place => some (around (place ++ [name]))
  | beyond => none

end Spot

/-- What a path names. -/
inductive Target where
  | present (spot : Spot)
  /-- Nothing yet, but it could be created. -/
  | absent (directory : Spot) (name : Bytes)
deriving DecidableEq

namespace World

/-- The longest name. -/
def longestName : Nat := 255

/-- The length from which a path is too long. -/
def pathLimit : Nat := 4096

/-- How many links may be followed. -/
def linkLimit : Nat := 40

/-- The entry at a spot. -/
def entry? (w : World) : Spot → Option Entry
  | .inside place => w.tree.get? place
  | .around place => w.system.get? place
  | .beyond => some .directory

/-- Why what stands at a spot cannot be opened, if it cannot. -/
def barred (w : World) : Spot → Option OsError
  | .inside place => w.tree.barred place
  | .around place => w.system.barred place
  | .beyond => none

/-! ## Following steps -/

/-- How far some steps led. -/
inductive Progress where
  | arrived (target : Target)
  /-- At a link, from whose directory the steps of the target and the remaining steps lead on. -/
  | atLink (directory : Spot) (target : Bytes) (rest : List Bytes)

/-- Takes steps up to the first link. A link at the end is only followed if asked. -/
def advance (w : World) (followLast : Bool) (spot : Spot) : List Bytes → Except OsError Progress
  | [] => .ok (.arrived (.present spot))
  | name :: rest =>
    if w.entry? spot ≠ some .directory then .error .notDirectory
    else if name = Path.here then advance w followLast spot rest
    else if name = Path.above then advance w followLast spot.parent rest
    else if name.length > longestName then .error .nameTooLong
    else match (spot.child? name).bind fun next => (w.entry? next).map fun e => (next, e) with
      | none => if rest.isEmpty then .ok (.arrived (.absent spot name)) else .error .notFound
      | some (next, .link target) =>
        if rest.isEmpty && !followLast then .ok (.arrived (.present next))
        else .ok (.atLink spot target rest)
      | some (next, _) => advance w followLast next rest

/-- Takes steps and follows at most `links` links. -/
def follow (w : World) (followLast : Bool) :
    (links : Nat) → Spot → List Bytes → Except OsError Target
  | links, spot, steps =>
    match w.advance followLast spot steps with
    | .error e => .error e
    | .ok (.arrived last) => .ok last
    | .ok (.atLink directory target rest) =>
      match links with
      | 0 => .error .linkLoop
      | links + 1 =>
        follow w followLast links (if Path.isAbsolute target then .around [] else directory)
          (Path.steps target ++ rest)

/-- What a path names, seen from a directory. -/
def locate (w : World) (directory : Spot) (followLast : Bool) (path : Bytes) :
    Except OsError Target :=
  if path.any (fun b => b == 0) then .error .nulInName
  else if path.isEmpty then .error .notFound
  else if path.length ≥ pathLimit then .error .nameTooLong
  else w.follow followLast linkLimit (if Path.isAbsolute path then .around [] else directory)
    (Path.steps path)

/-- Where a path leads, seen from a directory. -/
def resolve (w : World) (directory : Spot) (followLast : Bool) (path : Bytes) :
    Except OsError Spot :=
  match w.locate directory followLast path with
  | .error e => .error e
  | .ok (.present spot) => .ok spot
  | .ok (.absent ..) => .error .notFound

/-! ## Files -/

/-- The content of the file at a spot, if it can be read. -/
def content (w : World) (spot : Spot) : Except OsError Bytes :=
  match w.entry? spot, w.barred spot with
  | some (.file content _), none => .ok content
  | some (.file ..), some cause => .error cause
  | some .directory, _ => .error .isDirectory
  | some (.link _), _ | none, _ => .error .notFound

/-- The world with an entry set at a spot. -/
def set (w : World) (spot : Spot) (entry : Entry) : World :=
  match spot with
  | .inside place => { w with tree := w.tree.set place entry }
  | .around place => { w with system := w.system.set place entry }
  | .beyond => w

/-- The world without a spot and all that lies below it. -/
def remove (w : World) : Spot → World
  | .inside place => { w with tree := w.tree.remove place }
  | .around place => { w with system := w.system.remove place }
  | .beyond => w

/-- The lines that lie below a spot. Nothing is known to lie in a directory above the tree. -/
def below (w : World) : Spot → Table
  | .inside place => w.tree.below place
  | .around place => w.system.below place
  | .beyond => []

/-- What stands directly in a directory. A directory above the tree counts as empty, although it
    holds the tree at least: what is said of a walk over the tree is said for a root path that
    leads into it. -/
def children (w : World) : Spot → List (Bytes × Entry)
  | .inside place => w.tree.children place
  | .around place => w.system.children place
  | .beyond => []

/-- What stands directly in a directory, if it can be listed. -/
def listing (w : World) (spot : Spot) : Except OsError (List (Bytes × Entry)) :=
  if w.entry? spot = some .directory then
    match w.barred spot with
    | some cause => .error cause
    | none => .ok (w.children spot)
  else .error .notDirectory

/-- The world with a new content of the file at a spot. Devices keep nothing. -/
def refill (w : World) (spot : Spot) (content : Bytes) : World :=
  match spot, w.entry? spot with
  | .around place, some (.file _ executable) =>
    if (System.device? place).isSome then w else w.set spot (.file content executable)
  | _, some (.file _ executable) => w.set spot (.file content executable)
  | _, _ => w

/-- The world with a file of the given content where a path leads, which is created if it is
    absent. Also says where it is. -/
def write (w : World) (directory : Spot) (path content : Bytes) : Except OsError (World × Spot) :=
  match w.locate directory true path with
  | .error e => .error e
  | .ok (.absent parent name) =>
    match parent.child? name with
    | some spot => .ok (w.set spot (.file content false), spot)
    | none => .error .denied
  | .ok (.present spot) =>
    match w.entry? spot with
    | some (.file ..) => .ok (w.refill spot content, spot)
    | some .directory => .error .isDirectory
    | _ => .error .notFound

/-- The world with a new entry that is no file where a path leads. -/
def make (w : World) (directory : Spot) (path : Bytes) (entry : Entry) : Except OsError World :=
  match w.locate directory false path with
  | .error e => .error e
  | .ok (.present _) => .error .exists_
  | .ok (.absent parent name) =>
    match parent.child? name with
    | some spot => .ok (w.set spot entry)
    | none => .error .denied

/-- The world with every missing directory on the way along some steps. Where a step cannot be
    taken the way ends. -/
def makeWay (w : World) (directory : Spot) : List Bytes → World × Option Spot
  | [] => (w, some directory)
  | name :: rest =>
    match w.follow true linkLimit directory [name] with
    | .ok (.present spot) => makeWay w spot rest
    | .ok (.absent parent name) =>
      match parent.child? name with
      | some spot => makeWay (w.set spot .directory) spot rest
      | none => (w, none)
    | .error _ => (w, none)

end World

/-! ## Trees in the usual system -/

namespace FileTree

/-- The tree in the usual system. -/
def world (t : FileTree) : World := ⟨t, System.tree⟩

/-- Where a path leads, seen from the top of the tree. -/
def resolve (t : FileTree) (followLast : Bool) (path : Bytes) : Except OsError Spot :=
  t.world.resolve (.inside []) followLast path

/-- The tree with every missing directory on the way to where a path leads. -/
def makeWay (t : FileTree) (steps : List Bytes) : FileTree :=
  (t.world.makeWay (.inside []) steps).1.tree

/-- Creates a file, the directories above it included, or gives a file a new content. -/
def placeFile (t : FileTree) (path content : Bytes) (executable : Bool) : FileTree :=
  match (t.makeWay (Path.steps path).dropLast).world.write (.inside []) path content with
  | .error _ => t
  | .ok (w, spot) =>
    match w.entry? spot with
    | some (.file content before) => (w.set spot (.file content (executable || before))).tree
    | _ => w.tree

/-- Creates a directory, those above it included. -/
def placeDirectory (t : FileTree) (path : Bytes) : FileTree := t.makeWay (Path.steps path)

/-- Creates a link, the directories above it included. -/
def placeLink (t : FileTree) (path target : Bytes) : FileTree :=
  let t := t.makeWay (Path.steps path).dropLast
  match t.world.make (.inside []) path (.link target) with
  | .error _ => t
  | .ok w => w.tree

/-- Keeps what a path names from being opened. -/
def barPath (t : FileTree) (path : Bytes) (cause : OsError) : FileTree :=
  match t.resolve false path with
  | .ok (.inside place) => t.bar place (some cause)
  | .ok _ | .error _ => t

/-- Takes away the entry that a path names, with all that lies below it. -/
def removePath (t : FileTree) (path : Bytes) : FileTree :=
  match t.resolve false path with
  | .ok spot => (t.world.remove spot).tree
  | .error _ => t

end FileTree

end SyscallGuard
