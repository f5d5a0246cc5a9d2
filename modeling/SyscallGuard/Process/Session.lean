import SyscallGuard.Files.Resolve

set_option autoImplicit false

/-! # Sessions

What programs share while they run: the world of files, and the streams that their descriptors are
connected to. A stream that several descriptors are connected to has one position, so what one
program has read is gone for the next. Programs run one after the other: a pipe is a stream that one
of them fills and the next one empties. -/

namespace SyscallGuard

/-- What a descriptor is connected to. -/
inductive Stream where
  /-- A pipe to read from, with what is left in it. -/
  | source (rest : Bytes)
  /-- A pipe to write to, with what was written, the last piece first. -/
  | sink (pieces : List Bytes)
  /-- A file with a position. What is appended goes to the end in any case. -/
  | file (spot : Spot) (position : Nat) (append : Bool)
  /-- Holds nothing and takes everything. -/
  | null
  /-- Holds nothing and takes nothing. -/
  | full
  /-- A directory, which can only be opened. -/
  | directory

/-- The files and streams of some programs. -/
structure Session where
  world : World
  streams : Array Stream
  /-- The last failure to write. -/
  failure : Option OsError := none

/-- What a program is started with. -/
structure Task where
  /-- The working directory. -/
  directory : Spot
  /-- The descriptors with the numbers of their streams. -/
  descriptors : List (Nat × Nat)
  /-- The variables that the program is given. -/
  environment : List (Bytes × Bytes)
  /-- The name that the program has, and the one that it is called by. -/
  name : String := ""
  calledAs : String := ""

/-- The directories that are searched for a program if nothing else is said. -/
def Task.searched : Bytes :=
  Bytes.ofString "/usr/local/sbin:/usr/local/bin:/usr/sbin:/usr/bin:/sbin:/bin"

/-- How a file is opened. -/
inductive Access where
  | read | write | append
deriving DecidableEq

namespace Session

/-! ## Streams -/

/-- Adds a stream and gives its number. -/
def add (s : Session) (x : Stream) : Nat × Session :=
  (s.streams.size, { s with streams := s.streams.push x })

/-- Changes a stream. -/
def set (s : Session) (n : Nat) (x : Stream) : Session :=
  { s with streams := s.streams.setIfInBounds n x }

/-- What is left to read in a stream. -/
def pending (s : Session) (n : Nat) : Bytes :=
  match s.streams[n]? with
  | some (.source rest) => rest
  | some (.file spot position _) =>
    match s.world.content spot with
    | .ok content => content.drop position
    | .error _ => []
  | _ => []

/-- Moves on by some bytes. -/
def skip (s : Session) (n count : Nat) : Session :=
  match s.streams[n]? with
  | some (.source rest) => s.set n (.source (rest.drop count))
  | some (.file spot position append) => s.set n (.file spot (position + count) append)
  | _ => s

/-- A content with some bytes written over it from a position on. -/
def overwrite (content : Bytes) (position : Nat) (bytes : Bytes) : Bytes :=
  let padding := List.replicate (position - content.length) 0
  (content ++ padding).take position ++ bytes ++ content.drop (position + bytes.length)

/-- Writes to a stream. -/
def put (s : Session) (n : Nat) (bytes : Bytes) : Session :=
  if bytes.isEmpty then s
  else match s.streams[n]? with
    | some (.sink pieces) => s.set n (.sink (bytes :: pieces))
    | some (.file spot position append) =>
      match s.world.content spot with
      | .ok content =>
        let position := if append then content.length else position
        let s := s.set n (.file spot (position + bytes.length) append)
        { s with world := s.world.refill spot (overwrite content position bytes) }
      | .error e => { s with failure := some e }
    | some .null => s
    | some .full => { s with failure := some .full }
    | _ => { s with failure := some .badDescriptor }

/-- What was written to a stream. -/
def written (s : Session) (n : Nat) : Bytes :=
  match s.streams[n]? with
  | some (.sink pieces) => pieces.reverse.flatten
  | _ => []

/-! ## Opening files -/

/-- The stream of a device. -/
def device (s : Session) (t : Task) : System.Device → Except OsError (Nat × Session)
  | .null => .ok (s.add .null)
  | .full => .ok (s.add .full)
  | .descriptor n =>
    match t.descriptors.lookup n with
    | some stream => .ok (stream, s)
    | none => .error .notFound

/-- Opens the file at a spot. -/
def openSpot (s : Session) (t : Task) (access : Access) (spot : Spot) :
    Except OsError (Nat × Session) :=
  let device? := match spot with
    | .around place => System.device? place
    | _ => none
  match device?, s.world.entry? spot, access with
  | some d, _, _ => s.device t d
  | none, some (.file ..), .read => .ok (s.add (.file spot 0 false))
  | none, some (.file ..), .write =>
    .ok ({ s with world := s.world.refill spot [] }.add (.file spot 0 false))
  | none, some (.file ..), .append => .ok (s.add (.file spot 0 true))
  | none, some .directory, _ => .error .isDirectory
  | none, _, _ => .error .notFound

/-- Opens a file, which is created if it is to be written and absent. -/
def openPath (s : Session) (t : Task) (access : Access) (path : Bytes) :
    Except OsError (Nat × Session) :=
  match s.world.locate t.directory true path with
  | .error e => .error e
  | .ok (.present spot) => s.openSpot t access spot
  | .ok (.absent parent name) =>
    if access = .read then .error .notFound
    else match parent.child? name with
      | none => .error .denied
      | some spot =>
        { s with world := s.world.set spot (.file [] false) }.openSpot t access spot

end Session

/-! ## Working -/

/-- What a program does. -/
abbrev Work := ReaderT Task (StateM Session)

namespace Work

/-- The stream of a descriptor. -/
def stream? (descriptor : Nat) : Work (Option Nat) := do
  return (← read).descriptors.lookup descriptor

/-- Writes to a descriptor. -/
def write (descriptor : Nat) (bytes : Bytes) : Work Unit := do
  match ← stream? descriptor with
  | some n => modify fun s => s.put n bytes
  | none => modify fun s => { s with failure := some .badDescriptor }

/-- Writes to standard output. -/
def say (bytes : Bytes) : Work Unit := write 1 bytes

/-- Writes a text to standard error. A program that is called by another name than its own uses that
    one. -/
def complain (text : String) : Work Unit := do
  let t ← read
  if t.name = t.calledAs then write 2 (Bytes.ofString text)
  else
    let text := if text.startsWith (t.name ++ ": ")
      then t.calledAs ++ (text.drop t.name.length).toString else text
    let text := text.replace ("Try '" ++ t.name ++ " --help'") ("Try '" ++ t.calledAs ++ " --help'")
    write 2 (Bytes.ofString text)

/-- What is left of standard input, without taking it. -/
def glance : Work Bytes := do
  match ← stream? 0 with
  | some n => return (← get).pending n
  | none => return []

/-- Takes some bytes of standard input. -/
def take (count : Nat) : Work Unit := do
  match ← stream? 0 with
  | some n => modify fun s => s.skip n count
  | none => return

/-- Takes all of standard input. -/
def input : Work Bytes := do
  let bytes ← glance
  take bytes.length
  return bytes

/-- The content of a file, or standard input for a dash. -/
def contentOf (path : Bytes) : Work (Except OsError Bytes) := do
  if path = [45] then
    let s ← get
    match (← stream? 0).bind fun n => s.streams[n]? with
    | none => return .error .badDescriptor
    | some .directory => return .error .isDirectory
    | some _ => return .ok (← input)
  else
    match (← get).openPath (← read) .read path with
    | .error e => return .error e
    | .ok (n, s) =>
      let bytes := s.pending n
      set (s.skip n bytes.length)
      return .ok bytes

/-- Where a path leads. -/
def locate (followLast : Bool) (path : Bytes) : Work (Except OsError Target) := do
  return (← get).world.locate (← read).directory followLast path

/-- The entry that a path leads to. -/
def entry? (followLast : Bool) (path : Bytes) : Work (Option Entry) := do
  match ← locate followLast path with
  | .ok (.present spot) => return (← get).world.entry? spot
  | _ => return none

/-- Changes the world. -/
def change (w : World) : Work Unit := modify fun s => { s with world := w }

end Work

end SyscallGuard
