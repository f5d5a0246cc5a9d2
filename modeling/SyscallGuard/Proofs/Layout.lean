import SyscallGuard.Proofs.Roots

set_option autoImplicit false

/-! # The layout of a tree

What a path leads to depends on the directories and links on the way, and not on what the files
hold. Two trees that differ in the contents of files only, and of which the same can be opened, have
the same *layout* (`FileTree.SameLayout`): paths lead to the same spots in both, and a walk comes to
the same entries (`SameLayout.visits`). -/

namespace SyscallGuard

/-- An entry but for the content of a file. -/
def Entry.layout : Entry → Entry
  | .file _ executable => .file [] executable
  | e => e

theorem Entry.kind_layout (e : Entry) : e.layout.kind = e.kind := by
  cases e <;> rfl

/-- Entries of the same layout are the same, unless both are files. -/
theorem Entry.eq_or_files {a b : Option Entry} (h : a.map layout = b.map layout) :
    a = b ∨ ∃ content content' executable, a = some (.file content executable) ∧
      b = some (.file content' executable) := by
  match a, b with
  | none, none => exact .inl rfl
  | none, some b => cases h
  | some a, none => cases h
  | some a, some b =>
    have hlayout : a.layout = b.layout := Option.some.inj h
    cases a <;> cases b <;> simp_all [layout]

/-! ## Following paths -/

namespace World

/-- Whether two worlds have the same layout. -/
def SameLayout (w w' : World) : Prop :=
  ∀ spot, (w.entry? spot).map Entry.layout = (w'.entry? spot).map Entry.layout

variable {w w' : World}

theorem SameLayout.directory_iff (h : w.SameLayout w') (spot : Spot) :
    w.entry? spot = some .directory ↔ w'.entry? spot = some .directory := by
  rcases Entry.eq_or_files (h spot) with hsame | ⟨content, content', executable, hw, hw'⟩
  · rw [hsame]
  · simp [hw, hw']

theorem SameLayout.advance (h : w.SameLayout w') (followLast : Bool) (spot : Spot)
    (steps : List Bytes) : w.advance followLast spot steps = w'.advance followLast spot steps := by
  induction steps generalizing spot with
  | nil => rfl
  | cons name rest ih =>
    rw [World.advance, World.advance]
    simp only [ne_eq, h.directory_iff spot, ih]
    cases spot.child? name with
    | none => rfl
    | some next =>
      rcases Entry.eq_or_files (h next) with hsame | ⟨content, content', executable, hw, hw'⟩
      · simp only [Option.bind_some, hsame]
      · simp only [Option.bind_some, hw, hw', Option.map_some]

theorem SameLayout.follow (h : w.SameLayout w') (followLast : Bool) (links : Nat) (spot : Spot)
    (steps : List Bytes) :
    w.follow followLast links spot steps = w'.follow followLast links spot steps := by
  induction links generalizing spot steps with
  | zero => rw [World.follow, World.follow, h.advance]
  | succ links ih =>
    rw [World.follow, World.follow, h.advance]
    simp only [ih]

theorem SameLayout.resolve (h : w.SameLayout w') (directory : Spot) (followLast : Bool)
    (path : Bytes) :
    w.resolve directory followLast path = w'.resolve directory followLast path := by
  simp only [World.resolve, locate, h.follow]

end World

/-! ## Walks -/

namespace FileTree

variable {t u : FileTree}

/-- Whether two trees have the same layout. -/
structure SameLayout (t u : FileTree) : Prop where
  world : t.world.SameLayout u.world
  barred : t.barred = u.barred

theorem SameLayout.sameShape (h : t.SameLayout u) : t.SameShape u := by
  have hkind (o : Option Entry) : (o.map Entry.layout).map Entry.kind = o.map Entry.kind := by
    rw [Option.map_map]
    exact Option.map_congr fun e _ => e.kind_layout
  refine ⟨fun spot => ?_, h.barred⟩
  rw [← hkind, h.world spot, hkind]

theorem SameLayout.resolve (h : t.SameLayout u) (followLast : Bool) (path : Bytes) :
    t.resolve followLast path = u.resolve followLast path :=
  h.world.resolve (.inside []) followLast path

theorem SameLayout.start (h : t.SameLayout u) (root : Bytes) : t.start root = u.start root := by
  simp only [FileTree.start, h.resolve]
  cases u.resolve false root with
  | error e => rfl
  | ok spot =>
    simp only
    rcases Entry.eq_or_files (h.world spot) with hsame | ⟨content, content', executable, hw, hw'⟩
    · simp only [hsame, h.world.directory_iff]
    · simp only [hw, hw', Entry.kind]

/-- A walk comes to the same entries in trees of the same layout. -/
theorem SameLayout.visits (h : t.SameLayout u) (root : Bytes) : t.visits root = u.visits root := by
  simp only [FileTree.visits, h.start, h.sameShape.itinerary]

end FileTree

end SyscallGuard
