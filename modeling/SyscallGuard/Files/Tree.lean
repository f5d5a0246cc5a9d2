import SyscallGuard.Files.OsError
import SyscallGuard.Text.Order

set_option autoImplicit false

/-! # File trees

A file tree is what lies below one directory: a table from locations to entries. The table is kept
in the order of the locations, name by name, in which a directory comes directly before what it
holds. Reading the table from top to bottom is therefore the walk through the tree that takes the
names of each directory in order and goes down into a directory where it stands. The other
invariant is that whatever stands in the table stands in a directory, so that no line of it lies
behind a file or a link.

Every file of the table has a content of its own: there are no two names for one file, so that what
is written to one location never shows at another. Besides the table a tree knows which of its files
cannot be read and which of its directories cannot be listed (`FileTree.barred`). -/

namespace SyscallGuard

/-- The names that lead from the top directory to an entry. -/
abbrev Location := List Bytes

/-- The order of locations, name by name. -/
def Location.before : Location → Location → Bool := lexBefore Bytes.before

theorem Location.before_strict : StrictOrder Location.before := Bytes.before_strict.lex

/-- What can stand at a location. -/
inductive Entry where
  | file (content : Bytes) (executable : Bool)
  | directory
  | link (target : Bytes)
deriving DecidableEq

/-! ## Tables -/

/-- Lines of locations and entries. -/
abbrev Table := List (Location × Entry)

namespace Table

/-- The lines stand in the order of their locations, each location once. -/
def Sorted (table : Table) : Prop := table.Pairwise fun a b => a.1.before b.1 = true

/-- Whether a location is a directory; the top directory has no line of its own. -/
def HasDirectory (table : Table) (place : Location) : Prop :=
  place = [] ∨ (place, Entry.directory) ∈ table

instance (table : Table) (place : Location) : Decidable (table.HasDirectory place) :=
  inferInstanceAs (Decidable (_ ∨ _))

/-- Every line stands in a directory. -/
def Closed (table : Table) : Prop :=
  ∀ e ∈ table, e.1 ≠ [] ∧ table.HasDirectory e.1.dropLast

/-- Puts an entry into its place in a sorted table, over the one that stands there. -/
def set (place : Location) (entry : Entry) : Table → Table
  | [] => [(place, entry)]
  | e :: rest =>
    if place = e.1 then (place, entry) :: rest
    else if place.before e.1 then (place, entry) :: e :: rest
    else e :: set place entry rest

theorem mem_of_mem_set {place : Location} {entry : Entry} {table : Table} {e : Location × Entry}
    (h : e ∈ set place entry table) : e = (place, entry) ∨ e ∈ table := by
  induction table with
  | nil => simpa [set] using h
  | cons first rest ih =>
    simp only [set] at h
    split at h
    · rcases List.mem_cons.1 h with h | h
      · exact .inl h
      · exact .inr (List.mem_cons_of_mem _ h)
    · split at h
      · exact List.mem_cons.1 h
      · rcases List.mem_cons.1 h with h | h
        · exact .inr (h ▸ List.mem_cons_self)
        · exact (ih h).imp id (List.mem_cons_of_mem _)

theorem mem_set_of_ne {place : Location} {entry : Entry} {table : Table} {e : Location × Entry}
    (h : e ∈ table) (hne : e.1 ≠ place) : e ∈ set place entry table := by
  induction table with
  | nil => cases h
  | cons first rest ih =>
    simp only [set]
    split
    · rename_i he
      rcases List.mem_cons.1 h with rfl | h
      · exact absurd he.symm hne
      · exact List.mem_cons_of_mem _ h
    · split
      · exact List.mem_cons_of_mem _ h
      · rcases List.mem_cons.1 h with rfl | h
        · exact List.mem_cons_self
        · exact List.mem_cons_of_mem _ (ih h)

theorem Sorted.set {table : Table} (h : table.Sorted) (place : Location) (entry : Entry) :
    (table.set place entry).Sorted := by
  induction table with
  | nil => simp [Sorted, Table.set]
  | cons first rest ih =>
    obtain ⟨hfirst, hrest⟩ := List.pairwise_cons.1 h
    simp only [Table.set]
    split
    · rename_i he
      exact List.pairwise_cons.2 ⟨fun e hmem => he ▸ hfirst e hmem, hrest⟩
    · rename_i hne
      split
      · rename_i hlt
        refine List.pairwise_cons.2 ⟨fun e hmem => ?_, h⟩
        rcases List.mem_cons.1 hmem with rfl | hmem
        · exact hlt
        · exact Location.before_strict.trans _ _ _ hlt (hfirst e hmem)
      · rename_i hge
        refine List.pairwise_cons.2 ⟨fun e hmem => ?_, ih hrest⟩
        rcases mem_of_mem_set hmem with rfl | hmem
        · exact Location.before_strict.connected _ _ (by simpa using hge) hne
        · exact hfirst e hmem

/-- Setting an entry in a directory keeps the table closed, as long as no directory is replaced. -/
theorem Closed.set {table : Table} (h : table.Closed) {place : Location} {entry : Entry}
    (hplace : place ≠ []) (hparent : table.HasDirectory place.dropLast)
    (hfree : (place, Entry.directory) ∉ table) : (table.set place entry).Closed := by
  have keep {d : Location} (hd : table.HasDirectory d) (hne : d ≠ place) :
      (table.set place entry).HasDirectory d :=
    hd.imp id fun hmem => mem_set_of_ne hmem hne
  intro e hmem
  rcases mem_of_mem_set hmem with rfl | hmem
  · refine ⟨hplace, keep hparent fun he => ?_⟩
    have hlen := congrArg List.length he
    have hpos := List.length_pos_iff.2 hplace
    simp only [List.length_dropLast] at hlen
    omega
  · refine ⟨(h e hmem).1, ?_⟩
    rcases (h e hmem).2 with htop | hdir
    · exact .inl htop
    · exact keep (.inr hdir) fun he => hfree (he ▸ hdir)

/-- The table without a location and all that lies below it. -/
def remove (table : Table) (place : Location) : Table :=
  table.filter fun e => !place.isPrefixOf e.1

theorem Closed.remove {table : Table} (h : table.Closed) (place : Location) :
    (table.remove place).Closed := by
  intro e hmem
  obtain ⟨hmem, hout⟩ := List.mem_filter.1 hmem
  refine ⟨(h e hmem).1, (h e hmem).2.imp id fun hdir => List.mem_filter.2 ⟨hdir, ?_⟩⟩
  simp only [Bool.not_eq_true', ← Bool.not_eq_true, List.isPrefixOf_iff_prefix] at hout ⊢
  exact fun hp => hout (hp.trans (List.dropLast_prefix _))

end Table

/-! ## Trees -/

/-- A sorted table in which every line stands in a directory. -/
structure FileTree where
  table : Table
  sorted : table.Sorted
  closed : table.Closed
  /-- Why what stands at a location cannot be opened, if it cannot: a file not read, or a directory
      not listed. What lies below such a directory may still be reached by its path. -/
  barred : Location → Option OsError

namespace FileTree

/-- A top directory with nothing in it. -/
def empty : FileTree := ⟨[], .nil, fun _ h => (nomatch h), fun _ => none⟩

/-- The entry at a location. -/
def get? (t : FileTree) (place : Location) : Option Entry :=
  if place = [] then some .directory else (t.table.find? fun e => e.1 == place).map Prod.snd

/-- The tree with an entry set, which can be opened if and only if the one before could. Nothing
    happens outside of a directory, or where a directory would be replaced. -/
def set (t : FileTree) (place : Location) (entry : Entry) : FileTree :=
  if h : place ≠ [] ∧ t.table.HasDirectory place.dropLast ∧ (place, Entry.directory) ∉ t.table then
    { table := t.table.set place entry
      sorted := t.sorted.set place entry
      closed := t.closed.set h.1 h.2.1 h.2.2
      barred := t.barred }
  else t

/-- The tree without a location and all that lies below it. -/
def remove (t : FileTree) (place : Location) : FileTree where
  table := t.table.remove place
  sorted := List.Pairwise.filter _ t.sorted
  closed := t.closed.remove place
  barred := fun other => if place.isPrefixOf other then none else t.barred other

/-- The tree with something that cannot be opened, or that can be again. -/
def bar (t : FileTree) (place : Location) (cause : Option OsError) : FileTree :=
  { t with barred := fun other => if other = place then cause else t.barred other }

/-- The lines that lie below a location, each with the names that lead there from it. -/
def below (t : FileTree) (top : Location) : Table :=
  (t.table.filter fun e => top.isPrefixOf e.1 && e.1.length != top.length).map fun e =>
    (e.1.drop top.length, e.2)

/-- What stands directly in a directory, in the order of the names. -/
def children (t : FileTree) (top : Location) : List (Bytes × Entry) :=
  (t.below top).filterMap fun e =>
    match e.1 with
    | [name] => some (name, e.2)
    | _ => none

/-- The tree with some entries set, each in front of what it holds. -/
def setAll (t : FileTree) (lines : Table) : FileTree :=
  lines.foldl (fun t e => t.set e.1 e.2) t

end FileTree

end SyscallGuard
