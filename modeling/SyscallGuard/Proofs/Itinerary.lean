import SyscallGuard.Proofs.Entries
import SyscallGuard.Sweep
import Mathlib.Data.List.Basic

set_option autoImplicit false

/-! # The walk as a list

A sweep looks into each directory when it comes to it, keeps what it has still to visit on a stack
and changes files on the way. None of this matters to which entries it visits, nor to which of them
it can open (`FileTree.unopened`): changing the content of a file keeps the *shape* of the tree
(`SameShape`), and with the shape the whole walk is known in advance. It is the table from top to
bottom (`FileTree.itinerary`), and with enough steps the sweep is a run over that list
(`Sweeper.guardEach`, `guardAll_eq_guardEach`). -/

namespace SyscallGuard

/-! ## Spots -/

namespace Spot

@[simp]
theorem descend_nil (spot : Spot) : spot.descend [] = spot := by
  cases spot <;> simp [descend]

theorem descend_append (spot : Spot) (a b : Location) :
    spot.descend (a ++ b) = (spot.descend a).descend b := by
  cases spot <;> simp [descend]

theorem child?_eq {spot : Spot} (h : spot ≠ .beyond) (name : Bytes) :
    spot.child? name = some (spot.descend [name]) := by
  cases spot with
  | beyond => exact absurd rfl h
  | inside place | around place => rfl

theorem descend_injective {spot : Spot} (h : spot ≠ .beyond) {a b : Location}
    (heq : spot.descend a = spot.descend b) : a = b := by
  cases spot with
  | beyond => exact absurd rfl h
  | inside place | around place => simpa [descend] using heq

end Spot

/-! ## Below a spot -/

namespace World

variable {w : World}

theorem mem_below {spot : Spot} {names : Location} {e : Entry} :
    (names, e) ∈ w.below spot ↔
      spot ≠ .beyond ∧ names ≠ [] ∧ w.entry? (spot.descend names) = some e := by
  cases spot <;> simp [below, entry?, Spot.descend, FileTree.mem_below]

theorem mem_children {spot : Spot} {name : Bytes} {e : Entry} :
    (name, e) ∈ w.children spot ↔ spot ≠ .beyond ∧ w.entry? (spot.descend [name]) = some e := by
  cases spot <;> simp [children, entry?, Spot.descend, FileTree.mem_children]

theorem below_sorted (w : World) (spot : Spot) :
    (w.below spot).Pairwise fun a b => a.1.before b.1 = true := by
  cases spot with
  | inside place => exact w.tree.below_sorted place
  | around place => exact w.system.below_sorted place
  | beyond => exact .nil

/-- Below an entry that is there, all that lies on the way is a directory. -/
theorem entry?_of_descend {spot : Spot} {names : Location} {e : Entry}
    (h : w.entry? (spot.descend names) = some e) (hnames : names ≠ []) :
    w.entry? spot = some .directory := by
  cases spot with
  | inside place => exact FileTree.get?_of_append h hnames
  | around place => exact FileTree.get?_of_append h hnames
  | beyond => rfl

theorem below_eq_nil {spot : Spot} (h : w.entry? spot ≠ some .directory) : w.below spot = [] := by
  refine List.eq_nil_iff_forall_not_mem.2 fun e he => h ?_
  obtain ⟨-, hnames, hentry⟩ := mem_below.1 (show (e.1, e.2) ∈ w.below spot from he)
  exact entry?_of_descend hentry hnames

theorem below_eq_flatMap (w : World) (spot : Spot) :
    w.below spot = (w.children spot).flatMap fun c =>
      ([c.1], c.2) :: (w.below (spot.descend [c.1])).map fun e => (c.1 :: e.1, e.2) := by
  cases spot with
  | inside place => exact w.tree.below_eq_flatMap place
  | around place => exact w.system.below_eq_flatMap place
  | beyond => rfl

end World

/-! ## Visits that hold -/

/-- Whether an entry of the kind that a visit has come to stands at its spot. -/
def Visit.Stands (t : FileTree) (v : Visit) : Prop :=
  (t.world.entry? v.spot).map Entry.kind = some v.kind

theorem Visit.Stands.of_entry {t : FileTree} {v : Visit} {e : Entry}
    (h : t.world.entry? v.spot = some e) (hkind : e.kind = v.kind) : v.Stands t := by
  rw [Stands, h, Option.map_some, hkind]

theorem Visit.Stands.exists_entry {t : FileTree} {v : Visit} (h : v.Stands t) :
    ∃ e, t.world.entry? v.spot = some e ∧ e.kind = v.kind :=
  Option.map_eq_some_iff.1 h

theorem Visit.Stands.directory {t : FileTree} {v : Visit} (h : v.Stands t)
    (hkind : v.kind = .directory) : t.world.entry? v.spot = some .directory := by
  obtain ⟨e, he, hsame⟩ := h.exists_entry
  rw [hkind] at hsame
  cases e with
  | directory => exact he
  | file | link => cases hsame

theorem Visit.Stands.file {t : FileTree} {v : Visit} (h : v.Stands t) (hkind : v.kind = .file) :
    ∃ content executable, t.world.entry? v.spot = some (.file content executable) := by
  obtain ⟨e, he, hsame⟩ := h.exists_entry
  rw [hkind] at hsame
  cases e with
  | file content executable => exact ⟨content, executable, he⟩
  | directory | link => cases hsame

namespace FileTree

variable {t : FileTree} {v : Visit}

theorem settle_of_stands (h : v.Stands t) :
    t.settle v = if v.path.length ≥ World.pathLimit then .error .nameTooLong else .ok v.spot := by
  rw [settle, if_pos (show _ = _ from h)]

/-- Why a walk cannot open what it has come to, if it cannot: its path is too long, or the file is
    not to be read or the directory not to be listed. -/
def unopened (t : FileTree) (v : Visit) : Option OsError :=
  if v.path.length ≥ World.pathLimit then some .nameTooLong else t.world.barred v.spot

/-- What a walk finds in a directory that it can open are its children, visited by their names. -/
theorem entriesOf_of_stands (h : v.Stands t) (hkind : v.kind = .directory) :
    t.entriesOf v = match t.unopened v with
      | some cause => .error cause
      | none => .ok ((t.world.children v.spot).map fun c => v.descend ([c.1], c.2)) := by
  have hvisits : ((t.world.children v.spot).filterMap fun e =>
      (v.spot.child? e.1).map fun s => (⟨Path.child v.path e.1, s, e.2.kind⟩ : Visit)) =
      (t.world.children v.spot).map fun c => v.descend ([c.1], c.2) := by
    rw [← List.filterMap_eq_map]
    refine List.filterMap_congr fun c hc => ?_
    obtain ⟨hspot, -⟩ := World.mem_children.1 (show (c.1, c.2) ∈ t.world.children v.spot from hc)
    rw [Spot.child?_eq hspot]
    rfl
  rw [entriesOf, settle_of_stands h, unopened]
  by_cases hlong : v.path.length ≥ World.pathLimit
  · simp only [if_pos hlong]
  · simp only [if_neg hlong, World.listing, if_pos (h.directory hkind)]
    cases t.world.barred v.spot with
    | some cause => rfl
    | none => exact congrArg Except.ok hvisits

/-- What a walk reads is the content of the file that it has come to, if it can open it. -/
theorem read_of_stands (h : v.Stands t) {content : Bytes} {executable : Bool}
    (hentry : t.world.entry? v.spot = some (.file content executable)) :
    t.read v = match t.unopened v with
      | some cause => .error cause
      | none => .ok content := by
  rw [read, settle_of_stands h, unopened]
  by_cases hlong : v.path.length ≥ World.pathLimit
  · simp only [if_pos hlong]
  · simp only [if_neg hlong, World.content, hentry]
    cases t.world.barred v.spot <;> rfl

/-- What can be opened leads to where it stands. -/
theorem settle_of_unopened (h : v.Stands t) (hopen : t.unopened v = none) :
    t.settle v = .ok v.spot ∧ t.world.barred v.spot = none := by
  rw [settle_of_stands h]
  unfold unopened at hopen
  split at hopen
  · cases hopen
  · next hshort => exact ⟨if_neg hshort, hopen⟩

theorem world_barred_congr {u : FileTree} (h : u.barred = t.barred) (spot : Spot) :
    u.world.barred spot = t.world.barred spot := by
  cases spot <;> simp [World.barred, world, h]

theorem unopened_congr {u : FileTree} (h : u.barred = t.barred) (v : Visit) :
    u.unopened v = t.unopened v := by
  rw [unopened, unopened, world_barred_congr h]

/-- The entries of a directory stand in front of what was still to be visited. -/
theorem children_stand {visits : List Visit} (v : Visit) (h : ∀ u ∈ visits, u.Stands t) :
    ∀ u ∈ ((t.world.children v.spot).map fun c => v.descend ([c.1], c.2)) ++ visits,
      u.Stands t := by
  intro u hu
  rcases List.mem_append.1 hu with hu | hu
  · obtain ⟨c, hc, rfl⟩ := List.mem_map.1 hu
    exact .of_entry (World.mem_children.1 hc).2 rfl
  · exact h u hu

/-! ## The itinerary -/

theorem itinerary_of_ne_directory (h : v.kind ≠ .directory) : t.itinerary v = [v] := by
  unfold itinerary
  split
  · next hkind => exact absurd hkind h
  · rfl
  · rfl

/-- From a directory the walk goes through its children, and from each of them on in turn. -/
theorem itinerary_directory (h : v.kind = .directory) :
    t.itinerary v =
      v :: ((t.world.children v.spot).map fun c => v.descend ([c.1], c.2)).flatMap t.itinerary := by
  rw [itinerary, h, List.flatMap_map]
  simp only
  rw [World.below_eq_flatMap, List.map_flatMap]
  refine congrArg (v :: ·) (List.flatMap_congr fun c hc => ?_)
  obtain ⟨-, hentry⟩ := World.mem_children.1 (show (c.1, c.2) ∈ t.world.children v.spot from hc)
  have hdescend : v.descend ∘ (fun e : Location × Entry => (c.1 :: e.1, e.2)) =
      (v.descend ([c.1], c.2)).descend := by
    funext e
    have hspot : v.spot.descend (c.1 :: e.1) = (v.spot.descend [c.1]).descend e.1 :=
      Spot.descend_append v.spot [c.1] e.1
    simp only [Function.comp_apply, Visit.descend, hspot]
    rfl
  rw [List.map_cons, List.map_map, hdescend]
  cases hc : c.2 with
  | directory => rfl
  | file content executable =>
    rw [World.below_eq_nil (by rw [hentry, hc]; simp),
      itinerary_of_ne_directory (by simp [Visit.descend, Entry.kind])]
    rfl
  | link target =>
    rw [World.below_eq_nil (by rw [hentry, hc]; simp),
      itinerary_of_ne_directory (by simp [Visit.descend, Entry.kind])]
    rfl

theorem mem_itinerary {u : Visit} :
    u ∈ t.itinerary v ↔ u = v ∨ v.kind = .directory ∧ v.spot ≠ .beyond ∧
      ∃ names e, names ≠ [] ∧ t.world.entry? (v.spot.descend names) = some e ∧
        u = v.descend (names, e) := by
  rw [itinerary, List.mem_cons]
  refine or_congr_right ?_
  cases hkind : v.kind with
  | file | link => simp
  | directory =>
    simp only [List.mem_map, true_and]
    constructor
    · rintro ⟨⟨names, e⟩, hmem, rfl⟩
      obtain ⟨hspot, hnames, hentry⟩ := World.mem_below.1 hmem
      exact ⟨hspot, names, e, hnames, hentry, rfl⟩
    · rintro ⟨hspot, names, e, hnames, hentry, rfl⟩
      exact ⟨(names, e), World.mem_below.2 ⟨hspot, hnames, hentry⟩, rfl⟩

theorem stands_of_mem_itinerary (h : v.Stands t) : ∀ u ∈ t.itinerary v, u.Stands t := by
  intro u hu
  rcases mem_itinerary.1 hu with rfl | ⟨-, -, names, e, -, hentry, rfl⟩
  · exact h
  · exact .of_entry hentry rfl

/-- A walk comes to each spot once. -/
theorem itinerary_spots_nodup (t : FileTree) (v : Visit) :
    ((t.itinerary v).map Visit.spot).Nodup := by
  rw [itinerary, List.map_cons]
  cases hkind : v.kind with
  | file | link => simp
  | directory =>
    simp only [List.map_map]
    by_cases hspot : v.spot = .beyond
    · simp [hspot, World.below]
    refine List.nodup_cons.2 ⟨?_, ?_⟩
    · rintro hmem
      obtain ⟨⟨names, e⟩, hbelow, hsame⟩ := List.mem_map.1 hmem
      obtain ⟨-, hnames, -⟩ := World.mem_below.1 hbelow
      exact hnames (Spot.descend_injective hspot (hsame.trans (Spot.descend_nil _).symm))
    · refine List.pairwise_map.2 ((t.world.below_sorted v.spot).imp fun {a b} hab heq => ?_)
      rw [Spot.descend_injective hspot heq] at hab
      exact Location.not_before_self _ hab

theorem length_itinerary_le (t : FileTree) (v : Visit) :
    (t.itinerary v).length ≤ t.table.length + System.tree.table.length + 1 := by
  have hbelow : (t.world.below v.spot).length ≤ t.table.length + System.tree.table.length := by
    cases v.spot with
    | inside place => exact Nat.le_add_right_of_le (t.length_below_le place)
    | around place =>
      simp only [World.below, world]
      exact Nat.le_add_left_of_le (System.tree.length_below_le place)
    | beyond => exact Nat.zero_le _
  unfold itinerary
  split
  · simpa using hbelow
  · simp
  · simp

/-! ## Trees of the same shape -/

/-- Whether two trees have entries of the same kind everywhere, of which the same can be opened. -/
structure SameShape (t u : FileTree) : Prop where
  kinds : ∀ spot, (t.world.entry? spot).map Entry.kind = (u.world.entry? spot).map Entry.kind
  barred : t.barred = u.barred

variable {u : FileTree}

theorem SameShape.refl (t : FileTree) : t.SameShape t := ⟨fun _ => rfl, rfl⟩

theorem SameShape.stands (h : t.SameShape u) : v.Stands t ↔ v.Stands u := by
  rw [Visit.Stands, Visit.Stands, h.kinds]

/-- The walk depends on the shape only. -/
theorem SameShape.itinerary (h : t.SameShape u) (v : Visit) : t.itinerary v = u.itinerary v := by
  let outline (t : FileTree) := (t.world.below v.spot).map fun e => (e.1, e.2.kind)
  have hmem : ∀ (t : FileTree) (names : Location) (kind : EntryKind),
      (names, kind) ∈ outline t ↔ v.spot ≠ .beyond ∧ names ≠ [] ∧
        (t.world.entry? (v.spot.descend names)).map Entry.kind = some kind := by
    intro t names kind
    simp only [outline, List.mem_map, Prod.mk.injEq]
    constructor
    · rintro ⟨⟨names, e⟩, hbelow, rfl, rfl⟩
      obtain ⟨hspot, hnames, hentry⟩ := World.mem_below.1 hbelow
      exact ⟨hspot, hnames, congrArg (Option.map Entry.kind) hentry⟩
    · rintro ⟨hspot, hnames, hkind⟩
      obtain ⟨e, hentry, rfl⟩ := Option.map_eq_some_iff.1 hkind
      exact ⟨(names, e), World.mem_below.2 ⟨hspot, hnames, hentry⟩, rfl, rfl⟩
  have hsorted : ∀ t : FileTree, (outline t).Pairwise fun a b => a.1.before b.1 = true :=
    fun t => List.pairwise_map.2 (t.world.below_sorted v.spot)
  have houtline : outline t = outline u :=
    Table.sorted_ext (hsorted t) (hsorted u) fun e => by
      rw [show e = (e.1, e.2) from rfl, hmem, hmem, h.kinds]
  have hvisits : ∀ t : FileTree, (t.world.below v.spot).map v.descend =
      (outline t).map fun e => ⟨Path.descend v.path e.1, v.spot.descend e.1, e.2⟩ := by
    intro t
    rw [List.map_map]
    rfl
  rw [FileTree.itinerary, FileTree.itinerary, hvisits t, hvisits u, houtline]

theorem SameShape.flatMap_itinerary (h : t.SameShape u) (visits : List Visit) :
    visits.flatMap t.itinerary = visits.flatMap u.itinerary :=
  List.flatMap_congr fun v _ => h.itinerary v

/-! ## Changing a file -/

/-- A tree in which a file in the tree is given a new content. -/
theorem entry?_refill {place : Location} {content : Bytes} {executable : Bool}
    (h : t.get? place = some (.file content executable)) (new : Bytes) (spot : Spot) :
    (t.world.refill (.inside place) new).tree.world.entry? spot =
      if spot = .inside place then some (.file new executable) else t.world.entry? spot := by
  have hrefill : (t.world.refill (.inside place) new).tree =
      t.set place (.file new executable) := by
    simp only [World.refill, World.entry?, world, h]
    rfl
  rw [hrefill]
  cases spot with
  | inside q => simp [World.entry?, world, get?_set h]
  | around q => simp [World.entry?, world]
  | beyond => simp [World.entry?]

/-- Giving a file a new content changes nothing about what can be opened. -/
@[simp]
theorem barred_refill (t : FileTree) (spot : Spot) (new : Bytes) :
    (t.world.refill spot new).tree.barred = t.barred := by
  have hset : ∀ (s : Spot) (e : Entry), (t.world.set s e).tree.barred = t.barred := by
    intro s e
    cases s with
    | inside place => exact t.barred_set place e
    | around place | beyond => rfl
  unfold World.refill
  split
  · split
    · rfl
    · exact hset _ _
  · exact hset _ _
  · rfl

/-- Files of the system are none of the tree. -/
theorem tree_refill_around (t : FileTree) (place : Location) (new : Bytes) :
    (t.world.refill (.around place) new).tree = t := by
  unfold World.refill
  split
  · split <;> rfl
  · next hother => exact absurd rfl (hother place)
  · rfl

/-- Giving a file a new content leaves all other entries as they are. -/
theorem entry?_refill_of_ne {spot s : Spot} {content : Bytes} {executable : Bool}
    (h : t.world.entry? spot = some (.file content executable)) (hs : s ≠ spot) (new : Bytes) :
    (t.world.refill spot new).tree.world.entry? s = t.world.entry? s := by
  cases spot with
  | inside place => rw [entry?_refill (show t.get? place = _ from h), if_neg hs]
  | around place => rw [tree_refill_around]
  | beyond => cases h

/-- A tree is told by what stands at each spot and by what cannot be opened. -/
theorem ext_entries {t u : FileTree} (h : ∀ spot, t.world.entry? spot = u.world.entry? spot)
    (hbarred : t.barred = u.barred) : t = u :=
  ext (fun place => h (.inside place)) hbarred

/-- The same for a file anywhere: those of the system are empty and stay so. -/
theorem entry?_refill_file {spot : Spot} {content new : Bytes} {executable : Bool}
    (h : t.world.entry? spot = some (.file content executable)) (hnew : content = [] → new = [])
    (s : Spot) :
    (t.world.refill spot new).tree.world.entry? s =
      if s = spot then some (.file new executable) else t.world.entry? s := by
  cases spot with
  | inside place => exact entry?_refill h new s
  | beyond => cases h
  | around place =>
    have hnil : content = [] := by
      simp only [World.entry?, world] at h
      exact System.content_eq_nil h
    rw [tree_refill_around]
    split
    · next hs => rw [hs, h, hnew hnil, hnil]
    · rfl

theorem refill_self {spot : Spot} {content : Bytes} {executable : Bool}
    (h : t.world.entry? spot = some (.file content executable)) :
    (t.world.refill spot content).tree = t := by
  refine ext_entries (fun s => ?_) (t.barred_refill spot content)
  rw [entry?_refill_file h id]
  split
  · next hs => rw [hs, h]
  · rfl

theorem sameShape_refill {spot : Spot} {content : Bytes} {executable : Bool}
    (h : t.world.entry? spot = some (.file content executable)) (new : Bytes) :
    (t.world.refill spot new).tree.SameShape t := by
  refine ⟨fun q => ?_, t.barred_refill spot new⟩
  cases spot with
  | beyond => cases h
  | around place => rw [tree_refill_around]
  | inside place =>
    rw [entry?_refill (show t.get? place = _ from h)]
    split
    · next hq =>
      rw [hq, h]
      rfl
    · rfl

end FileTree

/-! ## Sweeping along the list -/

/-- Whether a formatter leaves the tree as it is. -/
def Formatter.Inert (f : Formatter) : Prop := ∀ t source, (f.run t source).2 = t

theorem Formatter.inert_ofCanonicalizer (c : Canonicalizer) : (ofCanonicalizer c).Inert :=
  fun _ _ => rfl

namespace Sweeper

/-- Guards the Go sources among some visits in turn, up to the first failure. Directories are not
    gone into, but looked into to see whether that is possible. -/
def guardEach (w : Sweeper) : FileTree → Totals → List Visit → Effect Totals
  | t, totals, [] => ⟨[], t, .ok totals⟩
  | t, totals, v :: rest =>
    match v.kind with
    | .link => guardEach w t totals rest
    | .directory =>
      match t.entriesOf v with
      | .error e => ⟨[], t, .error (.walk v.path e)⟩
      | .ok _ => guardEach w t totals rest
    | .file =>
      if !Path.isGoSource v.path then guardEach w t totals rest
      else
        let first := w.guardVisit t v
        match first.result with
        | .error e => ⟨first.events, first.tree, .error e⟩
        | .ok outcome =>
          let others := guardEach w first.tree (totals.record outcome) rest
          ⟨first.events ++ others.events, others.tree, others.result⟩

variable {w : Sweeper} {t : FileTree}

/-- A file that is still there is written where it stands. -/
theorem store_of_file {spot : Spot} {content : Bytes} {executable : Bool}
    (h : t.world.entry? spot = some (.file content executable)) (path new : Bytes) :
    store t path spot new = .ok (t.world.refill spot new).tree := by
  rw [store, h]

theorem sameShape_guardSpot (hw : w.formatter.Inert) {spot : Spot} {content : Bytes}
    {executable : Bool} (h : t.world.entry? spot = some (.file content executable)) (path : Bytes) :
    (w.guardSpot t path spot).tree.SameShape t := by
  unfold guardSpot
  split
  · exact .refl t
  · split
    · exact .refl t
    · next d _ =>
      split
      · exact .refl t
      · simp only [finish, hw t d.output]
        split
        · exact .refl t
        · rw [store_of_file h]
          exact FileTree.sameShape_refill h _

theorem sameShape_guardVisit (hw : w.formatter.Inert) {v : Visit} (h : v.Stands t)
    (hkind : v.kind = .file) : (w.guardVisit t v).tree.SameShape t := by
  unfold guardVisit
  split
  · exact .refl t
  · next spot hsettle =>
    rw [FileTree.settle_of_stands h] at hsettle
    split at hsettle
    · cases hsettle
    · rw [Except.ok.injEq] at hsettle
      subst hsettle
      obtain ⟨content, executable, hfile⟩ := h.file hkind
      exact sameShape_guardSpot hw hfile v.path

/-- With enough steps a sweep of what is on its stack is a run over all that lies below. -/
theorem guardAll_eq_guardEach (hw : w.formatter.Inert) (fuel : Nat) (totals : Totals)
    (visits : List Visit) (hstands : ∀ v ∈ visits, v.Stands t)
    (hfuel : (visits.flatMap t.itinerary).length ≤ fuel) :
    w.guardAll fuel t totals visits = w.guardEach t totals (visits.flatMap t.itinerary) := by
  induction fuel generalizing t totals visits with
  | zero =>
    cases visits with
    | nil => rfl
    | cons v rest => simp [FileTree.itinerary] at hfuel
  | succ fuel ih =>
    cases visits with
    | nil => rfl
    | cons v rest =>
      obtain ⟨hv, hrest⟩ := List.forall_mem_cons.1 hstands
      rw [List.flatMap_cons] at hfuel ⊢
      cases hkind : v.kind with
      | link =>
        rw [FileTree.itinerary_of_ne_directory (by simp [hkind])] at hfuel ⊢
        simp only [guardAll, List.singleton_append, guardEach, hkind]
        refine ih totals rest hrest ?_
        simpa using hfuel
      | directory =>
        rw [FileTree.itinerary_directory hkind] at hfuel ⊢
        simp only [guardAll, List.cons_append, guardEach, hkind,
          FileTree.entriesOf_of_stands hv hkind]
        cases t.unopened v with
        | some cause => rfl
        | none =>
          simp only
          rw [List.cons_append, ← List.flatMap_append] at hfuel
          rw [← List.flatMap_append]
          refine ih totals _ (FileTree.children_stand v hrest) ?_
          simpa using hfuel
      | file =>
        rw [FileTree.itinerary_of_ne_directory (by simp [hkind])] at hfuel ⊢
        have hmore : (rest.flatMap t.itinerary).length ≤ fuel := by simpa using hfuel
        simp only [guardAll, List.singleton_append, guardEach, hkind]
        split
        · exact ih totals rest hrest hmore
        · cases (w.guardVisit t v).result with
          | error e => rfl
          | ok outcome =>
            -- the file is changed, but the rest of the walk is the same
            have hshape := sameShape_guardVisit hw hv hkind
            have hsame := hshape.flatMap_itinerary rest
            have hlater := ih (totals.record outcome) rest
              (fun u hu => hshape.stands.2 (hrest u hu)) (hsame ▸ hmore)
            rw [hsame] at hlater
            simp only [hlater]

end Sweeper

end SyscallGuard
