import SyscallGuard.Files.System
import Mathlib.Data.List.Induction

set_option autoImplicit false

/-! # Entries of a file tree

A tree is told by what stands at each location (`FileTree.get?`) and by what of it cannot be opened:
its table is sorted and has each location once, so two trees with the same entries and the same bars
are the same (`FileTree.ext`). Whatever stands
below a location has a directory above it all the way up (`get?_of_append`). This gives the order of
the table its meaning: what lies below a directory are its children, each with what lies below it
in turn (`below_eq_flatMap`), so that reading the table is walking the tree. -/

namespace SyscallGuard

/-! ## The order of locations -/

theorem lexBefore_append_left {α : Type} [DecidableEq α] {lt : α → α → Bool} (h : StrictOrder lt)
    (front as bs : List α) : lexBefore lt (front ++ as) (front ++ bs) = lexBefore lt as bs := by
  induction front with
  | nil => rfl
  | cons a front ih => simp [lexBefore, h.irrefl, ih]

namespace Location

theorem before_append_left (front a b : Location) :
    before (front ++ a) (front ++ b) = before a b :=
  lexBefore_append_left Bytes.before_strict front a b

/-- A location comes before those that lie below it. -/
theorem before_append_self (place : Location) {names : Location} (h : names ≠ []) :
    before place (place ++ names) = true := by
  obtain ⟨name, rest, rfl⟩ := List.exists_cons_of_ne_nil h
  simpa [before, lexBefore] using before_append_left place [] (name :: rest)

theorem before_of_head {a b : Bytes} (h : Bytes.before a b = true) (as bs : Location) :
    before (a :: as) (b :: bs) = true := by
  simp [before, lexBefore, h]

theorem not_before_self (place : Location) : before place place ≠ true := by
  simp [before_strict.irrefl]

theorem not_before_of_before {a b : Location} (h : before a b = true) : before b a ≠ true :=
  fun hback => not_before_self a (before_strict.trans _ _ _ h hback)

end Location

/-! ## Sorted tables -/

namespace Table

section Sorted

variable {α : Type}

/-- Lines in the order of their locations are told by which lines there are. -/
theorem sorted_ext {a b : List (Location × α)}
    (ha : a.Pairwise fun x y => x.1.before y.1 = true)
    (hb : b.Pairwise fun x y => x.1.before y.1 = true) (h : ∀ e, e ∈ a ↔ e ∈ b) : a = b := by
  have hnodup : ∀ {l : List (Location × α)},
      l.Pairwise (fun x y => x.1.before y.1 = true) → l.Nodup := by
    intro l hl
    refine hl.imp fun {x y} hxy heq => ?_
    rw [heq] at hxy
    exact Location.not_before_self _ hxy
  refine List.Perm.eq_of_pairwise (fun x y _ _ hxy hyx => ?_) ha hb
    ((List.perm_ext_iff_of_nodup (hnodup ha) (hnodup hb)).2 h)
  exact absurd hyx (Location.not_before_of_before hxy)

end Sorted

variable {table : Table}

/-- A sorted table has each location once. -/
theorem Sorted.unique (h : table.Sorted) {place : Location} {a b : Entry}
    (ha : (place, a) ∈ table) (hb : (place, b) ∈ table) : a = b := by
  induction table with
  | nil => cases ha
  | cons first rest ih =>
    obtain ⟨hfirst, hrest⟩ := List.pairwise_cons.1 h
    rcases List.mem_cons.1 ha with rfl | ha' <;> rcases List.mem_cons.1 hb with heq | hb'
    · exact (congrArg Prod.snd heq).symm
    · exact absurd (hfirst _ hb') (Location.not_before_self _)
    · subst heq
      exact absurd (hfirst _ ha') (Location.not_before_self _)
    · exact ih hrest ha' hb'

/-- What is found at a location after an entry has been set. -/
theorem find?_set (table : Table) (place q : Location) (entry : Entry) :
    (table.set place entry).find? (fun e => e.1 == q) =
      if q = place then some (place, entry) else table.find? fun e => e.1 == q := by
  induction table with
  | nil =>
    by_cases hq : q = place
    · simp [set, hq]
    · simp [set, hq, Ne.symm hq]
  | cons first rest ih =>
    by_cases hq : q = place
    · subst hq
      simp only [set, ↓reduceIte] at ih ⊢
      by_cases hfirst : q = first.1
      · simp [hfirst]
      · by_cases hbefore : q.before first.1 = true
        · simp [hfirst, hbefore]
        · simp [hfirst, hbefore, Ne.symm hfirst, ih]
    · simp only [if_neg hq] at ih ⊢
      simp only [set]
      by_cases hfirst : place = first.1
      · rw [if_pos hfirst, List.find?_cons_of_neg (by simp [Ne.symm hq]),
          List.find?_cons_of_neg (by simp [← hfirst, Ne.symm hq])]
      · rw [if_neg hfirst]
        by_cases hbefore : place.before first.1 = true
        · rw [if_pos hbefore, List.find?_cons_of_neg (by simp [Ne.symm hq])]
        · rw [if_neg hbefore, List.find?_cons, List.find?_cons, ih]

theorem length_set_le (table : Table) (place : Location) (entry : Entry) :
    (table.set place entry).length ≤ table.length + 1 := by
  induction table with
  | nil => simp [set]
  | cons first rest ih =>
    simp only [set]
    split
    · simp
    · split
      · simp
      · simpa using ih

end Table

/-! ## What stands where -/

namespace FileTree

variable {t : FileTree}

/-- The lines of the table are the entries below the top. -/
theorem mem_table {place : Location} {e : Entry} :
    (place, e) ∈ t.table ↔ place ≠ [] ∧ t.get? place = some e := by
  constructor
  · intro h
    have hplace : place ≠ [] := (t.closed _ h).1
    refine ⟨hplace, ?_⟩
    rw [get?, if_neg hplace]
    cases hfind : t.table.find? fun e => e.1 == place with
    | none =>
      exact absurd (beq_self_eq_true place) (List.find?_eq_none.1 hfind _ h)
    | some found =>
      have hfound : (place, found.2) ∈ t.table := by
        have hkey : found.1 = place := by simpa using List.find?_some hfind
        rw [← hkey]
        exact List.mem_of_find?_eq_some hfind
      exact congrArg some (t.sorted.unique hfound h)
  · rintro ⟨hplace, h⟩
    rw [get?, if_neg hplace, Option.map_eq_some_iff] at h
    obtain ⟨found, hfind, rfl⟩ := h
    have hkey : found.1 = place := by simpa using List.find?_some hfind
    rw [← hkey]
    exact List.mem_of_find?_eq_some hfind

/-- A tree is told by what stands at each location and by what cannot be opened. -/
theorem ext {a b : FileTree} (h : ∀ place, a.get? place = b.get? place)
    (hbarred : a.barred = b.barred) : a = b := by
  have htable : a.table = b.table := Table.sorted_ext a.sorted b.sorted fun e => by
    rw [mem_table, mem_table, h]
  cases a
  cases b
  cases htable
  cases hbarred
  rfl

/-- What an entry stands in is a directory. -/
theorem get?_dropLast {place : Location} {e : Entry} (h : t.get? place = some e)
    (hplace : place ≠ []) : t.get? place.dropLast = some .directory := by
  rcases (t.closed _ (mem_table.2 ⟨hplace, h⟩)).2 with htop | hdir
  · rw [show place.dropLast = [] from htop]
    rfl
  · exact (mem_table.1 hdir).2

/-- All that lies above an entry are directories. -/
theorem get?_of_append {top names : Location} {e : Entry} (h : t.get? (top ++ names) = some e)
    (hnames : names ≠ []) : t.get? top = some .directory := by
  induction names using List.reverseRecOn generalizing e with
  | nil => exact absurd rfl hnames
  | append_singleton names name ih =>
    have hdir : t.get? (top ++ names) = some .directory := by
      simpa [← List.append_assoc] using get?_dropLast h (by simp)
    by_cases hnil : names = []
    · simpa [hnil] using hdir
    · exact ih hdir hnil

/-- Setting a file where one stands changes nothing else. -/
theorem get?_set {place : Location} {content : Bytes} {executable : Bool}
    (h : t.get? place = some (.file content executable)) (new : Bytes) (q : Location) :
    (t.set place (.file new executable)).get? q =
      if q = place then some (.file new executable) else t.get? q := by
  have hplace : place ≠ [] := by
    rintro rfl
    cases h
  have hparent : t.table.HasDirectory place.dropLast :=
    (t.closed _ (mem_table.2 ⟨hplace, h⟩)).2
  have hfree : (place, Entry.directory) ∉ t.table := by
    rw [mem_table, h]
    rintro ⟨-, hdir⟩
    cases hdir
  rw [set, dif_pos ⟨hplace, hparent, hfree⟩]
  by_cases hq : q = []
  · subst hq
    rw [if_neg hplace.symm]
    rfl
  · simp only [get?, if_neg hq, Table.find?_set]
    split <;> rfl

/-- What can be opened does not depend on the entries that are set. -/
@[simp]
theorem barred_set (t : FileTree) (place : Location) (entry : Entry) :
    (t.set place entry).barred = t.barred := by
  unfold set
  split <;> rfl

/-! ## Setting many entries -/

theorem length_set_le (t : FileTree) (place : Location) (entry : Entry) :
    (t.set place entry).table.length ≤ t.table.length + 1 := by
  unfold set
  split
  · exact Table.length_set_le _ _ _
  · exact Nat.le_succ _

theorem mem_of_mem_set {t : FileTree} {place : Location} {entry : Entry} {e : Location × Entry}
    (h : e ∈ (t.set place entry).table) : e = (place, entry) ∨ e ∈ t.table := by
  unfold set at h
  split at h
  · exact Table.mem_of_mem_set h
  · exact .inr h

theorem length_setAll_le (t : FileTree) (lines : Table) :
    (t.setAll lines).table.length ≤ t.table.length + lines.length := by
  induction lines generalizing t with
  | nil => exact Nat.le_refl _
  | cons first rest ih =>
    have hrest := ih (t.set first.1 first.2)
    have hfirst := t.length_set_le first.1 first.2
    rw [List.length_cons]
    exact Nat.le_trans hrest (by omega)

theorem mem_of_mem_setAll {t : FileTree} {lines : Table} {e : Location × Entry}
    (h : e ∈ (t.setAll lines).table) : e ∈ t.table ∨ e ∈ lines := by
  induction lines generalizing t with
  | nil => exact .inl h
  | cons first rest ih =>
    rcases ih h with hset | hrest
    · rcases mem_of_mem_set hset with rfl | hold
      · exact .inr List.mem_cons_self
      · exact .inl hold
    · exact .inr (List.mem_cons_of_mem _ hrest)

/-! ## What lies below -/

theorem mem_below {top names : Location} {e : Entry} :
    (names, e) ∈ t.below top ↔ names ≠ [] ∧ t.get? (top ++ names) = some e := by
  simp only [below, List.mem_map, List.mem_filter, Bool.and_eq_true, List.isPrefixOf_iff_prefix,
    bne_iff_ne, Prod.mk.injEq]
  constructor
  · rintro ⟨⟨place, found⟩, ⟨hmem, ⟨rest, rfl⟩, hlen⟩, hdrop, rfl⟩
    rw [List.drop_left] at hdrop
    subst hdrop
    refine ⟨?_, (mem_table.1 hmem).2⟩
    rintro rfl
    simp at hlen
  · rintro ⟨hnames, h⟩
    refine ⟨(top ++ names, e), ⟨mem_table.2 ⟨by simp [hnames], h⟩, List.prefix_append _ _, ?_⟩,
      List.drop_left, rfl⟩
    simpa using hnames

theorem below_sorted (t : FileTree) (top : Location) :
    (t.below top).Pairwise fun a b => a.1.before b.1 = true := by
  rw [below, List.pairwise_map]
  refine (t.sorted.filter _).imp_of_mem fun {a b} ha hb hab => ?_
  have hsplit : ∀ e ∈ t.table.filter fun e => top.isPrefixOf e.1 && e.1.length != top.length,
      e.1 = top ++ e.1.drop top.length := by
    intro e he
    have hprefix := (List.mem_filter.1 he).2
    rw [Bool.and_eq_true, List.isPrefixOf_iff_prefix] at hprefix
    exact (List.prefix_iff_eq_append.1 hprefix.1).symm
  rw [hsplit a ha, hsplit b hb, Location.before_append_left] at hab
  exact hab

theorem length_below_le (t : FileTree) (top : Location) :
    (t.below top).length ≤ t.table.length := by
  rw [below, List.length_map]
  exact List.length_filter_le _ _

theorem mem_children {top : Location} {name : Bytes} {e : Entry} :
    (name, e) ∈ t.children top ↔ t.get? (top ++ [name]) = some e := by
  simp only [children, List.mem_filterMap]
  constructor
  · rintro ⟨⟨names, found⟩, hmem, hname⟩
    match names, hname with
    | [first], hname =>
      simp only [Option.some.injEq, Prod.mk.injEq] at hname
      obtain ⟨rfl, rfl⟩ := hname
      exact (mem_below.1 hmem).2
  · intro h
    exact ⟨([name], e), mem_below.2 ⟨by simp, h⟩, rfl⟩

/-- The children of a directory stand in the order of their names. -/
theorem children_sorted (t : FileTree) (top : Location) :
    (t.children top).Pairwise fun a b => Bytes.before a.1 b.1 = true := by
  rw [children, List.pairwise_filterMap]
  refine (t.below_sorted top).imp fun {a b} hab x hx y hy => ?_
  match a, b, hx, hy with
  | ([first], _), ([second], _), hx, hy =>
    simp only [Option.some.injEq] at hx hy
    subst hx hy
    simpa [Location.before, lexBefore] using hab

/-- What lies below a directory: its children in order, each followed by what lies below it. -/
theorem below_eq_flatMap (t : FileTree) (top : Location) :
    t.below top = (t.children top).flatMap fun c =>
      ([c.1], c.2) :: (t.below (top ++ [c.1])).map fun e => (c.1 :: e.1, e.2) := by
  refine Table.sorted_ext (t.below_sorted top) ?_ fun ⟨names, e⟩ => ?_
  · rw [List.pairwise_flatMap]
    constructor
    · intro c _
      rw [List.pairwise_cons, List.pairwise_map]
      constructor
      · intro e he
        obtain ⟨below, hbelow, rfl⟩ := List.mem_map.1 he
        exact Location.before_append_self [c.1] (mem_below.1 hbelow).1
      · refine (t.below_sorted _).imp fun {a b} hab => ?_
        exact (Location.before_append_left [c.1] a.1 b.1).trans hab
    · -- everything in the part of a child starts with the name of the child
      have hhead : ∀ c : Bytes × Entry, ∀ e ∈ ([c.1], c.2) ::
          (t.below (top ++ [c.1])).map (fun e => (c.1 :: e.1, e.2)),
          ∃ rest, e.1 = c.1 :: rest := by
        intro c e he
        rcases List.mem_cons.1 he with rfl | he
        · exact ⟨[], rfl⟩
        · obtain ⟨below, -, rfl⟩ := List.mem_map.1 he
          exact ⟨below.1, rfl⟩
      refine (t.children_sorted top).imp fun {c d} hcd x hx y hy => ?_
      obtain ⟨restx, hx⟩ := hhead c x hx
      obtain ⟨resty, hy⟩ := hhead d y hy
      rw [hx, hy]
      exact Location.before_of_head hcd restx resty
  · simp only [mem_below, List.mem_flatMap, List.mem_cons, List.mem_map, Prod.mk.injEq]
    constructor
    · rintro ⟨hnames, h⟩
      obtain ⟨name, rest, rfl⟩ := List.exists_cons_of_ne_nil hnames
      have hsplit : t.get? ((top ++ [name]) ++ rest) = some e := by simpa using h
      by_cases hrest : rest = []
      · subst hrest
        exact ⟨(name, e), mem_children.2 h, .inl ⟨rfl, rfl⟩⟩
      · exact ⟨(name, .directory), mem_children.2 (get?_of_append hsplit hrest), .inr
          ⟨(rest, e), mem_below.2 ⟨hrest, hsplit⟩, rfl, rfl⟩⟩
    · rintro ⟨⟨name, found⟩, hchild, ⟨rfl, rfl⟩ | ⟨⟨rest, found⟩, hbelow, rfl, rfl⟩⟩
      · exact ⟨by simp, mem_children.1 hchild⟩
      · exact ⟨by simp, by simpa using (mem_below.1 hbelow).2⟩

end FileTree

/-! ## The system -/

namespace System

theorem length_tree_le : tree.table.length ≤ 58 := by
  refine Nat.le_trans (FileTree.empty.length_setAll_le _) ?_
  simp only [List.length_append, List.length_map]
  decide

/-- Programs and devices are kept without content. -/
theorem content_eq_nil {place : Location} {content : Bytes} {executable : Bool}
    (h : tree.get? place = some (.file content executable)) : content = [] := by
  have hplace : place ≠ [] := by
    rintro rfl
    cases h
  have hline := FileTree.mem_table.2 ⟨hplace, h⟩
  unfold tree at hline
  rcases FileTree.mem_of_mem_setAll hline with hnone | hline
  · cases hnone
  · simp only [List.mem_append, List.mem_map, List.mem_singleton, Prod.mk.injEq] at hline
    rcases hline with ((((h | h) | h) | h) | h) | h
    all_goals grind

end System

end SyscallGuard
