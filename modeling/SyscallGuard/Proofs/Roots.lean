import SyscallGuard.Proofs.Itinerary

set_option autoImplicit false

/-! # Where a root path leads

A walk begins where its root path leads. The path is resolved twice, first without following a link
at its end and then, if there is one, with it. The two differ only at such a link (`follow_last`),
and what a path is resolved to is there (`entry?_of_resolve`). So a walk can begin if and only if
the path leads anywhere at all (`start_eq_error_iff`), and the Go sources that it comes to are told
without it: `FileTree.Leads` says where a root path and names below it lead. -/

namespace SyscallGuard

/-! ## Resolving -/

namespace World

variable {w : World}

/-- Above a directory there is a directory. -/
theorem entry?_parent {spot : Spot} (h : w.entry? spot = some .directory) :
    w.entry? spot.parent = some .directory := by
  cases spot with
  | inside place =>
    cases place with
    | nil => rfl
    | cons name rest => exact FileTree.get?_dropLast h (List.cons_ne_nil name rest)
  | around place =>
    by_cases hplace : place = []
    · subst hplace
      exact h
    · exact FileTree.get?_dropLast h hplace
  | beyond => rfl

/-- Steps have led to something that is there, to nothing yet, or to a link in a directory. -/
def Progress.Stands (w : World) : Progress → Prop
  | arrived (.present s) => w.entry? s ≠ none
  | arrived (.absent _ _) => True
  | atLink directory _ _ => w.entry? directory = some .directory

/-- Steps from something that is there lead to something that is there. -/
theorem advance_stands {followLast : Bool} {spot : Spot} {steps : List Bytes} {found : Progress}
    (hspot : w.entry? spot ≠ none) (h : w.advance followLast spot steps = .ok found) :
    found.Stands w := by
  induction steps generalizing spot with
  | nil =>
    rw [advance, Except.ok.injEq] at h
    subst h
    exact hspot
  | cons name rest ih =>
    rw [advance] at h
    split at h
    · cases h
    · next hdirectory =>
      rw [ne_eq, not_not] at hdirectory
      split at h
      · exact ih hspot h
      · split at h
        · exact ih (by rw [entry?_parent hdirectory]; simp) h
        · split at h
          · cases h
          · split at h
            · split at h
              · rw [Except.ok.injEq] at h
                subst h
                trivial
              · cases h
            · next next target hchild =>
              obtain ⟨child, -, hentry⟩ := Option.bind_eq_some_iff.1 hchild
              obtain ⟨e, he, hpair⟩ := Option.map_eq_some_iff.1 hentry
              split at h
              · rw [Except.ok.injEq] at h
                subst h
                rw [Prod.mk.injEq] at hpair
                rw [Progress.Stands, ← hpair.1, he]
                exact Option.some_ne_none _
              · rw [Except.ok.injEq] at h
                subst h
                exact hdirectory
            · next next e _ hchild =>
              obtain ⟨child, -, hentry⟩ := Option.bind_eq_some_iff.1 hchild
              obtain ⟨e, he, hpair⟩ := Option.map_eq_some_iff.1 hentry
              rw [Prod.mk.injEq] at hpair
              exact ih (by rw [← hpair.1]; simp [he]) h

/-- Steps that may stop at a link at their end lead as far as those that may not, or to a link. -/
theorem advance_last (spot : Spot) (steps : List Bytes) :
    w.advance false spot steps = w.advance true spot steps ∨
      ∃ s target, w.advance false spot steps = .ok (.arrived (.present s)) ∧
        w.entry? s = some (.link target) := by
  induction steps generalizing spot with
  | nil => exact .inl rfl
  | cons name rest ih =>
    rw [advance, advance]
    split
    · exact .inl rfl
    · split
      · exact ih spot
      · split
        · exact ih spot.parent
        · split
          · exact .inl rfl
          · split
            · exact .inl rfl
            · next next target hchild =>
              obtain ⟨child, -, hentry⟩ := Option.bind_eq_some_iff.1 hchild
              obtain ⟨e, he, hpair⟩ := Option.map_eq_some_iff.1 hentry
              rw [Prod.mk.injEq] at hpair
              cases hrest : rest.isEmpty with
              | true => exact .inr ⟨next, target, by simp, by rw [← hpair.1, he, hpair.2]⟩
              | false => exact .inl (by simp)
            · next next e _ hchild => exact ih next

theorem follow_last (links : Nat) (spot : Spot) (steps : List Bytes) :
    w.follow false links spot steps = w.follow true links spot steps ∨
      ∃ s target, w.follow false links spot steps = .ok (.present s) ∧
        w.entry? s = some (.link target) := by
  induction links generalizing spot steps with
  | zero =>
    rcases w.advance_last spot steps with hsame | ⟨s, target, harrived, hlink⟩
    · left
      rw [follow, follow, hsame]
    · right
      exact ⟨s, target, by rw [follow, harrived], hlink⟩
  | succ links ih =>
    rcases w.advance_last spot steps with hsame | ⟨s, target, harrived, hlink⟩
    · rw [follow, follow, hsame]
      split
      · exact .inl rfl
      · exact .inl rfl
      · exact ih _ _
    · right
      exact ⟨s, target, by rw [follow, harrived], hlink⟩

theorem follow_stands {followLast : Bool} {links : Nat} {spot s : Spot} {steps : List Bytes}
    (hspot : w.entry? spot ≠ none) (h : w.follow followLast links spot steps = .ok (.present s)) :
    w.entry? s ≠ none := by
  induction links generalizing spot steps with
  | zero =>
    rw [follow] at h
    split at h
    · cases h
    · next hadvance =>
      rw [Except.ok.injEq] at h
      subst h
      exact advance_stands hspot hadvance
    · cases h
  | succ links ih =>
    rw [follow] at h
    split at h
    · cases h
    · next hadvance =>
      rw [Except.ok.injEq] at h
      subst h
      exact advance_stands hspot hadvance
    · next directory target rest hadvance =>
      refine ih ?_ h
      split
      · exact Option.some_ne_none _
      · rw [show w.entry? directory = _ from advance_stands hspot hadvance]
        exact Option.some_ne_none _

/-- A path is resolved to something that is there. -/
theorem entry?_of_resolve {directory s : Spot} {followLast : Bool} {path : Bytes}
    (hdirectory : w.entry? directory ≠ none) (h : w.resolve directory followLast path = .ok s) :
    w.entry? s ≠ none := by
  unfold resolve locate at h
  split at h
  · cases h
  · next hlocate =>
    rw [Except.ok.injEq] at h
    subst h
    split at hlocate
    · cases hlocate
    · split at hlocate
      · cases hlocate
      · split at hlocate
        · cases hlocate
        · refine follow_stands ?_ hlocate
          split
          · exact Option.some_ne_none _
          · exact hdirectory
  · cases h

theorem locate_last (directory : Spot) (path : Bytes) :
    w.locate directory false path = w.locate directory true path ∨
      ∃ s target, w.locate directory false path = .ok (.present s) ∧
        w.entry? s = some (.link target) := by
  unfold locate
  split
  · exact .inl rfl
  · split
    · exact .inl rfl
    · split
      · exact .inl rfl
      · exact w.follow_last _ _ _

/-- Whether the link at the end of a path is followed matters only if there is one. -/
theorem resolve_last (directory : Spot) (path : Bytes) :
    w.resolve directory false path = w.resolve directory true path ∨
      ∃ s target, w.resolve directory false path = .ok s ∧ w.entry? s = some (.link target) := by
  rcases w.locate_last directory path with hsame | ⟨s, target, hpresent, hlink⟩
  · left
    rw [resolve, resolve, hsame]
  · right
    exact ⟨s, target, by rw [resolve, hpresent], hlink⟩

end World

/-! ## Where a walk begins -/

namespace FileTree

variable {t : FileTree} {root : Bytes}

/-- What a root path names is there. -/
theorem entry?_of_resolve {followLast : Bool} {s : Spot} (h : t.resolve followLast root = .ok s) :
    t.world.entry? s ≠ none := by
  have htop : t.world.entry? (.inside []) ≠ none := Option.some_ne_none Entry.directory
  exact World.entry?_of_resolve htop h

/-- A path that does not end at a link leads to what it names. -/
theorem resolve_of_not_link {s : Spot} (h : t.resolve false root = .ok s)
    (hlink : ∀ target, t.world.entry? s ≠ some (.link target)) : t.resolve true root = .ok s := by
  unfold resolve at h ⊢
  rcases t.world.resolve_last (.inside []) root with hsame | ⟨s', target, hs', htarget⟩
  · rw [← hsame, h]
  · rw [h, Except.ok.injEq] at hs'
    subst hs'
    exact absurd htarget (hlink target)

/-- If a path names nothing it leads nowhere. -/
theorem resolve_of_error {e : OsError} (h : t.resolve false root = .error e) :
    t.resolve true root = .error e := by
  unfold resolve at h ⊢
  rcases t.world.resolve_last (.inside []) root with hsame | ⟨s, target, hs, -⟩
  · rw [← hsame, h]
  · rw [hs] at h
    cases h

/-- A walk begins at what its root path names, or, if that is a link to a directory, there. -/
theorem start_eq_ok {v : Visit} (h : t.start root = .ok v) :
    v.path = root ∧ v.Stands t ∧
      (v.kind ≠ .link → t.resolve true root = .ok v.spot) ∧
      (v.kind ≠ .directory → t.resolve false root = .ok v.spot) := by
  unfold start at h
  split at h
  · cases h
  · next s hs =>
    split at h
    · next target hlink =>
      split at h
      · cases h
      · next top htop =>
        split at h
        · next hdirectory =>
          rw [Except.ok.injEq] at h
          subst h
          exact ⟨rfl, .of_entry hdirectory rfl, fun _ => htop, fun hne => absurd rfl hne⟩
        · rw [Except.ok.injEq] at h
          subst h
          exact ⟨rfl, .of_entry hlink rfl, fun hne => absurd rfl hne, fun _ => hs⟩
    · next e hlink hentry =>
      rw [Except.ok.injEq] at h
      subst h
      refine ⟨rfl, .of_entry hentry rfl, fun _ => resolve_of_not_link hs fun target => ?_,
        fun _ => hs⟩
      rw [hentry]
      exact fun htarget => hlink target (Option.some.inj htarget)
    · cases h

/-- A walk is the itinerary from where it begins. -/
theorem visits_eq_ok_iff {visits : List Visit} :
    t.visits root = .ok visits ↔ ∃ v, t.start root = .ok v ∧ t.itinerary v = visits := by
  unfold FileTree.visits
  cases t.start root <;> simp

/-- A path that leads to a directory begins a walk there. -/
theorem start_of_directory {top : Spot} (h : t.resolve true root = .ok top)
    (hdirectory : t.world.entry? top = some .directory) :
    t.start root = .ok ⟨root, top, .directory⟩ := by
  unfold start
  cases hs : t.resolve false root with
  | error e =>
    rw [resolve_of_error hs] at h
    cases h
  | ok s =>
    simp only
    split
    · rw [h]
      simp only [hdirectory, if_true]
    · next e hlink hentry =>
      have hsame : t.resolve true root = .ok s := resolve_of_not_link hs fun target => by
        rw [hentry]
        exact fun htarget => hlink target (Option.some.inj htarget)
      rw [h, Except.ok.injEq] at hsame
      subst hsame
      rw [hdirectory, Option.some.injEq] at hentry
      rw [← hentry]
      rfl
    · next hnone => exact absurd hnone (entry?_of_resolve hs)

/-- A path that names a file begins a walk at that file. -/
theorem start_of_file {s : Spot} {content : Bytes} {executable : Bool}
    (h : t.resolve false root = .ok s)
    (hfile : t.world.entry? s = some (.file content executable)) :
    t.start root = .ok ⟨root, s, .file⟩ := by
  simp only [start, h, hfile]
  rfl

/-- A walk cannot begin if and only if its root path leads nowhere. -/
theorem start_eq_error_iff (e : OsError) :
    t.start root = .error e ↔ t.resolve true root = .error e := by
  unfold start
  cases hs : t.resolve false root with
  | error e' => simp [resolve_of_error hs]
  | ok s =>
    simp only
    split
    · cases t.resolve true root with
      | error e' => simp
      | ok top =>
        simp only [reduceCtorEq, iff_false]
        split <;> simp
    · next found hlink hentry =>
      have hsame : t.resolve true root = .ok s := resolve_of_not_link hs fun target => by
        rw [hentry]
        exact fun htarget => hlink target (Option.some.inj htarget)
      simp [hsame]
    · next hnone => exact absurd hnone (entry?_of_resolve hs)

/-! ## What a walk comes to -/

/-- Whether a root path and some names below it lead to a spot. A link at the end of the root path
    is followed to what lies below it, but is not itself what it leads to. -/
def Leads (t : FileTree) (root : Bytes) (names : Location) (spot : Spot) : Prop :=
  ∃ top, t.resolve true root = .ok top ∧ (names = [] → t.resolve false root = .ok top) ∧
    spot = top.descend names

/-- The Go sources of a walk are the regular files that its root path leads to, by the names that
    make up their paths. -/
theorem mem_sources {v u : Visit} (h : t.start root = .ok v) :
    u ∈ (t.itinerary v).filter Visit.isSource ↔
      ∃ names content executable, t.Leads root names u.spot ∧
        t.world.entry? u.spot = some (.file content executable) ∧
        Path.isGoSource (Path.descend root names) = true ∧
        u = ⟨Path.descend root names, u.spot, .file⟩ := by
  obtain ⟨hpath, hstands, htrue, hfalse⟩ := start_eq_ok h
  rw [List.mem_filter, Visit.isSource, Bool.and_eq_true, beq_iff_eq]
  constructor
  · rintro ⟨hmem, hfile, hgo⟩
    obtain ⟨content, executable, hentry⟩ := (stands_of_mem_itinerary hstands u hmem).file hfile
    rcases mem_itinerary.1 hmem with rfl | ⟨hdirectory, hspot, names, e, hnames, he, rfl⟩
    · refine ⟨[], content, executable, ⟨u.spot, htrue (by simp [hfile]),
        fun _ => hfalse (by simp [hfile]), (Spot.descend_nil _).symm⟩, hentry, ?_, ?_⟩
      · rw [← hpath]
        exact hgo
      · obtain ⟨path, spot, kind⟩ := u
        simp only at hpath hfile
        rw [hpath, hfile]
        rfl
    · refine ⟨names, content, executable, ⟨v.spot, htrue (by simp [hdirectory]),
        fun hnil => absurd hnil hnames, rfl⟩, hentry, ?_, ?_⟩
      · rw [← hpath]
        exact hgo
      · rw [← hpath]
        exact congrArg (Visit.mk _ _) hfile
  · rintro ⟨names, content, executable, ⟨top, htop, hnil, hspot⟩, hentry, hgo, hu⟩
    rw [hu]
    refine ⟨mem_itinerary.2 ?_, rfl, hgo⟩
    by_cases hnames : names = []
    · left
      subst hnames
      rw [Spot.descend_nil] at hspot
      rw [start_of_file (hnil rfl) (hspot ▸ hentry), Except.ok.injEq] at h
      rw [← h, hspot]
      rfl
    · right
      have hdirectory := World.entry?_of_descend (hspot ▸ hentry) hnames
      rw [start_of_directory htop hdirectory, Except.ok.injEq] at h
      rw [← h]
      refine ⟨rfl, ?_, names, _, hnames, hspot ▸ hentry, by rw [hspot]; rfl⟩
      rintro (rfl : top = .beyond)
      rw [hspot] at hentry
      cases hentry

end FileTree

end SyscallGuard
