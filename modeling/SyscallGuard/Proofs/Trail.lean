import SyscallGuard.Proofs.Sweeps

set_option autoImplicit false

/-! # The order of a sweep

A sweep takes what it has still to visit from a stack and puts the entries of a directory on top of
it. The sources that it hands to the formatter in turn are its *trail* (`Sweeper.trail`), and what
it does is to guard its trail (`guardAll_eq_trail`). Whatever a formatter does to the tree on the
way, any two locations on the stack part at some name (`Location.Parts`), and so does all that lies
below them. That is why a trail is in the order of the locations, name by name
(`guardTree_ordered`). -/

namespace SyscallGuard

/-! ## Locations that part -/

namespace Location

/-- Whether two locations part at some name, which comes earlier in the first. -/
def Parts (a b : Location) : Prop :=
  ∃ common first as second bs, a = common ++ first :: as ∧ b = common ++ second :: bs ∧
    Bytes.before first second = true

variable {a b : Location}

theorem Parts.before (h : a.Parts b) : a.before b = true := by
  obtain ⟨common, first, as, second, bs, rfl, rfl, hnames⟩ := h
  rw [before_append_left]
  exact before_of_head hnames as bs

/-- What lies below locations that part does so too. -/
theorem Parts.below (h : a.Parts b) {lower lower' : Location} (ha : a <+: lower)
    (hb : b <+: lower') : lower.Parts lower' := by
  obtain ⟨common, first, as, second, bs, rfl, rfl, hnames⟩ := h
  obtain ⟨below, rfl⟩ := ha
  obtain ⟨below', rfl⟩ := hb
  exact ⟨common, first, as ++ below, second, bs ++ below', by simp, by simp, hnames⟩

theorem parts_children (place : Location) {first second : Bytes}
    (h : Bytes.before first second = true) : (place ++ [first]).Parts (place ++ [second]) :=
  ⟨place, first, [], second, [], rfl, rfl, h⟩

end Location

/-! ## What a sweep guards -/

namespace World

theorem children_sorted (w : World) (spot : Spot) :
    (w.children spot).Pairwise fun a b => Bytes.before a.1 b.1 = true := by
  cases spot with
  | inside place => exact w.tree.children_sorted place
  | around place => exact w.system.children_sorted place
  | beyond => exact .nil

theorem listing_eq_ok {w : World} {spot : Spot} {found : List (Bytes × Entry)}
    (h : w.listing spot = .ok found) : w.children spot = found := by
  unfold listing at h
  split at h
  · split at h
    · cases h
    · exact Except.ok.inj h
  · cases h

end World

theorem Path.descend_concat (root : Bytes) (names : Location) (name : Bytes) :
    descend root (names ++ [name]) = child (descend root names) name := by
  rw [descend, List.foldl_append]
  rfl

/-- A walk finds the entries of a directory in the order of their names. -/
theorem FileTree.entriesOf_names {t : FileTree} {v : Visit} {entries : List Visit}
    (h : t.entriesOf v = .ok entries) :
    ∃ names : List Bytes, entries.map Visit.path = names.map (Path.child v.path) ∧
      names.Pairwise fun a b => Bytes.before a b = true := by
  unfold entriesOf at h
  split at h
  · cases h
  · next spot _ =>
    split at h
    · cases h
    · next found hlisting =>
      rw [Except.ok.injEq] at h
      subst h
      obtain rfl := World.listing_eq_ok hlisting
      refine ⟨((t.world.children spot).filter fun c => (spot.child? c.1).isSome).map Prod.fst,
        ?_, ?_⟩
      · rw [List.map_map]
        induction t.world.children spot with
        | nil => rfl
        | cons c rest ih =>
          cases hchild : spot.child? c.1 <;> simp [hchild, ih]
      · exact List.pairwise_map.2 ((t.world.children_sorted spot).filter _)

namespace Sweeper

/-- The Go sources that a sweep of what is on its stack guards, in turn, up to one that fails. -/
def trailAll (w : Sweeper) : Nat → FileTree → List Visit → List Visit
  | _, _, [] => []
  | 0, _, _ :: _ => []
  | fuel + 1, t, v :: rest =>
    match v.kind with
    | .link => trailAll w fuel t rest
    | .directory =>
      match t.entriesOf v with
      | .error _ => []
      | .ok entries => trailAll w fuel t (entries ++ rest)
    | .file =>
      if !Path.isGoSource v.path then trailAll w fuel t rest
      else
        let first := w.guardVisit t v
        match first.result with
        | .error _ => [v]
        | .ok _ => v :: trailAll w fuel first.tree rest

/-- The Go sources that a sweep guards, in turn. -/
def trail (w : Sweeper) (t : FileTree) (root : Bytes) : List Visit :=
  match t.start root with
  | .error _ => []
  | .ok v => w.trailAll (t.table.length + growth) t [v]

variable {w : Sweeper}

/-- A sweep does what a run over its trail does, and has the same result unless the walk stops
    it. -/
theorem guardAll_eq_trail (w : Sweeper) (fuel : Nat) (t : FileTree) (totals : Totals)
    (visits : List Visit) :
    let sweep := w.guardAll fuel t totals visits
    let run := w.guardEach t totals (w.trailAll fuel t visits)
    sweep.events = run.events ∧ sweep.tree = run.tree ∧
      (sweep.result = run.result ∨ ∃ path cause, sweep.result = .error (.walk path cause)) := by
  induction fuel generalizing t totals visits with
  | zero =>
    cases visits with
    | nil => exact ⟨rfl, rfl, .inl rfl⟩
    | cons v rest => exact ⟨rfl, rfl, .inr ⟨v.path, .endless, rfl⟩⟩
  | succ fuel ih =>
    cases visits with
    | nil => exact ⟨rfl, rfl, .inl rfl⟩
    | cons v rest =>
      cases hkind : v.kind with
      | link =>
        simp only [guardAll, trailAll, hkind]
        exact ih t totals rest
      | directory =>
        simp only [guardAll, trailAll, hkind]
        cases t.entriesOf v with
        | error cause => exact ⟨rfl, rfl, .inr ⟨v.path, cause, rfl⟩⟩
        | ok entries => exact ih t totals (entries ++ rest)
      | file =>
        cases hgo : Path.isGoSource v.path with
        | false =>
          simp only [guardAll, trailAll, hkind, hgo]
          exact ih t totals rest
        | true =>
          cases hresult : (w.guardVisit t v).result with
          | error e =>
            simp [guardAll, trailAll, guardEach, hkind, hgo, hresult]
          | ok outcome =>
            obtain ⟨hevents, htree, hsame⟩ :=
              ih (w.guardVisit t v).tree (totals.record outcome) rest
            simp only [guardAll, trailAll, guardEach, hkind, hgo, hresult, Bool.not_true,
              Bool.false_eq_true, if_false]
            exact ⟨congrArg _ hevents, htree, hsame⟩

/-- Nothing on a trail fails but the last. -/
theorem exists_of_trailAll {fuel : Nat} {t : FileTree} {visits front later : List Visit} {u : Visit}
    (h : w.trailAll fuel t visits = front ++ u :: later) (totals : Totals) :
    ∃ after, (w.guardEach t totals front).result = .ok after := by
  induction fuel generalizing t visits front totals with
  | zero => cases visits <;> simp [trailAll] at h
  | succ fuel ih =>
    cases visits with
    | nil => simp [trailAll] at h
    | cons v rest =>
      rw [trailAll] at h
      split at h
      · exact ih h totals
      · split at h
        · simp at h
        · exact ih h totals
      · next hkind =>
        split at h
        · exact ih h totals
        · next hgo =>
          cases front with
          | nil => exact ⟨totals, rfl⟩
          | cons first front =>
            cases hresult : (w.guardVisit t v).result with
            | error e =>
              simp [hresult] at h
            | ok outcome =>
              simp only [hresult, List.cons_append, List.cons.injEq] at h
              obtain ⟨rfl, hrest⟩ := h
              obtain ⟨after, hafter⟩ := ih hrest (totals.record outcome)
              refine ⟨after, ?_⟩
              simp only [guardEach, hkind, if_neg hgo, hresult, hafter]

/-! ## The order of a trail -/

/-- Whether some visits have come to locations that part in turn, each at or below one of some
    places. -/
def InOrder (root : Bytes) (places : List Location) (visits : List Visit) : Prop :=
  ∃ names : List Location, visits.map Visit.path = names.map (Path.descend root) ∧
    names.Pairwise Location.Parts ∧ ∀ n ∈ names, ∃ place ∈ places, place <+: n

section InOrder

variable {root : Bytes} {places : List Location} {visits : List Visit}

theorem inOrder_nil (root : Bytes) (places : List Location) : InOrder root places [] :=
  ⟨[], rfl, .nil, List.forall_mem_nil _⟩

theorem InOrder.lift (h : InOrder root places visits) {above : List Location}
    (habove : ∀ place ∈ places, ∃ upper ∈ above, upper <+: place) : InOrder root above visits := by
  obtain ⟨names, hnames, hparts, hbelow⟩ := h
  refine ⟨names, hnames, hparts, fun n hn => ?_⟩
  obtain ⟨place, hplace, hprefix⟩ := hbelow n hn
  obtain ⟨upper, hupper, hplace⟩ := habove place hplace
  exact ⟨upper, hupper, hplace.trans hprefix⟩

theorem InOrder.cons (h : InOrder root places visits) {v : Visit} {place : Location}
    (hpath : v.path = Path.descend root place) (hparts : ∀ other ∈ places, place.Parts other) :
    InOrder root (place :: places) (v :: visits) := by
  obtain ⟨names, hnames, hpairs, hbelow⟩ := h
  refine ⟨place :: names, ?_, List.pairwise_cons.2 ⟨fun n hn => ?_, hpairs⟩, ?_⟩
  · rw [List.map_cons, List.map_cons, hpath, hnames]
  · obtain ⟨other, hother, hprefix⟩ := hbelow n hn
    exact (hparts other hother).below List.prefix_rfl hprefix
  · rw [List.forall_mem_cons]
    refine ⟨⟨place, List.mem_cons_self, List.prefix_rfl⟩, fun n hn => ?_⟩
    obtain ⟨other, hother, hprefix⟩ := hbelow n hn
    exact ⟨other, List.mem_cons_of_mem _ hother, hprefix⟩

end InOrder

/-- A sweep keeps the order of what is on its stack, and puts the entries of a directory in order
    in its place. -/
theorem trailAll_inOrder {root : Bytes} (fuel : Nat) (t : FileTree) {visits : List Visit}
    {places : List Location} (hpaths : visits.map Visit.path = places.map (Path.descend root))
    (hparts : places.Pairwise Location.Parts) :
    InOrder root places (w.trailAll fuel t visits) := by
  induction fuel generalizing t visits places with
  | zero => cases visits <;> exact inOrder_nil root places
  | succ fuel ih =>
    cases visits with
    | nil => exact inOrder_nil root places
    | cons v rest =>
      obtain ⟨place, others, rfl, hplace, hothers⟩ := List.map_eq_cons_iff.1 hpaths.symm
      obtain ⟨hfirst, hrest⟩ := List.pairwise_cons.1 hparts
      have hskip (t : FileTree) : InOrder root (place :: others) (w.trailAll fuel t rest) :=
        (ih t hothers.symm hrest).lift fun other hother =>
          ⟨other, List.mem_cons_of_mem _ hother, List.prefix_rfl⟩
      cases hkind : v.kind with
      | link =>
        simp only [trailAll, hkind]
        exact hskip t
      | directory =>
        simp only [trailAll, hkind]
        split
        · exact inOrder_nil root _
        · next entries hentries =>
          obtain ⟨names, hnames, hsorted⟩ := FileTree.entriesOf_names hentries
          have hbelow : InOrder root (names.map (fun name => place ++ [name]) ++ others)
              (w.trailAll fuel t (entries ++ rest)) := by
            refine ih t ?_ (List.pairwise_append.2 ⟨List.pairwise_map.2 ?_, hrest, ?_⟩)
            · rw [List.map_append, List.map_append, hnames, hothers, ← hplace, List.map_map]
              simp only [Function.comp_def, Path.descend_concat]
            · exact hsorted.imp fun {a b} hab => Location.parts_children place hab
            · intro child hchild other hother
              obtain ⟨name, -, rfl⟩ := List.mem_map.1 hchild
              exact (hfirst other hother).below (List.prefix_append _ _) List.prefix_rfl
          refine hbelow.lift fun p hp => ?_
          rcases List.mem_append.1 hp with hp | hp
          · obtain ⟨name, -, rfl⟩ := List.mem_map.1 hp
            exact ⟨place, List.mem_cons_self, List.prefix_append _ _⟩
          · exact ⟨p, List.mem_cons_of_mem _ hp, List.prefix_rfl⟩
      | file =>
        cases hgo : Path.isGoSource v.path with
        | false =>
          simp only [trailAll, hkind, hgo]
          exact hskip t
        | true =>
          simp only [trailAll, hkind, hgo, Bool.not_true, Bool.false_eq_true, if_false]
          split
          · exact ((inOrder_nil root others).cons hplace.symm hfirst)
          · exact (ih _ hothers.symm hrest).cons hplace.symm hfirst

/-- A formatter that leaves the tree alone does not change what a sweep comes to. -/
theorem trailAll_isPrefix {w : Sweeper} (hw : w.formatter.Inert) {fuel : Nat} {t : FileTree}
    {visits : List Visit} (hstands : ∀ v ∈ visits, v.Stands t) :
    w.trailAll fuel t visits <+: (visits.flatMap t.itinerary).filter Visit.isSource := by
  induction fuel generalizing t visits with
  | zero => cases visits <;> exact List.nil_prefix
  | succ fuel ih =>
    cases visits with
    | nil => exact List.nil_prefix
    | cons v rest =>
      obtain ⟨hv, hrest⟩ := List.forall_mem_cons.1 hstands
      rw [List.flatMap_cons, trailAll]
      cases hkind : v.kind with
      | link =>
        have hsource : v.isSource = false := by simp [Visit.isSource, hkind]
        rw [FileTree.itinerary_of_ne_directory (by simp [hkind]), List.singleton_append,
          List.filter_cons_of_neg (by simp [hsource])]
        exact ih hrest
      | directory =>
        have hsource : v.isSource = false := by simp [Visit.isSource, hkind]
        simp only [FileTree.entriesOf_of_stands hv hkind]
        rw [FileTree.itinerary_directory hkind, List.cons_append,
          List.filter_cons_of_neg (by simp [hsource]), ← List.flatMap_append]
        cases t.unopened v with
        | some cause => exact List.nil_prefix
        | none => exact ih (FileTree.children_stand v hrest)
      | file =>
        rw [FileTree.itinerary_of_ne_directory (by simp [hkind]), List.singleton_append]
        cases hgo : Path.isGoSource v.path with
        | false =>
          rw [List.filter_cons_of_neg (by simp [Visit.isSource, hgo])]
          exact ih hrest
        | true =>
          rw [List.filter_cons_of_pos (by simp [Visit.isSource, hkind, hgo])]
          have hshape := sameShape_guardVisit hw hv hkind
          have hsame := hshape.flatMap_itinerary rest
          simp only [Bool.not_true, Bool.false_eq_true, if_false]
          cases (w.guardVisit t v).result with
          | error e => exact ⟨_, rfl⟩
          | ok outcome =>
            have hlater := ih (t := (w.guardVisit t v).tree)
              fun u hu => hshape.stands.2 (hrest u hu)
            rw [hsame] at hlater
            exact (List.cons_prefix_cons).2 ⟨rfl, hlater⟩

theorem trail_isPrefix {w : Sweeper} (hw : w.formatter.Inert) {t : FileTree} {root : Bytes}
    {visits : List Visit} (h : t.visits root = .ok visits) :
    w.trail t root <+: visits.filter Visit.isSource := by
  obtain ⟨v, hstart, rfl⟩ := FileTree.visits_eq_ok_iff.1 h
  obtain ⟨-, hv, -⟩ := FileTree.start_eq_ok hstart
  have hone : [v].flatMap t.itinerary = t.itinerary v := by simp
  rw [trail, hstart, ← hone]
  exact trailAll_isPrefix hw (by simpa using hv)

/-- The sources that such a sweep guards are the first of its walk. -/
theorem exists_isWalk_of_trail {w : Sweeper} (hw : w.formatter.Inert) (t : FileTree)
    (root : Bytes) : ∃ later, t.IsWalk root (w.trail t root ++ later) := by
  cases hvisits : t.visits root with
  | error e =>
    have hroot := (FileTree.visits_eq_error_iff e).1 hvisits
    have hnone : w.trail t root = [] := by rw [trail, (FileTree.start_eq_error_iff e).2 hroot]
    refine ⟨[], fun v => ?_, by simp [hnone], by simp [hnone]⟩
    simp only [hnone, List.append_nil, List.not_mem_nil, false_iff]
    rintro ⟨names, content, executable, ⟨top, htop, -⟩, -⟩
    rw [hroot] at htop
    cases htop
  | ok visits =>
    obtain ⟨later, hlater⟩ := trail_isPrefix hw hvisits
    exact ⟨later, hlater ▸ FileTree.isWalk_of_goSources (FileTree.goSources_of_visits hvisits)⟩

/-- **A sweep in order**. It guards the sources of its trail in turn and does nothing else; none of
    them fails but the last. Their paths are the root path with names behind it, in the order of
    these names, of which no two are the same, whatever the formatter does to the tree on the way.
    With a canonicaliser for a formatter the trail is the walk, as far as it was gone, which leads
    to each file once. -/
theorem guardTree_ordered (w : Sweeper) (t : FileTree) (root : Bytes) :
    let sweep := w.guardTree t root
    let sources := w.trail t root
    let run := w.guardEach t .zero sources
    (∃ names : List Location, sources.map Visit.path = names.map (Path.descend root) ∧
      names.Pairwise (fun a b => a.before b = true) ∧ names.Nodup) ∧
    (sweep.events = run.events ∧ sweep.tree = run.tree ∧
      (sweep.result = run.result ∨ ∃ path cause, sweep.result = .error (.walk path cause))) ∧
    (∀ front u later, sources = front ++ u :: later →
      ∃ totals, (w.guardEach t .zero front).result = .ok totals) ∧
    ∀ c dry, ∃ later, t.IsWalk root ((ofCanonicalizer c dry).trail t root ++ later) := by
  intro sweep sources run
  refine ⟨?_, ?_, ?_, fun c dry =>
    exists_isWalk_of_trail (Formatter.inert_ofCanonicalizer c) t root⟩
  · have horder : InOrder root [[]] sources := by
      unfold sources trail
      cases hstart : t.start root with
      | error e => exact inOrder_nil root _
      | ok v =>
        refine trailAll_inOrder _ t ?_ (List.pairwise_singleton _ _)
        rw [List.map_singleton, List.map_singleton, (FileTree.start_eq_ok hstart).1]
        rfl
    obtain ⟨names, hnames, hparts, -⟩ := horder
    have hbefore := hparts.imp fun {a b} (h : Location.Parts a b) => h.before
    refine ⟨names, hnames, hbefore, hbefore.imp fun {a b} hab hsame => ?_⟩
    rw [hsame] at hab
    exact Location.not_before_self _ hab
  · unfold sweep run sources guardTree trail
    cases t.start root with
    | error e => exact ⟨rfl, rfl, .inr ⟨root, e, rfl⟩⟩
    | ok v => exact guardAll_eq_trail w _ t .zero [v]
  · intro front u later hsplit
    unfold sources trail at hsplit
    split at hsplit
    · simp at hsplit
    · exact exists_of_trailAll hsplit .zero

/-- A directory and a file whose name goes on where that of the directory ends. -/
def nested : FileTree :=
  FileTree.empty.setAll
    [([Bytes.ofString "a"], .directory),
      ([Bytes.ofString "a", Bytes.ofString "x.go"], .file [] false),
      ([Bytes.ofString "a.go"], .file [] false)]

set_option maxRecDepth 100000 in
theorem trail_nested :
    ((ofCanonicalizer .verbatim false).trail nested Path.here).map Visit.path =
      [Bytes.ofString "./a/x.go", Bytes.ofString "./a.go"] := by
  decide +kernel

/-- What lies in the directory comes before the file, although its path as a whole does not. -/
theorem guardTree_ordered_nested :
    ∃ (first second : Visit) (names : List Location),
      (ofCanonicalizer .verbatim false).trail nested Path.here = [first, second] ∧
      [first, second].map Visit.path = names.map (Path.descend Path.here) ∧
      names.Pairwise (fun a b => a.before b = true) ∧
      (∃ totals, ((ofCanonicalizer .verbatim false).guardEach nested .zero [first]).result =
        .ok totals) ∧
      Bytes.before second.path first.path = true := by
  have hpaths := trail_nested
  obtain ⟨first, others, htrail, hfirst, hothers⟩ := List.map_eq_cons_iff.1 hpaths
  obtain ⟨second, none, rfl, hsecond, hnone⟩ := List.map_eq_cons_iff.1 hothers
  obtain rfl : none = [] := List.map_eq_nil_iff.1 hnone
  obtain ⟨⟨names, hnames, hbefore, -⟩, -, hdone, -⟩ :=
    guardTree_ordered (ofCanonicalizer .verbatim false) nested Path.here
  rw [htrail] at hnames
  refine ⟨first, second, names, htrail, hnames, hbefore, hdone [first] second [] htrail, ?_⟩
  rw [hfirst, hsecond]
  decide

end Sweeper

end SyscallGuard
