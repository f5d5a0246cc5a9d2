import SyscallGuard.Proofs.Forecast

set_option autoImplicit false

/-! # What a sweep comes to

The three things that are to be known of a sweep whose formatter is just a function. If it succeeds,
each Go source that the root path leads to holds what guarding its content comes to, nothing else
has changed, and the totals count exactly these results (`guardTree_totals`). If a source fails, or
a directory cannot be listed, it is the first to do so, and the tree is as if the walk had only led
to the sources before it (`guardTree_stops`). A dry run has the same result and changes nothing
(`guardTree_dryRun`). All of this is said for a root path that leads into the tree, or to what is
known of the system; of a directory above the tree nothing is known, and a walk there finds nothing.

Which sources these are is said without the walk, by `FileTree.IsWalk`; what has become of them and
of the rest by `FileTree.Becomes`. -/

namespace SyscallGuard

namespace FileTree

variable {t : FileTree} {c : Canonicalizer} {root : Bytes}

/-! ## The sources of a root path -/

/-- Whether a list holds the Go sources that a root path leads to: the regular files below it by
    names that make up the path of a Go source, each once, in the order of these names. -/
structure IsWalk (t : FileTree) (root : Bytes) (sources : List Visit) : Prop where
  mem : ∀ v, v ∈ sources ↔ ∃ names content executable, t.Leads root names v.spot ∧
    t.world.entry? v.spot = some (.file content executable) ∧
    Path.isGoSource (Path.descend root names) = true ∧
    v = ⟨Path.descend root names, v.spot, .file⟩
  once : (sources.map Visit.spot).Nodup
  ordered : sources.Pairwise fun u v => ∃ first second, t.Leads root first u.spot ∧
    t.Leads root second v.spot ∧ first.before second = true

/-- The sources are visited in the order of their names. -/
theorem itinerary_ordered {v : Visit} (h : t.start root = .ok v) :
    ((t.itinerary v).filter Visit.isSource).Pairwise fun u w => ∃ first second,
      t.Leads root first u.spot ∧ t.Leads root second w.spot ∧ first.before second = true := by
  obtain ⟨-, -, htop, -⟩ := start_eq_ok h
  by_cases hkind : v.kind = .directory
  · -- the directory itself is no source, and all that lies below it is visited by its names
    have hleads : ∀ e ∈ t.world.below v.spot, t.Leads root e.1 (v.descend e).spot := by
      intro e he
      obtain ⟨-, hnames, -⟩ := World.mem_below.1 (show (e.1, e.2) ∈ t.world.below v.spot from he)
      exact ⟨v.spot, htop (by simp [hkind]), fun hnil => absurd hnil hnames, rfl⟩
    have hself : v.isSource = false := by simp [Visit.isSource, hkind]
    rw [itinerary, List.filter_cons_of_neg (by simp [hself]), hkind]
    refine .filter _ (List.pairwise_map.2 ?_)
    refine (t.world.below_sorted v.spot).imp_of_mem fun {a b} ha hb hab => ?_
    exact ⟨a.1, b.1, hleads a ha, hleads b hb, hab⟩
  · rw [itinerary_of_ne_directory hkind]
    exact (List.pairwise_singleton _ _).filter _

theorem visits_eq_error_iff (e : OsError) :
    t.visits root = .error e ↔ t.resolve true root = .error e := by
  rw [← start_eq_error_iff, visits]
  cases t.start root <;> simp

theorem goSources_eq_ok_iff {sources : List Visit} :
    t.goSources root = .ok sources ↔
      ∃ visits, t.visits root = .ok visits ∧ visits.filter Visit.isSource = sources := by
  rw [goSources]
  cases t.visits root <;> simp

theorem goSources_of_visits {visits : List Visit} (h : t.visits root = .ok visits) :
    t.goSources root = .ok (visits.filter Visit.isSource) :=
  goSources_eq_ok_iff.2 ⟨visits, h, rfl⟩

/-- The walk leads to the Go sources of its root path. -/
theorem isWalk_of_goSources {sources : List Visit} (h : t.goSources root = .ok sources) :
    t.IsWalk root sources := by
  obtain ⟨visits, hvisits, rfl⟩ := goSources_eq_ok_iff.1 h
  obtain ⟨v, hstart, rfl⟩ := visits_eq_ok_iff.1 hvisits
  refine ⟨fun u => mem_sources hstart, ?_, itinerary_ordered hstart⟩
  exact (t.itinerary_spots_nodup v).sublist (List.filter_sublist.map _)

/-- A root path that is a link to a file, or to nothing, leads to no source. -/
theorem IsWalk.eq_nil_of_link {sources : List Visit} (h : t.IsWalk root sources) {s : Spot}
    {target : Bytes} (hs : t.resolve false root = .ok s)
    (hlink : t.world.entry? s = some (.link target))
    (htop : ∀ top, t.resolve true root = .ok top → t.world.entry? top ≠ some .directory) :
    sources = [] := by
  refine List.eq_nil_iff_forall_not_mem.2 fun v hv => ?_
  obtain ⟨names, content, executable, ⟨top, hresolve, hnil, hspot⟩, hentry, -⟩ := (h.mem v).1 hv
  rw [hspot] at hentry
  -- by no names at all the path would name a file, by some names it would lead to a directory
  by_cases hnames : names = []
  · have hsame : s = top := Except.ok.inj (hs.symm.trans (hnil hnames))
    rw [hnames, Spot.descend_nil, ← hsame, hlink] at hentry
    cases hentry
  · exact htop top hresolve (World.entry?_of_descend hentry hnames)

/-- A file whose whole name is the extension is not among the sources. -/
theorem IsWalk.lastName?_ne {sources : List Visit} (h : t.IsWalk root sources) :
    ∀ v ∈ sources, Path.lastName? v.path ≠ some (Bytes.ofString ".go") := by
  intro v hv hname
  obtain ⟨names, -, -, -, -, hgo, hsame⟩ := (h.mem v).1 hv
  have hpath : v.path = Path.descend root names := congrArg Visit.path hsame
  rw [← hpath, Path.isGoSource, hname] at hgo
  exact absurd hgo (by decide)

end FileTree

/-! ## What becomes of a tree -/

namespace FileTree

variable {t : FileTree} {c : Canonicalizer}

/-- Whether a tree has become another by guarding some sources with some results: each source holds
    the output for the content that it had, and everything else is as it was. -/
structure Becomes (t : FileTree) (c : Canonicalizer) (sources : List Visit)
    (results : List Guarded) (after : FileTree) : Prop where
  outputs : List.Forall₂ (fun v g => ∃ content executable,
    t.world.entry? v.spot = some (.file content executable) ∧ guardSource content c = .ok g ∧
    after.world.entry? v.spot = some (.file (g.output content) executable)) sources results
  others : ∀ spot, spot ∉ sources.map Visit.spot →
    after.world.entry? spot = t.world.entry? spot
  barred : after.barred = t.barred

/-- Whether a walk ends early, behind some sources and in front of others, and how that is reported:
    the first of those in front fails, or a directory between the two cannot be listed. -/
inductive Stops (t : FileTree) (root : Bytes) (done : List Visit) : List Visit → FileError → Prop
  | source {v : Visit} {later : List Visit} {e : FileError} (hfails : t.Fails v e) :
    Stops t root done (v :: later) e
  | directory {before after : List Visit} {v : Visit} {cause : OsError}
    (hvisits : t.visits root = .ok (before ++ v :: after))
    (hdone : before.filter Visit.isSource = done) (hkind : v.kind = .directory)
    (hlisted : ∀ u ∈ before, u.kind = .directory → ∃ entries, t.entriesOf u = .ok entries)
    (hentries : t.entriesOf v = .error cause) :
    Stops t root done (after.filter Visit.isSource) (.walk v.path cause)

theorem Accepts.not_fails {v : Visit} (h : t.Accepts v) (e : FileError) : ¬t.Fails v e := by
  obtain ⟨content, p, hread, hp⟩ := h
  rintro (⟨cause, herror, -⟩ | ⟨content', cause, hread', hcause, -⟩)
  · rw [hread] at herror
    cases herror
  · rw [hread, Except.ok.injEq] at hread'
    rw [← hread', hp] at hcause
    cases hcause

theorem accepts_of_isOk {v : Visit} (hsource : v.isSource = true)
    (h : (t.preview c v).isOk = true) : t.Accepts v := by
  cases hpreview : t.preview c v with
  | error e =>
    rw [hpreview] at h
    cases h
  | ok found =>
    obtain ⟨content, g, hread, hguard, -⟩ := exists_of_preview_source hsource hpreview
    cases hp : Parsed.strict content with
    | ok p => exact ⟨content, p, hread, hp⟩
    | error cause =>
      rw [(guardSource_eq_error_iff _ _ _).2 hp] at hguard
      cases hguard

/-- Only directories that cannot be looked into and sources that are not accepted fail. -/
theorem isOk_preview {v : Visit}
    (hdirectory : v.kind = .directory → ∃ entries, t.entriesOf v = .ok entries)
    (hsource : v.isSource = true → t.Accepts v) : (t.preview c v).isOk = true := by
  cases hpreview : t.preview c v with
  | ok found => rfl
  | error e =>
    rcases preview_eq_error hpreview with ⟨hkind, cause, herror, -⟩ | ⟨his, hfails⟩
    · obtain ⟨entries, hentries⟩ := hdirectory hkind
      rw [herror] at hentries
      cases hentries
    · exact absurd hfails ((hsource his).not_fails e)

/-- A directory that does not fail can be listed. -/
theorem exists_entriesOf {v : Visit} (hkind : v.kind = .directory)
    (h : (t.preview c v).isOk = true) : ∃ entries, t.entriesOf v = .ok entries := by
  cases hentries : t.entriesOf v with
  | ok entries => exact ⟨entries, rfl⟩
  | error cause =>
    rw [preview, hkind] at h
    simp only [hentries] at h
    cases h

/-- A tree becomes what its entries at the sources and elsewhere tell. -/
theorem becomes_of_entries {after : FileTree} {sources : List Visit} {results : List Guarded}
    (hstands : ∀ v ∈ sources, v.Stands t) (hsource : ∀ v ∈ sources, v.isSource = true)
    (hresults : List.Forall₂ (fun v g => t.preview c v = .ok (some g)) sources results)
    (hafter : ∀ s, after.world.entry? s =
      if s ∈ sources.map Visit.spot then (t.world.entry? s).map (Entry.guarded c)
      else t.world.entry? s)
    (hbarred : after.barred = t.barred) : t.Becomes c sources results after := by
  refine ⟨?_, fun s hs => by rw [hafter, if_neg hs], hbarred⟩
  have hmem : List.Forall₂ (fun v g => v ∈ sources ∧ t.preview c v = .ok (some g)) sources results :=
    (List.forall₂_and_left sources results).2 ⟨fun v hv => hv, hresults⟩
  refine hmem.imp ?_
  rintro v g ⟨hv, hg⟩
  obtain ⟨content, g', hread, hguard, hsame⟩ := exists_of_preview_source (hsource v hv) hg
  rw [Option.some.injEq] at hsame
  subst hsame
  obtain ⟨-, executable, hentry⟩ := entry?_of_read (hstands v hv) (hsource v hv) hread
  refine ⟨content, executable, hentry, hguard, ?_⟩
  rw [hafter, if_pos (List.mem_map_of_mem hv), hentry, Option.map_some, Entry.guarded,
    guardedContent, hguard]

end FileTree

/-! ## Totals -/

/-- There is a guard wherever a source has changed. -/
theorem Guarded.insertions_pos {content : Bytes} {c : Canonicalizer} {g : Guarded}
    (h : guardSource content c = .ok g) (hchanged : g.isChanged = true) : 1 ≤ g.insertions := by
  unfold guardSource at h
  split at h
  · cases h
  · rw [Except.ok.injEq] at h
    subst h
    unfold ofDraft at hchanged ⊢
    split at hchanged
    · cases hchanged
    · next hne =>
      rw [if_neg hne]
      exact Nat.pos_of_ne_zero hne

theorem Guarded.isChanged_of_isUnformatted {g : Guarded} (h : g.isUnformatted = true) :
    g.isChanged = true := by
  cases g with
  | unchanged sites => cases h
  | changed sites insertions rendered => rfl

theorem FileTree.Becomes.countP_isChanged_le {t after : FileTree} {c : Canonicalizer}
    {sources : List Visit} {results : List Guarded} (h : t.Becomes c sources results after) :
    results.countP Guarded.isChanged ≤ (results.map Guarded.insertions).sum := by
  obtain ⟨houtputs, -, -⟩ := h
  induction houtputs with
  | nil => exact Nat.zero_le _
  | cons hg _ ih =>
    obtain ⟨content, executable, -, hguard, -⟩ := hg
    rw [List.countP_cons, List.map_cons, List.sum_cons]
    split
    · next hchanged =>
      have hpos := Guarded.insertions_pos hguard hchanged
      omega
    · omega

/-! ## Sweeps -/

namespace Sweeper

variable {t : FileTree} {c : Canonicalizer} {root : Bytes}

/-- A sweep with a canonicaliser is a run over the whole walk. -/
theorem guardTree_of_visits (dry : Bool) {visits : List Visit} (h : t.visits root = .ok visits) :
    (ofCanonicalizer c dry).guardTree t root =
      (ofCanonicalizer c dry).guardEach t .zero visits := by
  rw [guardTree_eq (Formatter.inert_ofCanonicalizer c), h]

/-- If the root path leads nowhere, nothing at all is done. -/
theorem guardTree_of_error (w : Sweeper) {e : OsError} (h : t.resolve true root = .error e) :
    w.guardTree t root = ⟨[], t, .error (.walk root e)⟩ := by
  rw [guardTree, (FileTree.start_eq_error_iff e).2 h]

/-- A sweep has the result of the forecast. -/
theorem guardTree_result (dry : Bool) {visits : List Visit} (h : t.visits root = .ok visits) :
    ((ofCanonicalizer c dry).guardTree t root).result =
      (t.forecast c visits).map Totals.zero.recordAll := by
  obtain ⟨hstands, hnodup⟩ := visits_stand h
  rw [guardTree_of_visits dry h, guardEach_result hstands hnodup]

/-- A sweep that writes has given the sources that it reached their new content. -/
theorem guardTree_entries {visits : List Visit} (h : t.visits root = .ok visits) (s : Spot) :
    ((ofCanonicalizer c false).guardTree t root).tree.world.entry? s =
      if s ∈ (t.reached c visits).map Visit.spot then (t.world.entry? s).map (Entry.guarded c)
      else t.world.entry? s := by
  obtain ⟨hstands, hnodup⟩ := visits_stand h
  rw [guardTree_of_visits false h, guardEach_entries hstands hnodup]

/-- A sweep does not change what can be opened. -/
theorem guardTree_barred (dry : Bool) (c : Canonicalizer) (t : FileTree) (root : Bytes) :
    ((ofCanonicalizer c dry).guardTree t root).tree.barred = t.barred := by
  cases hvisits : t.visits root with
  | error e => rw [guardTree_of_error _ ((FileTree.visits_eq_error_iff e).1 hvisits)]
  | ok visits =>
    rw [guardTree_of_visits dry hvisits, guardEach_barred (visits_stand hvisits).1]

/-- **A sweep that succeeds**. The Go sources that the root path leads to hold what guarding their
    contents comes to, everything else is as it was, and the totals count the results. None of them
    has the extension for its whole name, and where the root path is a link to anything but a
    directory there are none. -/
theorem guardTree_totals {totals : Totals}
    (h : ((ofCanonicalizer c false).guardTree t root).result = .ok totals) :
    ∃ sources results, t.IsWalk root sources ∧
      t.Becomes c sources results ((ofCanonicalizer c false).guardTree t root).tree ∧
      totals = ⟨results.length, results.countP Guarded.isChanged,
        (results.map Guarded.insertions).sum, results.countP Guarded.isUnformatted⟩ ∧
      totals.unformatted ≤ totals.guarded ∧ totals.guarded ≤ totals.visited ∧
      totals.guarded ≤ totals.insertions ∧ totals.visited = sources.length ∧
      (∀ v ∈ sources, Path.lastName? v.path ≠ some (Bytes.ofString ".go")) ∧
      ∀ s target, t.resolve false root = .ok s → t.world.entry? s = some (.link target) →
        (∀ top, t.resolve true root = .ok top → t.world.entry? top ≠ some .directory) →
        sources = [] := by
  cases hvisits : t.visits root with
  | error e =>
    rw [guardTree_of_error _ ((FileTree.visits_eq_error_iff e).1 hvisits)] at h
    cases h
  | ok visits =>
    obtain ⟨hstands, hnodup⟩ := visits_stand hvisits
    rw [guardTree_of_visits false hvisits] at h ⊢
    rw [guardEach_result hstands hnodup] at h
    cases hforecast : t.forecast c visits with
    | error e =>
      rw [hforecast] at h
      cases h
    | ok results =>
      have htotals : totals = ⟨results.length, results.countP Guarded.isChanged,
          (results.map Guarded.insertions).sum, results.countP Guarded.isUnformatted⟩ := by
        rw [hforecast] at h
        rw [← Except.ok.inj h]
        simp [Totals.recordAll, Totals.zero]
      obtain ⟨hok, hresults⟩ := FileTree.forecast_eq_ok hforecast
      have hbecomes := FileTree.becomes_of_entries
        (fun v hv => hstands v (List.mem_filter.1 hv).1) (fun v hv => (List.mem_filter.1 hv).2)
        hresults (FileTree.reached_of_isOk hok ▸ guardEach_entries hstands hnodup .zero)
        (guardEach_barred hstands .zero)
      have hwalk := FileTree.isWalk_of_goSources (FileTree.goSources_of_visits hvisits)
      refine ⟨_, results, hwalk, hbecomes, htotals, ?_⟩
      rw [htotals]
      exact ⟨List.countP_mono_left fun g _ => Guarded.isChanged_of_isUnformatted,
        List.countP_le_length, hbecomes.countP_isChanged_le, hresults.length_eq.symm,
        hwalk.lastName?_ne, fun s target => hwalk.eq_nil_of_link⟩

/-- A directory with two calls to be guarded, a source of one's choice between them in a directory
    of its own, and a link to that directory. -/
def sample (between : Bytes) : FileTree :=
  FileTree.empty.setAll
    [([Bytes.ofString "a.go"], .file (Bytes.ofString "Syscall()\n") false),
      ([Bytes.ofString "d"], .directory),
      ([Bytes.ofString "d", Bytes.ofString "b.go"], .file between true),
      ([Bytes.ofString "e"], .link (Bytes.ofString "d")),
      ([Bytes.ofString "z.go"], .file (Bytes.ofString "Syscall()\n") false)]

set_option maxRecDepth 100000 in
theorem sample_totals :
    ((ofCanonicalizer .reject false).guardTree (sample []) Path.here).result.toOption =
      some ⟨3, 2, 2, 2⟩ := by
  decide +kernel

/-- Both calls are guarded, although nothing can be formatted, and the source behind the link is
    visited once. -/
theorem guardTree_totals_sample :
    ∃ sources results, (sample []).IsWalk Path.here sources ∧
      (sample []).Becomes .reject sources results
        ((ofCanonicalizer .reject false).guardTree (sample []) Path.here).tree ∧
      sources.length = 3 ∧ results.countP Guarded.isChanged = 2 ∧
      (results.map Guarded.insertions).sum = 2 ∧ results.countP Guarded.isUnformatted = 2 := by
  have hsample := sample_totals
  cases hresult : ((ofCanonicalizer .reject false).guardTree (sample []) Path.here).result with
  | error e =>
    rw [hresult] at hsample
    cases hsample
  | ok totals =>
    rw [hresult] at hsample
    obtain rfl : totals = ⟨3, 2, 2, 2⟩ := Option.some.inj hsample
    obtain ⟨sources, results, hwalk, hbecomes, htotals, -, -, -, hlength, -⟩ :=
      guardTree_totals hresult
    rw [Totals.mk.injEq] at htotals
    obtain ⟨-, hguarded, hinsertions, hunformatted⟩ := htotals
    exact ⟨sources, results, hwalk, hbecomes, hlength.symm, hguarded.symm, hinsertions.symm,
      hunformatted.symm⟩

/-! ### Failures -/

theorem guardSpot_of_error {w : Sweeper} {path : Bytes} {spot : Spot} {e : FileError}
    (h : (w.guardSpot t path spot).result = .error e)
    (hwrite : ∀ path cause, e ≠ .write path cause) : (w.guardSpot t path spot).tree = t := by
  unfold guardSpot at h ⊢
  split at h
  · rfl
  · split at h
    · rfl
    · split at h
      · cases h
      · next hne =>
        rw [if_neg hne]
        simp only [finish] at h
        split at h
        · cases h
        · split at h
          · exact absurd (Except.error.inj h).symm (hwrite _ _)
          · cases h

/-- A file that cannot be read or is refused is not touched, nor is anything else. -/
theorem guardFile_of_error {w : Sweeper} {path : Bytes} {e : FileError}
    (h : (w.guardFile t path).result = .error e) (hwrite : ∀ path cause, e ≠ .write path cause) :
    (w.guardFile t path).tree = t := by
  unfold guardFile at h ⊢
  split at h
  · rfl
  · exact guardSpot_of_error h hwrite

/-- A walk that has only sources to come to comes to nothing else. -/
theorem flatMap_itinerary_of_sources {sources : List Visit}
    (h : ∀ v ∈ sources, v.isSource = true) : sources.flatMap t.itinerary = sources := by
  have hone : ∀ v ∈ sources, t.itinerary v = [v] := fun v hv =>
    FileTree.itinerary_of_ne_directory (by simp [(FileTree.isSource_iff.1 (h v hv)).1])
  rw [List.flatMap_congr hone, List.flatMap_singleton']

/-- What a run has done when something fails is what it does alone, without what comes after the
    sources up to there. -/
theorem guardEach_before {before later : List Visit} {v : Visit} {e : FileError}
    (hstands : ∀ u ∈ before ++ v :: later, u.Stands t)
    (hnodup : ((before ++ v :: later).map Visit.spot).Nodup)
    (hbefore : ∀ u ∈ before, (t.preview c u).isOk = true) (hv : t.preview c v = .error e) :
    let done := before.filter Visit.isSource
    let alone := (ofCanonicalizer c false).guardAll done.length t .zero done
    (∃ totals, alone.result = .ok totals) ∧
      ((ofCanonicalizer c false).guardEach t .zero (before ++ v :: later)).tree = alone.tree := by
  intro done alone
  have hdone : ∀ u ∈ done, u ∈ before ∧ u.isSource = true := fun u hu => List.mem_filter.1 hu
  have hdonestands : ∀ u ∈ done, u.Stands t := fun u hu =>
    hstands u (List.mem_append_left _ (hdone u hu).1)
  have hdonenodup : (done.map Visit.spot).Nodup :=
    hnodup.sublist ((List.filter_sublist.trans (List.sublist_append_left _ _)).map _)
  have hdoneok : ∀ u ∈ done, (t.preview c u).isOk = true := fun u hu => hbefore u (hdone u hu).1
  have hwalk : done.flatMap t.itinerary = done :=
    flatMap_itinerary_of_sources fun u hu => (hdone u hu).2
  have halone : alone = (ofCanonicalizer c false).guardEach t .zero done :=
    (guardAll_eq_guardEach (Formatter.inert_ofCanonicalizer c) _ _ _ hdonestands
      (Nat.le_of_eq (congrArg List.length hwalk))).trans (by rw [hwalk])
  rw [halone]
  constructor
  · obtain ⟨results, hresults⟩ := FileTree.exists_forecast hdoneok
    exact ⟨_, by rw [guardEach_result hdonestands hdonenodup, hresults]; rfl⟩
  · -- both runs reach the same sources
    refine FileTree.ext_entries (fun s => ?_)
      ((guardEach_barred hstands .zero).trans (guardEach_barred hdonestands .zero).symm)
    rw [guardEach_entries hstands hnodup, guardEach_entries hdonestands hdonenodup,
      FileTree.reached_of_error hbefore hv, FileTree.reached_of_isOk hdoneok,
      List.filter_eq_self.2 fun u hu => (hdone u hu).2]

/-- Where a walk stops is told by the visits in front. -/
theorem stops_of_visits {before later : List Visit} {v : Visit} {e : FileError}
    (hvisits : t.visits root = .ok (before ++ v :: later))
    (hbefore : ∀ u ∈ before, (t.preview c u).isOk = true) (hv : t.preview c v = .error e) :
    t.Stops root (before.filter Visit.isSource) ((v :: later).filter Visit.isSource) e := by
  rcases FileTree.preview_eq_error hv with ⟨hkind, cause, hentries, rfl⟩ | ⟨hsource, hfails⟩
  · have hnot : ¬v.isSource = true := by simp [Visit.isSource, hkind]
    rw [List.filter_cons_of_neg hnot]
    exact .directory hvisits rfl hkind
      (fun u hu hukind => FileTree.exists_entriesOf hukind (hbefore u hu)) hentries
  · rw [List.filter_cons_of_pos hsource]
    exact .source hfails

/-- What makes a sweep fail is the first that does, and what is done is what was to be done before
    it. -/
theorem exists_of_guardTree_error {e : FileError}
    (h : ((ofCanonicalizer c false).guardTree t root).result = .error e) :
    (∃ cause, t.resolve true root = .error cause ∧ e = .walk root cause) ∨
      ∃ done later results, t.IsWalk root (done ++ later) ∧ (∀ u ∈ done, t.Accepts u) ∧
        t.Stops root done later e ∧
        t.Becomes c done results ((ofCanonicalizer c false).guardTree t root).tree ∧
        let alone := (ofCanonicalizer c false).guardAll done.length t .zero done
        (∃ totals, alone.result = .ok totals) ∧
          ((ofCanonicalizer c false).guardTree t root).tree = alone.tree := by
  cases hvisits : t.visits root with
  | error cause =>
    have hroot := (FileTree.visits_eq_error_iff cause).1 hvisits
    rw [guardTree_of_error _ hroot] at h
    exact .inl ⟨cause, hroot, (Except.error.inj h).symm⟩
  | ok visits =>
    right
    have hwalk := FileTree.isWalk_of_goSources (FileTree.goSources_of_visits hvisits)
    obtain ⟨hstands, hnodup⟩ := visits_stand hvisits
    rw [guardTree_of_visits false hvisits] at h ⊢
    rw [guardEach_result hstands hnodup] at h
    cases hforecast : t.forecast c visits with
    | ok results =>
      rw [hforecast] at h
      cases h
    | error e' =>
      rw [hforecast] at h
      obtain rfl : e' = e := Except.error.inj h
      obtain ⟨before, v, later, rfl, hbefore, hv⟩ := FileTree.forecast_eq_error hforecast
      rw [List.filter_append] at hwalk
      obtain ⟨results, hresults⟩ := FileTree.exists_forecast hbefore
      have hreached : t.reached c (before ++ v :: later) = before.filter Visit.isSource :=
        FileTree.reached_of_error hbefore hv
      refine ⟨_, _, results, hwalk, fun u hu => ?_, stops_of_visits hvisits hbefore hv, ?_,
        guardEach_before hstands hnodup hbefore hv⟩
      · obtain ⟨hmem, husource⟩ := List.mem_filter.1 hu
        exact FileTree.accepts_of_isOk husource (hbefore u hmem)
      · exact FileTree.becomes_of_entries
          (fun u hu => hstands u (List.mem_append_left _ (List.mem_filter.1 hu).1))
          (fun u hu => (List.mem_filter.1 hu).2) (FileTree.forecast_eq_ok hresults).2
          (hreached ▸ guardEach_entries hstands hnodup .zero) (guardEach_barred hstands .zero)

/-- Nothing but the root path, a directory or a source makes a sweep fail. -/
theorem exists_of_accepts {top : Spot} (htop : t.resolve true root = .ok top)
    (hdirectories : ∀ visits, t.visits root = .ok visits → ∀ v ∈ visits, v.kind = .directory →
      ∃ entries, t.entriesOf v = .ok entries)
    (hsources : ∀ sources, t.IsWalk root sources → ∀ v ∈ sources, t.Accepts v) :
    ∃ totals, ((ofCanonicalizer c false).guardTree t root).result = .ok totals := by
  cases hvisits : t.visits root with
  | error cause =>
    rw [(FileTree.visits_eq_error_iff cause).1 hvisits] at htop
    cases htop
  | ok visits =>
    have hwalk := FileTree.isWalk_of_goSources (FileTree.goSources_of_visits hvisits)
    obtain ⟨hstands, hnodup⟩ := visits_stand hvisits
    have hok : ∀ v ∈ visits, (t.preview c v).isOk = true := fun v hv =>
      FileTree.isOk_preview (hdirectories visits hvisits v hv)
        fun hsource => hsources _ hwalk v (List.mem_filter.2 ⟨hv, hsource⟩)
    obtain ⟨results, hresults⟩ := FileTree.exists_forecast hok
    rw [guardTree_of_visits false hvisits, guardEach_result hstands hnodup, hresults]
    exact ⟨_, rfl⟩

/-- **A sweep that fails**. If a source is why, it is the first that cannot be read or is not valid,
    and if a directory is, it is the first that cannot be listed; the sources before it are as a
    sweep of them alone leaves them, and everything else is as it was. If the root path leads
    nowhere, or if a single file fails before it is written, nothing has changed. And a sweep only
    fails like this: if the root path leads somewhere, the directories can be listed and all sources
    can be read and are valid, then it succeeds, whatever the formatter does. -/
theorem guardTree_stops (c : Canonicalizer) (t : FileTree) (root : Bytes) :
    let sweep := (ofCanonicalizer c false).guardTree t root
    (∀ e, sweep.result = .error e →
      (∃ cause, t.resolve true root = .error cause ∧ e = .walk root cause) ∨
      ∃ done later results, t.IsWalk root (done ++ later) ∧ (∀ u ∈ done, t.Accepts u) ∧
        t.Stops root done later e ∧ t.Becomes c done results sweep.tree ∧
        let alone := (ofCanonicalizer c false).guardAll done.length t .zero done
        (∃ totals, alone.result = .ok totals) ∧ sweep.tree = alone.tree) ∧
    (∀ e, t.resolve true root = .error e →
      ∀ w : Sweeper, w.guardTree t root = ⟨[], t, .error (.walk root e)⟩) ∧
    (∀ (w : Sweeper) path e, (w.guardFile t path).result = .error e →
      (∀ path cause, e ≠ .write path cause) → (w.guardFile t path).tree = t) ∧
    ((∃ top, t.resolve true root = .ok top) →
      (∀ visits, t.visits root = .ok visits → ∀ v ∈ visits, v.kind = .directory →
        ∃ entries, t.entriesOf v = .ok entries) →
      (∀ sources, t.IsWalk root sources → ∀ v ∈ sources, t.Accepts v) →
      ∃ totals, sweep.result = .ok totals) := by
  intro sweep
  refine ⟨?_, ?_, ?_, ?_⟩
  · intro e he
    exact exists_of_guardTree_error he
  · intro e he w
    exact guardTree_of_error w he
  · intro w path e he hwrite
    exact guardFile_of_error he hwrite
  · rintro ⟨top, htop⟩ hdirectories hsources
    exact exists_of_accepts htop hdirectories hsources

set_option maxRecDepth 100000 in
theorem sample_failure :
    (match ((ofCanonicalizer .verbatim false).guardTree (sample [64]) Path.here).result with
      | .error (.parse path _) => some path
      | _ => none) = some (Bytes.ofString "./d/b.go") := by
  decide +kernel

/-- The sample with a directory or a file that cannot be opened. -/
def sealedSample (place : List String) : FileTree :=
  (sample []).bar (place.map Bytes.ofString) (some .denied)

set_option maxRecDepth 100000 in
theorem sealedSample_failures :
    ((ofCanonicalizer .verbatim false).guardTree (sealedSample ["d", "b.go"]) Path.here).result =
        .error (.read (Bytes.ofString "./d/b.go") .denied) ∧
      ((ofCanonicalizer .verbatim false).guardTree (sealedSample ["d"]) Path.here).result =
        .error (.walk (Bytes.ofString "./d") .denied) := by
  decide +kernel

/-- The source between the calls stops a sweep if it is not valid, or cannot be read, and so does its
    directory if that cannot be listed. -/
theorem guardTree_stops_sample :
    (∃ cause done v later results,
      ((ofCanonicalizer .verbatim false).guardTree (sample [64]) Path.here).result =
        .error (.parse (Bytes.ofString "./d/b.go") cause) ∧
      (sample [64]).IsWalk Path.here (done ++ v :: later) ∧
      (∀ u ∈ done, (sample [64]).Accepts u) ∧
      (sample [64]).Fails v (.parse (Bytes.ofString "./d/b.go") cause) ∧
      (sample [64]).Becomes .verbatim done results
        ((ofCanonicalizer .verbatim false).guardTree (sample [64]) Path.here).tree) ∧
    (∃ done v later results,
      (sealedSample ["d", "b.go"]).IsWalk Path.here (done ++ v :: later) ∧
      (sealedSample ["d", "b.go"]).Fails v (.read (Bytes.ofString "./d/b.go") .denied) ∧
      (sealedSample ["d", "b.go"]).Becomes .verbatim done results
        ((ofCanonicalizer .verbatim false).guardTree (sealedSample ["d", "b.go"]) Path.here).tree) ∧
    ∃ done later results, (sealedSample ["d"]).IsWalk Path.here (done ++ later) ∧
      (sealedSample ["d"]).Stops Path.here done later (.walk (Bytes.ofString "./d") .denied) ∧
      (sealedSample ["d"]).Becomes .verbatim done results
        ((ofCanonicalizer .verbatim false).guardTree (sealedSample ["d"]) Path.here).tree := by
  refine ⟨?_, ?_, ?_⟩
  · have hsample := sample_failure
    split at hsample
    · next path cause hresult =>
      obtain rfl : path = Bytes.ofString "./d/b.go" := Option.some.inj hsample
      obtain ⟨hstop, -⟩ := guardTree_stops .verbatim (sample [64]) Path.here
      rcases hstop _ hresult with ⟨cause, -, hlost⟩ | hsource
      · cases hlost
      · obtain ⟨done, later, results, hwalk, haccepts, hstops, hbecomes, -⟩ := hsource
        cases hstops with
        | source hfails =>
          exact ⟨cause, done, _, _, results, hresult, hwalk, haccepts, hfails, hbecomes⟩
    · cases hsample
  · obtain ⟨hstop, -⟩ := guardTree_stops .verbatim (sealedSample ["d", "b.go"]) Path.here
    rcases hstop _ sealedSample_failures.1 with ⟨cause, -, hlost⟩ | hsource
    · cases hlost
    · obtain ⟨done, later, results, hwalk, -, hstops, hbecomes, -⟩ := hsource
      cases hstops with
      | source hfails => exact ⟨done, _, _, results, hwalk, hfails, hbecomes⟩
  · obtain ⟨hstop, -⟩ := guardTree_stops .verbatim (sealedSample ["d"]) Path.here
    rcases hstop _ sealedSample_failures.2 with ⟨cause, -, hlost⟩ | hdirectory
    · exact absurd (FileError.walk.inj hlost).1 (by decide)
    · obtain ⟨done, later, results, hwalk, -, hstops, hbecomes, -⟩ := hdirectory
      exact ⟨done, later, results, hwalk, hstops, hbecomes⟩

/-- **A dry run** has the result of the sweep, be it the totals or the failure, and changes
    nothing. -/
theorem guardTree_dryRun (c : Canonicalizer) (t : FileTree) (root : Bytes) :
    ((ofCanonicalizer c true).guardTree t root).result =
        ((ofCanonicalizer c false).guardTree t root).result ∧
      ((ofCanonicalizer c true).guardTree t root).tree = t := by
  cases hvisits : t.visits root with
  | error e => simp [guardTree_of_error _ ((FileTree.visits_eq_error_iff e).1 hvisits)]
  | ok visits =>
    obtain ⟨hstands, hnodup⟩ := visits_stand hvisits
    rw [guardTree_of_visits true hvisits, guardTree_of_visits false hvisits,
      guardEach_result hstands hnodup, guardEach_result hstands hnodup]
    exact ⟨rfl, guardEach_dryRun hstands .zero⟩

end Sweeper

end SyscallGuard
