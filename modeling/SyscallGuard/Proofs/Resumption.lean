import SyscallGuard.Proofs.Layout
import SyscallGuard.Proofs.Sweeps

set_option autoImplicit false

/-! # Running again

A sweep that was stopped by a source can be taken up again once that source is repaired, and a sweep
that is run twice does nothing the second time, as long as guarding what was written changes
nothing (`FileTree.Settles`). Both are the same fact: a tree may be *ahead* of another
(`FileTree.Ahead`), with some of the sources guarded already that a sweep of the other would guard.
A sweep of either ends in the same tree, and with the same result but for what it counts
(`Sweeper.guardTree_ahead`). -/

namespace SyscallGuard

/-! ## Settled contents -/

/-- Whether guarding what was written changes nothing. -/
def Guarded.isSettled (c : Canonicalizer) : Guarded → Bool
  | unchanged _ => true
  | changed _ _ rendered =>
    match guardSource rendered.bytes c with
    | .ok (.unchanged _) => true
    | _ => false

namespace Canonicalizer

/-- Whether what guarding a content writes is left alone afterwards. -/
def Settles (c : Canonicalizer) (content : Bytes) : Prop :=
  ∀ sites insertions rendered, guardSource content c = .ok (.changed sites insertions rendered) →
    ∃ again, guardSource rendered.bytes c = .ok (.unchanged again)

variable {c : Canonicalizer} {content : Bytes}

/-- What an accepted content has become needs no guard. -/
theorem Settles.exists_unchanged (h : c.Settles content) {g : Guarded}
    (hg : guardSource content c = .ok g) :
    ∃ sites, guardSource (guardedContent c content) c = .ok (.unchanged sites) := by
  have hcontent : guardedContent c content = g.output content := by rw [guardedContent, hg]
  rw [hcontent]
  cases g with
  | unchanged sites => exact ⟨sites, hg⟩
  | changed sites insertions rendered => exact h sites insertions rendered hg

theorem Settles.guardedContent_idem (h : c.Settles content) {g : Guarded}
    (hg : guardSource content c = .ok g) :
    guardedContent c (guardedContent c content) = guardedContent c content := by
  obtain ⟨sites, hagain⟩ := h.exists_unchanged hg
  generalize guardedContent c content = become at hagain ⊢
  rw [guardedContent, hagain]
  rfl

/-- Settled contents can be told by guarding twice. -/
theorem settles_iff :
    c.Settles content ↔ (guardSource content c).toOption.all (Guarded.isSettled c) = true := by
  unfold Settles
  cases guardSource content c with
  | error e => simp [Except.toOption]
  | ok g =>
    cases g with
    | unchanged sites => simp [Except.toOption, Guarded.isSettled]
    | changed sites insertions rendered =>
      simp only [Except.toOption, Option.all_some, Guarded.isSettled, Except.ok.injEq,
        Guarded.changed.injEq, and_imp]
      constructor
      · intro h
        obtain ⟨sites', hsites⟩ := h _ _ _ rfl rfl rfl
        rw [hsites]
      · rintro h _ _ _ - - rfl
        split at h
        · next sites' hsites => exact ⟨sites', hsites⟩
        · cases h

instance (c : Canonicalizer) (content : Bytes) : Decidable (c.Settles content) :=
  decidable_of_iff' _ settles_iff

theorem settles_nil (c : Canonicalizer) : c.Settles [] := by
  intro sites insertions rendered h
  have hdraft := draft_nil
  rw [guardSource] at h
  cases hnil : draft [] with
  | error e =>
    rw [hnil] at hdraft
    cases hdraft
  | ok d =>
    rw [hnil] at h hdraft
    have hzero : d.insertions = 0 := Option.some.inj hdraft
    simp only [Guarded.ofDraft, if_pos hzero] at h
    cases h

end Canonicalizer

theorem Entry.layout_guarded (c : Canonicalizer) (e : Entry) : (e.guarded c).layout = e.layout := by
  cases e <;> rfl

namespace FileTree

/-! ## Trees that are ahead -/

variable {t u : FileTree} {c : Canonicalizer} {visits done : List Visit}

/-- Whether a tree is ahead of another: some of the sources that a run over some visits reaches
    have been guarded already and are settled. -/
structure Ahead (t u : FileTree) (c : Canonicalizer) (visits done : List Visit) : Prop where
  reached : done ⊆ t.reached c visits
  settled : ∀ v ∈ done, ∀ content, t.read v = .ok content → c.Settles content
  entries : ∀ s, u.world.entry? s =
    if s ∈ done.map Visit.spot then (t.world.entry? s).map (Entry.guarded c) else t.world.entry? s
  barred : u.barred = t.barred

theorem Ahead.sameLayout (h : t.Ahead u c visits done) : u.SameLayout t := by
  refine ⟨fun s => ?_, h.barred⟩
  rw [h.entries]
  split
  · rw [Option.map_map]
    exact Option.map_congr fun e _ => e.layout_guarded c
  · rfl

theorem reached_isOk {v : Visit} (h : v ∈ t.reached c visits) :
    v ∈ visits ∧ v.isSource = true ∧ (t.preview c v).isOk = true := by
  obtain ⟨htake, hsource⟩ := List.mem_filter.1 h
  exact ⟨(List.takeWhile_sublist _).subset htake, hsource, List.all_eq_true.1 List.all_takeWhile v htake⟩

/-- A source that was reached has been read and has a result. -/
theorem exists_of_reached {v : Visit} (h : v ∈ t.reached c visits) (hv : v.Stands t) :
    ∃ content executable g, t.read v = .ok content ∧
      t.world.entry? v.spot = some (.file content executable) ∧
      guardSource content c = .ok g ∧ t.preview c v = .ok (some g) := by
  obtain ⟨-, hsource, hok⟩ := reached_isOk h
  cases hpreview : t.preview c v with
  | error e =>
    rw [hpreview] at hok
    cases hok
  | ok found =>
    obtain ⟨content, g, hread, hguard, rfl⟩ := exists_of_preview_source hsource hpreview
    obtain ⟨-, executable, hentry⟩ := entry?_of_read hv hsource hread
    exact ⟨content, executable, g, hread, hentry, hguard, rfl⟩

/-- What has been guarded already has the result that nothing changes. -/
theorem Ahead.preview_of_mem (h : t.Ahead u c visits done) (hstands : ∀ v ∈ visits, v.Stands t)
    {v : Visit} (hv : v ∈ done) :
    ∃ g sites, t.preview c v = .ok (some g) ∧ u.preview c v = .ok (some (.unchanged sites)) := by
  have hreached := h.reached hv
  obtain ⟨hmem, hsource, -⟩ := reached_isOk hreached
  obtain ⟨content, executable, g, hread, hentry, hguard, hpreview⟩ :=
    exists_of_reached hreached (hstands v hmem)
  obtain ⟨sites, hagain⟩ := (h.settled v hv content hread).exists_unchanged hguard
  have hentry' : u.world.entry? v.spot = some (.file (guardedContent c content) executable) := by
    rw [h.entries, if_pos (List.mem_map_of_mem hv), hentry]
    rfl
  have hopen : t.unopened v = none := (entry?_of_read (hstands v hmem) hsource hread).1
  have hread' : u.read v = .ok (guardedContent c content) := by
    have hv' : v.Stands u := h.sameLayout.sameShape.stands.2 (hstands v hmem)
    rw [read_of_stands hv' hentry', unopened_congr h.barred, hopen]
  refine ⟨g, sites, hpreview, ?_⟩
  rw [preview_of_source hsource, hread']
  simp only [hagain]

/-- And everything else has the result that it would have had. -/
theorem Ahead.preview_of_not_mem (h : t.Ahead u c visits done)
    (hstands : ∀ v ∈ visits, v.Stands t) (hnodup : (visits.map Visit.spot).Nodup) {v : Visit}
    (hmem : v ∈ visits) (hv : v ∉ done) : u.preview c v = t.preview c v := by
  refine Agrees.preview ⟨h.barred, ?_⟩ (hstands v hmem)
  rw [h.entries, if_neg]
  intro hspot
  obtain ⟨d, hd, hsame⟩ := List.mem_map.1 hspot
  obtain rfl := List.inj_on_of_nodup_map hnodup (reached_isOk (h.reached hd)).1 hmem hsame
  exact hv hd

theorem Ahead.preview_isSome (h : t.Ahead u c visits done)
    (hstands : ∀ v ∈ visits, v.Stands t) (hnodup : (visits.map Visit.spot).Nodup) :
    ∀ v ∈ visits, (u.preview c v).map Option.isSome = (t.preview c v).map Option.isSome := by
  intro v hmem
  by_cases hv : v ∈ done
  · obtain ⟨g, sites, ht, hu⟩ := h.preview_of_mem hstands hv
    rw [ht, hu]
    rfl
  · rw [h.preview_of_not_mem hstands hnodup hmem hv]

/-- Forecasts that differ in the results only are equally long, or fail in the same way. -/
theorem forecast_length_congr
    (h : ∀ v ∈ visits, (u.preview c v).map Option.isSome = (t.preview c v).map Option.isSome) :
    (u.forecast c visits).map List.length = (t.forecast c visits).map List.length := by
  induction visits with
  | nil => rfl
  | cons v rest ih =>
    obtain ⟨hv, hrest⟩ := List.forall_mem_cons.1 h
    have hlater := ih hrest
    rw [forecast, forecast]
    cases ht : t.preview c v with
    | error e =>
      rw [ht] at hv
      cases hu : u.preview c v with
      | error e' =>
        rw [hu] at hv
        exact congrArg Except.error (Except.error.inj hv)
      | ok found' =>
        rw [hu] at hv
        cases hv
    | ok found =>
      rw [ht] at hv
      cases hu : u.preview c v with
      | error e' =>
        rw [hu] at hv
        cases hv
      | ok found' =>
        rw [hu] at hv
        have hsome : found'.isSome = found.isSome := Except.ok.inj hv
        have hcount : found'.toList.length = found.toList.length := by
          cases found' <;> cases found <;> simp_all
        cases hft : t.forecast c rest <;> cases hfu : u.forecast c rest <;>
          rw [hft, hfu] at hlater <;> simp_all [Except.map]

end FileTree

namespace Sweeper

open FileTree

variable {t u : FileTree} {c : Canonicalizer} {visits done : List Visit} {root : Bytes}

/-- **A tree that is ahead catches up**: a sweep of it ends in the tree that a sweep of the other
    ends in, with the same failure, or having visited as many sources. -/
theorem guardTree_ahead (hvisits : t.visits root = .ok visits) (h : t.Ahead u c visits done) :
    let w := ofCanonicalizer c false
    (w.guardTree u root).tree = (w.guardTree t root).tree ∧
      (w.guardTree u root).result.map Totals.visited =
        (w.guardTree t root).result.map Totals.visited := by
  intro w
  obtain ⟨hstands, hnodup⟩ := visits_stand hvisits
  have huvisits : u.visits root = .ok visits := by rw [h.sameLayout.visits, hvisits]
  have hsame := h.preview_isSome hstands hnodup
  -- the same visits fail in both, so that both sweeps get equally far
  have hreached : u.reached c visits = t.reached c visits := reached_of_isOk_eq fun v hv => by
    have hv := hsame v hv
    cases ht : t.preview c v <;> cases hu : u.preview c v <;> rw [ht, hu] at hv
    · rfl
    · cases hv
    · cases hv
    · rfl
  constructor
  · refine ext_entries (fun s => ?_) (by rw [guardTree_barred, guardTree_barred, h.barred])
    rw [guardTree_entries huvisits, guardTree_entries hvisits, hreached, h.entries]
    by_cases hs : s ∈ done.map Visit.spot
    · -- what has been guarded already stays as it is
      obtain ⟨v, hv, rfl⟩ := List.mem_map.1 hs
      have hv' := h.reached hv
      obtain ⟨content, executable, g, hread, hentry, hguard, -⟩ :=
        exists_of_reached hv' (hstands v (reached_isOk hv').1)
      have hagain := (h.settled v hv content hread).guardedContent_idem hguard
      rw [if_pos hs, if_pos (List.mem_map_of_mem hv'), hentry]
      simp only [Option.map_some, Entry.guarded, hagain, if_pos (List.mem_map_of_mem hv')]
    · rw [if_neg hs]
  · rw [guardTree_result false huvisits, guardTree_result false hvisits]
    have hlength := forecast_length_congr hsame
    cases ht : t.forecast c visits <;> cases hu : u.forecast c visits <;>
      rw [ht, hu] at hlength <;> simp_all [Except.map, Totals.recordAll]

end Sweeper

/-! ## Sweeps that settle -/

namespace FileTree

variable {t : FileTree} {c : Canonicalizer} {visits done : List Visit} {root : Bytes}

/-- Whether what a sweep writes is left alone afterwards. It writes the sources of its walk as far as
    all of them are accepted. -/
def Settles (t : FileTree) (c : Canonicalizer) (root : Bytes) : Prop :=
  ∀ done later, t.IsWalk root (done ++ later) → (∀ v ∈ done, t.Accepts v) →
    ∀ v ∈ done, ∀ content, t.read v = .ok content → c.Settles content

/-- The tree with a new content of the file at a spot. -/
def withContent (t : FileTree) (spot : Spot) (content : Bytes) : FileTree :=
  (t.world.refill spot content).tree

theorem entry?_withContent {place : Location} {content : Bytes} {executable : Bool}
    (h : t.world.entry? (.inside place) = some (.file content executable)) (new : Bytes) (s : Spot) :
    (t.withContent (.inside place) new).world.entry? s =
      if s = .inside place then some (.file new executable) else t.world.entry? s :=
  entry?_refill h new s

theorem sameLayout_withContent {place : Location} {content : Bytes} {executable : Bool}
    (h : t.world.entry? (.inside place) = some (.file content executable)) (new : Bytes) :
    (t.withContent (.inside place) new).SameLayout t := by
  refine ⟨fun s => ?_, t.barred_refill _ new⟩
  rw [entry?_withContent h]
  split
  · next hs =>
    rw [hs, h]
    rfl
  · rfl

/-- The sources that are accepted in front of a failure are settled. -/
theorem Settles.of_append (h : t.Settles c root) {before later : List Visit}
    (hvisits : t.visits root = .ok (before ++ later))
    (hok : ∀ v ∈ before, (t.preview c v).isOk = true) :
    ∀ v ∈ before.filter Visit.isSource, ∀ content, t.read v = .ok content → c.Settles content := by
  have hwalk := isWalk_of_goSources (goSources_of_visits hvisits)
  rw [List.filter_append] at hwalk
  refine h _ _ hwalk fun v hv => ?_
  obtain ⟨hmem, hsource⟩ := List.mem_filter.1 hv
  exact accepts_of_isOk hsource (hok v hmem)

/-- A source that is refused is a file of the tree and not one of the system. -/
theorem exists_of_refused {v : Visit} (hv : v.Stands t) {path : Bytes} {cause : SyntaxError}
    (h : t.preview c v = .error (.parse path cause)) :
    v.isSource = true ∧ t.Fails v (.parse path cause) ∧ ∃ place content executable,
      v.spot = .inside place ∧ t.world.entry? v.spot = some (.file content executable) := by
  rcases preview_eq_error h with ⟨-, e, -, hother⟩ | ⟨hsource, hfails⟩
  · cases hother
  refine ⟨hsource, hfails, ?_⟩
  rcases hfails with ⟨e, -, hother⟩ | ⟨content, cause, hread, hcause, -⟩
  · cases hother
  obtain ⟨-, executable, hentry⟩ := entry?_of_read hv hsource hread
  cases hspot : v.spot with
  | inside place => exact ⟨place, content, executable, rfl, hspot ▸ hentry⟩
  | beyond =>
    rw [hspot] at hentry
    cases hentry
  | around place =>
    -- the files of the system are empty, and an empty file is accepted
    have hnil : content = [] := by
      rw [hspot] at hentry
      simp only [World.entry?, world] at hentry
      exact System.content_eq_nil hentry
    have hdraft := draft_nil
    rw [draft, ← hnil, hcause] at hdraft
    cases hdraft

/-- A tree stays ahead when a source behind those that have been guarded gets a new content, in both
    trees. -/
theorem Ahead.withContent {u : FileTree} {before later : List Visit} {v : Visit} {place : Location}
    {content : Bytes} {executable : Bool} (hstands : ∀ u ∈ before ++ v :: later, u.Stands t)
    (hnodup : ((before ++ v :: later).map Visit.spot).Nodup)
    (hbefore : ∀ u ∈ before, (t.preview c u).isOk = true) (hspot : v.spot = .inside place)
    (hentry : t.world.entry? v.spot = some (.file content executable))
    (h : t.Ahead u c (before ++ v :: later) (before.filter Visit.isSource)) (new : Bytes) :
    (t.withContent v.spot new).Ahead (u.withContent v.spot new) c (before ++ v :: later)
      (before.filter Visit.isSource) := by
  -- no spot comes up twice, so the new content is none of those that have been guarded
  have hfresh : ∀ u ∈ before, u.spot ≠ v.spot := by
    intro u hu hsame
    rw [List.map_append, List.map_cons] at hnodup
    exact (List.nodup_append.1 hnodup).2.2 _ (List.mem_map_of_mem hu) _ List.mem_cons_self hsame
  have hother : v.spot ∉ (before.filter Visit.isSource).map Visit.spot := by
    intro hmem
    obtain ⟨u, hu, hsame⟩ := List.mem_map.1 hmem
    exact hfresh u (List.mem_filter.1 hu).1 hsame
  have hentry' := (h.entries v.spot).trans (if_neg hother)
  rw [hentry] at hentry'
  rw [hspot] at hentry hentry' hfresh hother ⊢
  have hkept : ∀ u ∈ before, t.Agrees (t.withContent (.inside place) new) u := by
    intro u hu
    refine ⟨t.barred_refill _ new, ?_⟩
    rw [entry?_withContent hentry, if_neg (hfresh u hu)]
  have hbeforestands : ∀ u ∈ before, u.Stands t := fun u hu =>
    hstands u (List.mem_append_left _ hu)
  refine ⟨?_, ?_, fun s => ?_, ?_⟩
  · refine filter_subset_reached fun u hu => ?_
    rw [(hkept u hu).preview (hbeforestands u hu)]
    exact hbefore u hu
  · intro u hu text hread
    have hmem := (List.mem_filter.1 hu).1
    rw [(hkept u hmem).read (hbeforestands u hmem)] at hread
    exact h.settled u hu text hread
  · rw [entry?_withContent hentry', entry?_withContent hentry, h.entries]
    by_cases hs : s = .inside place
    · rw [if_pos hs, if_pos hs, if_neg (hs ▸ hother)]
    · rw [if_neg hs, if_neg hs]
  · exact (u.barred_refill _ new).trans (h.barred.trans (t.barred_refill _ new).symm)

/-- Where everything has been guarded already, nothing changes. -/
theorem Ahead.forecast_unchanged {u : FileTree} (hvisits : ∀ v ∈ visits, v.Stands t)
    (h : t.Ahead u c visits (visits.filter Visit.isSource)) {results : List Guarded}
    (hresults : u.forecast c visits = .ok results) :
    ∀ g ∈ results, ∃ sites, g = .unchanged sites := by
  have hpreviews := (List.forall₂_and_left _ _).2 ⟨fun v hv => hv, (forecast_eq_ok hresults).2⟩
  have hunchanged : List.Forall₂ (fun g (_ : Visit) => (∃ sites, g = .unchanged sites) ∧ True)
      results (visits.filter Visit.isSource) := by
    refine (hpreviews.imp ?_).flip
    rintro v g ⟨hv, hg⟩
    obtain ⟨-, sites, -, hsites⟩ := h.preview_of_mem hvisits hv
    rw [hg] at hsites
    exact ⟨⟨sites, Option.some.inj (Except.ok.inj hsites)⟩, trivial⟩
  exact ((List.forall₂_and_left _ _).1 hunchanged).1

end FileTree

theorem Totals.recordAll_of_unchanged {results : List Guarded}
    (h : ∀ g ∈ results, ∃ sites, g = .unchanged sites) :
    zero.recordAll results = ⟨results.length, 0, 0, 0⟩ := by
  have hnone : ∀ g ∈ results, g.isChanged = false ∧ g.insertions = 0 ∧ g.isUnformatted = false := by
    intro g hg
    obtain ⟨sites, rfl⟩ := h g hg
    exact ⟨rfl, rfl, rfl⟩
  have hchanged : results.countP Guarded.isChanged = 0 :=
    List.countP_eq_zero.2 fun g hg => by simp [(hnone g hg).1]
  have hunformatted : results.countP Guarded.isUnformatted = 0 :=
    List.countP_eq_zero.2 fun g hg => by simp [(hnone g hg).2.2]
  have hinsertions : results.map Guarded.insertions = List.replicate results.length 0 :=
    List.map_eq_replicate_iff.2 fun g hg => (hnone g hg).2.1
  simp [recordAll, zero, hchanged, hunformatted, hinsertions]

namespace Sweeper

open FileTree

variable {t : FileTree} {c : Canonicalizer} {root : Bytes}

/-- What a successful sweep leaves is ahead by all of its sources. -/
theorem ahead_of_ok (hsettles : t.Settles c root) {totals : Totals}
    (h : ((ofCanonicalizer c false).guardTree t root).result = .ok totals) :
    ∃ visits, t.visits root = .ok visits ∧
      t.Ahead ((ofCanonicalizer c false).guardTree t root).tree c visits
        (visits.filter Visit.isSource) := by
  cases hvisits : t.visits root with
  | error e =>
    rw [guardTree_of_error _ ((visits_eq_error_iff e).1 hvisits)] at h
    cases h
  | ok visits =>
    rw [guardTree_result false hvisits] at h
    cases hresults : t.forecast c visits with
    | error e =>
      rw [hresults] at h
      cases h
    | ok results =>
      have hok := (forecast_eq_ok hresults).1
      have hreached := reached_of_isOk hok
      refine ⟨visits, rfl, fun v hv => hreached ▸ hv, ?_, fun s => ?_, guardTree_barred ..⟩
      · have happend : t.visits root = .ok (visits ++ []) := by rw [List.append_nil, hvisits]
        exact hsettles.of_append happend hok
      · rw [guardTree_entries hvisits, hreached]

/-- A sweep of what a sweep has left finds nothing to do. -/
theorem guardTree_twice (hsettles : t.Settles c root) {totals : Totals}
    (h : ((ofCanonicalizer c false).guardTree t root).result = .ok totals) :
    let first := (ofCanonicalizer c false).guardTree t root
    let second := (ofCanonicalizer c false).guardTree first.tree root
    second.result = .ok ⟨totals.visited, 0, 0, 0⟩ ∧ second.tree = first.tree := by
  intro first second
  obtain ⟨visits, hvisits, hahead⟩ := ahead_of_ok hsettles h
  obtain ⟨htree, hvisited⟩ := guardTree_ahead hvisits hahead
  refine ⟨?_, htree⟩
  have hagain : first.tree.visits root = .ok visits := by rw [hahead.sameLayout.visits, hvisits]
  have hsecond : second.result = (first.tree.forecast c visits).map Totals.zero.recordAll :=
    guardTree_result false hagain
  replace hvisited : second.result.map Totals.visited = .ok totals.visited :=
    hvisited.trans (congrArg _ h)
  rw [hsecond] at hvisited ⊢
  cases hresults : first.tree.forecast c visits with
  | error e =>
    rw [hresults] at hvisited
    cases hvisited
  | ok results =>
    have hnothing : Totals.zero.recordAll results = ⟨results.length, 0, 0, 0⟩ :=
      Totals.recordAll_of_unchanged (hahead.forecast_unchanged (visits_stand hvisits).1 hresults)
    rw [hresults, Except.map, Except.map, hnothing, Except.ok.injEq] at hvisited
    rw [Except.map, hnothing, ← hvisited]

/-- What a sweep that was stopped by a source leaves is ahead by the sources in front of it. -/
theorem ahead_of_error (hsettles : t.Settles c root) {path : Bytes} {cause : SyntaxError}
    (h : ((ofCanonicalizer c false).guardTree t root).result = .error (.parse path cause)) :
    ∃ before v later, t.visits root = .ok (before ++ v :: later) ∧
      (∀ u ∈ before, (t.preview c u).isOk = true) ∧ t.preview c v = .error (.parse path cause) ∧
      t.Ahead ((ofCanonicalizer c false).guardTree t root).tree c (before ++ v :: later)
        (before.filter Visit.isSource) := by
  cases hvisits : t.visits root with
  | error e =>
    rw [guardTree_of_error _ ((visits_eq_error_iff e).1 hvisits)] at h
    cases h
  | ok visits =>
    rw [guardTree_result false hvisits] at h
    cases hforecast : t.forecast c visits with
    | ok results =>
      rw [hforecast] at h
      cases h
    | error e =>
      rw [hforecast] at h
      obtain rfl : e = .parse path cause := Except.error.inj h
      obtain ⟨before, v, later, rfl, hbefore, hv⟩ := forecast_eq_error hforecast
      have hreached : t.reached c (before ++ v :: later) = before.filter Visit.isSource :=
        reached_of_error hbefore hv
      refine ⟨before, v, later, rfl, hbefore, hv, fun u hu => hreached ▸ hu, ?_, fun s => ?_,
        guardTree_barred ..⟩
      · exact hsettles.of_append hvisits hbefore
      · rw [guardTree_entries hvisits, hreached]

/-- A sweep that goes on once that source has a new content comes to what a sweep of the tree would
    have come to, had it had that content from the start. -/
theorem guardTree_again (hsettles : t.Settles c root) {path : Bytes} {cause : SyntaxError}
    (h : ((ofCanonicalizer c false).guardTree t root).result = .error (.parse path cause)) :
    let w := ofCanonicalizer c false
    ∃ done v later, t.IsWalk root (done ++ v :: later) ∧ (∀ u ∈ done, t.Accepts u) ∧
      t.Fails v (.parse path cause) ∧ ∀ new,
        let resumed := w.guardTree ((w.guardTree t root).tree.withContent v.spot new) root
        let single := w.guardTree (t.withContent v.spot new) root
        resumed.tree = single.tree ∧
          resumed.result.map Totals.visited = single.result.map Totals.visited := by
  intro w
  obtain ⟨before, v, later, hvisits, hbefore, hv, hahead⟩ := ahead_of_error hsettles h
  obtain ⟨hstands, hnodup⟩ := visits_stand hvisits
  have hvstands := hstands v (List.mem_append_right _ List.mem_cons_self)
  obtain ⟨hsource, hfails, place, content, executable, hspot, hentry⟩ :=
    exists_of_refused hvstands hv
  have hwalk := isWalk_of_goSources (goSources_of_visits hvisits)
  rw [List.filter_append, List.filter_cons_of_pos hsource] at hwalk
  refine ⟨_, v, _, hwalk, fun u hu => ?_, hfails, fun new => ?_⟩
  · obtain ⟨hmem, husource⟩ := List.mem_filter.1 hu
    exact accepts_of_isOk husource (hbefore u hmem)
  · refine guardTree_ahead ?_ (hahead.withContent hstands hnodup hbefore hspot hentry new)
    rw [hspot] at hentry ⊢
    rw [(sameLayout_withContent hentry new).visits, hvisits]

/-- **Running again**. Where what a sweep writes is left alone afterwards, a sweep that was stopped by
    a source that is not valid can be taken up again: whatever that source is made, the tree and the
    failure are those of a single sweep with that content, or both succeed, having visited as many
    sources. And after a sweep that succeeds there is nothing left to do: another one visits the same
    sources and changes none. -/
theorem guardTree_resumes (hsettles : t.Settles c root) :
    let w := ofCanonicalizer c false
    let first := w.guardTree t root
    (∀ path cause, first.result = .error (.parse path cause) →
      ∃ done v later, t.IsWalk root (done ++ v :: later) ∧ (∀ u ∈ done, t.Accepts u) ∧
        t.Fails v (.parse path cause) ∧ ∀ new,
          let resumed := w.guardTree (first.tree.withContent v.spot new) root
          let single := w.guardTree (t.withContent v.spot new) root
          resumed.tree = single.tree ∧
            resumed.result.map Totals.visited = single.result.map Totals.visited) ∧
    (∀ totals, first.result = .ok totals →
      let second := w.guardTree first.tree root
      second.result = .ok ⟨totals.visited, 0, 0, 0⟩ ∧ second.tree = first.tree) := by
  intro w first
  constructor
  · intro path cause hfirst
    exact guardTree_again hsettles hfirst
  · intro totals hfirst
    exact guardTree_twice hsettles hfirst

set_option maxRecDepth 100000 in
/-- What a sweep writes in the sample is left alone, if what is between its calls is. -/
theorem sample_settles {between : Bytes} (h : Canonicalizer.verbatim.Settles between) :
    (sample between).Settles .verbatim Path.here := by
  have hcall : Canonicalizer.verbatim.Settles (Bytes.ofString "Syscall()\n") := by decide +kernel
  intro done later hwalk _ v hv content hread
  obtain ⟨names, text, executable, -, hentry, -, hsame⟩ :=
    (hwalk.mem v).1 (List.mem_append_left _ hv)
  have hstands : v.Stands (sample between) := .of_entry hentry (by rw [hsame]; rfl)
  rw [read_of_stands hstands hentry] at hread
  split at hread
  · cases hread
  · obtain rfl : text = content := Except.ok.inj hread
    cases hspot : v.spot with
    | beyond =>
      rw [hspot] at hentry
      cases hentry
    | around place =>
      rw [hspot] at hentry
      simp only [World.entry?, world] at hentry
      exact System.content_eq_nil hentry ▸ Canonicalizer.settles_nil _
    | inside place =>
      rw [hspot] at hentry
      simp only [World.entry?, world] at hentry
      have hplace : place ≠ [] := by
        rintro rfl
        cases hentry
      rcases mem_of_mem_setAll (mem_table.2 ⟨hplace, hentry⟩) with hempty | hline
      · cases hempty
      · simp only [List.mem_cons, Prod.mk.injEq, Entry.file.injEq, reduceCtorEq, and_false,
          List.not_mem_nil, or_false, false_or] at hline
        rcases hline with ⟨-, rfl, -⟩ | ⟨-, rfl, -⟩ | ⟨-, rfl, -⟩
        · exact hcall
        · exact h
        · exact hcall

set_option maxRecDepth 100000 in
theorem sample_success :
    ((ofCanonicalizer .verbatim false).guardTree (sample []) Path.here).result.toOption =
      some ⟨3, 2, 2, 0⟩ := by
  decide +kernel

set_option maxRecDepth 100000 in
/-- The sweep that stopped at the source between the calls goes on once that source is emptied, to
    what a single sweep leaves. And where that source is empty from the start, a second sweep finds
    its three sources guarded. -/
theorem guardTree_resumes_sample :
    let w := ofCanonicalizer .verbatim false
    (∃ cause done v later,
      (w.guardTree (sample [64]) Path.here).result = .error (.parse v.path cause) ∧
      v.path = Bytes.ofString "./d/b.go" ∧ (sample [64]).IsWalk Path.here (done ++ v :: later) ∧
      (w.guardTree ((w.guardTree (sample [64]) Path.here).tree.withContent v.spot [])
          Path.here).tree =
        (w.guardTree ((sample [64]).withContent v.spot []) Path.here).tree) ∧
    (w.guardTree (w.guardTree (sample []) Path.here).tree Path.here).result =
      .ok ⟨3, 0, 0, 0⟩ := by
  intro w
  constructor
  · have hsample := sample_failure
    split at hsample
    · next path cause hresult =>
      have hsettled : Canonicalizer.verbatim.Settles [64] := by decide +kernel
      obtain ⟨hresumes, -⟩ := guardTree_resumes (sample_settles hsettled)
      obtain ⟨done, v, later, hwalk, -, hfails, hagain⟩ := hresumes path cause hresult
      obtain ⟨e, -, hother⟩ | ⟨content, cause', -, -, hsame⟩ := hfails
      · cases hother
      · obtain ⟨rfl, rfl⟩ := FileError.parse.inj hsame
        exact ⟨cause, done, v, later, hresult, Option.some.inj hsample, hwalk, (hagain []).1⟩
    · cases hsample
  · have hsample := sample_success
    cases hresult : (w.guardTree (sample []) Path.here).result with
    | error e =>
      rw [hresult] at hsample
      cases hsample
    | ok totals =>
      rw [hresult] at hsample
      obtain rfl : totals = ⟨3, 2, 2, 0⟩ := Option.some.inj hsample
      obtain ⟨-, htwice⟩ := guardTree_resumes (sample_settles (Canonicalizer.settles_nil _))
      exact (htwice _ hresult).1

end Sweeper

end SyscallGuard
