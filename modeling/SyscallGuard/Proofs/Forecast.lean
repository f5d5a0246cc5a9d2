import SyscallGuard.Proofs.Roots
import SyscallGuard.Proofs.Validity

set_option autoImplicit false

/-! # What a sweep will do

With a canonicaliser for a formatter, what becomes of a file depends on its content alone. A sweep
changes files on the way, but never one that it has still to visit, so that all of it can be told
from the tree before: `FileTree.preview` is what a visit will come to, `FileTree.forecast` the same
for a list of visits up to the first failure, and `FileTree.reached` are the sources up to there.
The sweep has the result of the forecast (`guardEach_result`), whether it writes or not. One that
writes leaves the reached sources with their new content and everything else as it was
(`guardEach_entries`), one that does not leaves all as it was (`guardEach_dryRun`). -/

namespace SyscallGuard

/-! ## Results for one content -/

namespace Guarded

/-- The content that a file is to have. -/
def output (content : Bytes) : Guarded → Bytes
  | unchanged _ => content
  | changed _ _ rendered => rendered.bytes

/-- Whether guards were inserted. -/
def isChanged : Guarded → Bool
  | unchanged _ => false
  | changed .. => true

/-- The guards that were inserted. -/
def insertions : Guarded → Nat
  | unchanged _ => 0
  | changed _ insertions _ => insertions

/-- Whether formatting failed. -/
def isUnformatted : Guarded → Bool
  | unchanged _ => false
  | changed _ _ rendered => rendered.formatError?.isSome

/-- What a result is to the totals. -/
def outcome (written : Bool) : Guarded → FileOutcome
  | unchanged _ => .unchanged
  | changed _ insertions rendered => .guarded insertions rendered.formatError?.isNone written

end Guarded

/-- The content that a file is given: its own, if that is refused. -/
def guardedContent (c : Canonicalizer) (content : Bytes) : Bytes :=
  match guardSource content c with
  | .error _ => content
  | .ok g => g.output content

/-- An entry with the content that it is given. -/
def Entry.guarded (c : Canonicalizer) : Entry → Entry
  | .file content executable => .file (guardedContent c content) executable
  | e => e

set_option maxRecDepth 100000 in
/-- There is nothing to guard in an empty file. -/
theorem draft_nil : ((draft []).map fun d => d.insertions).toOption = some 0 := by
  decide +kernel

theorem guardedContent_nil (c : Canonicalizer) : guardedContent c [] = [] := by
  have hdraft := draft_nil
  unfold guardedContent guardSource
  cases h : draft [] with
  | error e => rfl
  | ok d =>
    rw [h] at hdraft
    have hzero : d.insertions = 0 := by simpa [Except.map, Except.toOption] using hdraft
    simp only [Guarded.ofDraft, if_pos hzero]
    rfl

namespace Totals

/-- The totals after some more results. -/
def recordAll (t : Totals) (results : List Guarded) : Totals :=
  ⟨t.visited + results.length, t.guarded + results.countP Guarded.isChanged,
    t.insertions + (results.map Guarded.insertions).sum,
    t.unformatted + results.countP Guarded.isUnformatted⟩

theorem recordAll_cons (t : Totals) (written : Bool) (g : Guarded) (results : List Guarded) :
    (t.record (g.outcome written)).recordAll results = t.recordAll (g :: results) := by
  simp only [recordAll, List.length_cons, List.countP_cons, List.map_cons, List.sum_cons]
  cases g with
  | unchanged sites =>
    simp [record, Guarded.outcome, Guarded.isChanged, Guarded.insertions, Guarded.isUnformatted,
      Nat.add_assoc, Nat.add_comm 1]
  | changed sites insertions rendered =>
    cases hformat : rendered.formatError? <;>
      simp [record, Guarded.outcome, Guarded.isChanged, Guarded.insertions, Guarded.isUnformatted,
        hformat, Nat.add_assoc, Nat.add_comm 1]

end Totals

/-! ## Forecasts -/

namespace FileTree

/-- What a visit will come to: the result for a Go source, and nothing for anything else unless it
    is a directory that cannot be looked into. -/
def preview (t : FileTree) (c : Canonicalizer) (v : Visit) : Except FileError (Option Guarded) :=
  match v.kind with
  | .link => .ok none
  | .directory =>
    match t.entriesOf v with
    | .error e => .error (.walk v.path e)
    | .ok _ => .ok none
  | .file =>
    if !Path.isGoSource v.path then .ok none
    else match t.read v with
      | .error e => .error (.read v.path e)
      | .ok content =>
        match guardSource content c with
        | .error e => .error (.parse v.path e)
        | .ok g => .ok (some g)

/-- Whether a source can be read and is valid. -/
def Accepts (t : FileTree) (v : Visit) : Prop :=
  ∃ content p, t.read v = .ok content ∧ Parsed.strict content = .ok p

/-- Whether a source cannot be read or is not valid, and how that is reported. -/
def Fails (t : FileTree) (v : Visit) (e : FileError) : Prop :=
  (∃ cause, t.read v = .error cause ∧ e = .read v.path cause) ∨
    ∃ content cause, t.read v = .ok content ∧ Parsed.strict content = .error cause ∧
      e = .parse v.path cause

/-- The results of some visits, or the first failure. -/
def forecast (t : FileTree) (c : Canonicalizer) : List Visit → Except FileError (List Guarded)
  | [] => .ok []
  | v :: rest =>
    match t.preview c v with
    | .error e => .error e
    | .ok found => (forecast t c rest).map fun results => found.toList ++ results

/-- The Go sources among some visits up to the first failure. -/
def reached (t : FileTree) (c : Canonicalizer) (visits : List Visit) : List Visit :=
  (visits.takeWhile fun v => (t.preview c v).isOk).filter Visit.isSource

variable {t u : FileTree} {c : Canonicalizer} {v : Visit} {visits : List Visit}

/-! ### One visit -/

theorem isSource_iff : v.isSource = true ↔ v.kind = .file ∧ Path.isGoSource v.path = true := by
  rw [Visit.isSource, Bool.and_eq_true, beq_iff_eq]

theorem preview_of_source (h : v.isSource = true) :
    t.preview c v = match t.read v with
      | .error e => .error (.read v.path e)
      | .ok content =>
        match guardSource content c with
        | .error e => .error (.parse v.path e)
        | .ok g => .ok (some g) := by
  obtain ⟨hkind, hgo⟩ := isSource_iff.1 h
  rw [preview, hkind]
  simp only [hgo, Bool.not_true, Bool.false_eq_true, ↓reduceIte]

/-- Only a Go source has a result. -/
theorem preview_of_not_source (h : v.isSource = false) {found : Option Guarded}
    (hok : t.preview c v = .ok found) : found = none := by
  unfold preview at hok
  split at hok
  · exact (Except.ok.inj hok).symm
  · split at hok
    · cases hok
    · exact (Except.ok.inj hok).symm
  · next hkind =>
    rw [if_pos (by simpa [Visit.isSource, hkind] using h)] at hok
    exact (Except.ok.inj hok).symm

theorem isSource_of_preview {g : Guarded} (h : t.preview c v = .ok (some g)) :
    v.isSource = true := by
  by_contra hnot
  cases preview_of_not_source (Bool.eq_false_iff.2 hnot) h

/-- A failure is that of a directory, or of a Go source that cannot be read or is refused. -/
theorem preview_eq_error {e : FileError} (h : t.preview c v = .error e) :
    (v.kind = .directory ∧ ∃ cause, t.entriesOf v = .error cause ∧ e = .walk v.path cause) ∨
      v.isSource = true ∧ t.Fails v e := by
  unfold preview at h
  split at h
  · cases h
  · next hkind =>
    split at h
    · next cause hentries => exact .inl ⟨hkind, cause, hentries, (Except.error.inj h).symm⟩
    · cases h
  · next hkind =>
    split at h
    · cases h
    · next hgo =>
      refine .inr ⟨isSource_iff.2 ⟨hkind, by simpa using hgo⟩, ?_⟩
      split at h
      · next cause hread => exact .inl ⟨cause, hread, (Except.error.inj h).symm⟩
      · next content hread =>
        split at h
        · next cause hguard =>
          exact .inr ⟨content, cause, hread, (guardSource_eq_error_iff _ _ _).1 hguard,
            (Except.error.inj h).symm⟩
        · cases h

theorem not_isSource_of_preview (h : t.preview c v = .ok none) : v.isSource = false := by
  cases hsource : v.isSource with
  | false => rfl
  | true =>
    rw [preview_of_source hsource] at h
    split at h
    · cases h
    · split at h <;> cases h

theorem exists_of_preview_source (h : v.isSource = true) {found : Option Guarded}
    (hok : t.preview c v = .ok found) :
    ∃ content g, t.read v = .ok content ∧ guardSource content c = .ok g ∧ found = some g := by
  rw [preview_of_source h] at hok
  split at hok
  · cases hok
  · next content hread =>
    split at hok
    · cases hok
    · next g hguard => exact ⟨content, g, hread, hguard, (Except.ok.inj hok).symm⟩

/-- What is read at a visit is the content of the file that it has come to, which can be opened. -/
theorem entry?_of_read (h : v.Stands t) (hsource : v.isSource = true) {content : Bytes}
    (hread : t.read v = .ok content) :
    t.unopened v = none ∧
      ∃ executable, t.world.entry? v.spot = some (.file content executable) := by
  obtain ⟨found, executable, hentry⟩ := h.file (isSource_iff.1 hsource).1
  rw [read_of_stands h hentry] at hread
  split at hread
  · cases hread
  · next hopen =>
    rw [Except.ok.injEq] at hread
    exact ⟨hopen, executable, hread ▸ hentry⟩

/-- Whether a visit finds in one tree what it finds in another. -/
def Agrees (t u : FileTree) (v : Visit) : Prop :=
  u.barred = t.barred ∧ u.world.entry? v.spot = t.world.entry? v.spot

theorem Agrees.stands (h : t.Agrees u v) (hv : v.Stands t) : v.Stands u := by
  rw [Visit.Stands, h.2]
  exact hv

/-- What is read at a visit depends on the entry of the visit only. -/
theorem Agrees.read (h : t.Agrees u v) (hv : v.Stands t) : u.read v = t.read v := by
  simp only [FileTree.read, settle_of_stands hv, settle_of_stands (h.stands hv)]
  split
  · rfl
  · next spot hspot =>
    split at hspot
    · cases hspot
    · rw [Except.ok.injEq] at hspot
      rw [← hspot, World.content, World.content, h.2, world_barred_congr h.1]

/-- And so does a preview. -/
theorem Agrees.preview (h : t.Agrees u v) (hv : v.Stands t) :
    u.preview c v = t.preview c v := by
  rw [FileTree.preview, FileTree.preview, h.read hv]
  cases hkind : v.kind with
  | link | file => rfl
  | directory =>
    simp only [entriesOf_of_stands hv hkind, entriesOf_of_stands (h.stands hv) hkind,
      unopened_congr h.1]
    cases t.unopened v <;> rfl

/-! ### Many visits -/

theorem forecast_congr (hstands : ∀ v ∈ visits, v.Stands t)
    (hsame : ∀ v ∈ visits, t.Agrees u v) :
    u.forecast c visits = t.forecast c visits := by
  induction visits with
  | nil => rfl
  | cons v rest ih =>
    obtain ⟨hv, hrest⟩ := List.forall_mem_cons.1 hstands
    obtain ⟨hvsame, hrestsame⟩ := List.forall_mem_cons.1 hsame
    rw [forecast, forecast, hvsame.preview hv, ih hrest hrestsame]

/-- How far a run goes depends on which visits fail. -/
theorem reached_of_isOk_eq (h : ∀ v ∈ visits, (u.preview c v).isOk = (t.preview c v).isOk) :
    u.reached c visits = t.reached c visits := by
  have htake : (visits.takeWhile fun v => (u.preview c v).isOk) =
      visits.takeWhile fun v => (t.preview c v).isOk := by
    induction visits with
    | nil => rfl
    | cons v rest ih =>
      obtain ⟨hv, hrest⟩ := List.forall_mem_cons.1 h
      rw [List.takeWhile_cons, List.takeWhile_cons, hv, ih hrest]
  rw [reached, reached, htake]

theorem reached_congr (hstands : ∀ v ∈ visits, v.Stands t)
    (hsame : ∀ v ∈ visits, t.Agrees u v) : u.reached c visits = t.reached c visits :=
  reached_of_isOk_eq fun v hv => by rw [(hsame v hv).preview (hstands v hv)]

/-- If no visit fails, the forecast has one result for each Go source. -/
theorem forecast_eq_ok {results : List Guarded} (h : t.forecast c visits = .ok results) :
    (∀ v ∈ visits, (t.preview c v).isOk = true) ∧
      List.Forall₂ (fun v g => t.preview c v = .ok (some g)) (visits.filter Visit.isSource)
        results := by
  induction visits generalizing results with
  | nil =>
    rw [forecast, Except.ok.injEq] at h
    subst h
    exact ⟨List.forall_mem_nil _, .nil⟩
  | cons v rest ih =>
    rw [forecast] at h
    split at h
    · cases h
    · next found hpreview =>
      cases hrest : t.forecast c rest with
      | error e =>
        rw [hrest] at h
        cases h
      | ok later =>
        rw [hrest] at h
        obtain rfl : found.toList ++ later = results := Except.ok.inj h
        obtain ⟨hok, hresults⟩ := ih hrest
        refine ⟨List.forall_mem_cons.2 ⟨by rw [hpreview]; rfl, hok⟩, ?_⟩
        cases hsource : v.isSource with
        | true =>
          obtain ⟨content, g, -, -, rfl⟩ := exists_of_preview_source hsource hpreview
          rw [List.filter_cons_of_pos hsource]
          exact .cons hpreview hresults
        | false =>
          rw [preview_of_not_source hsource hpreview, List.filter_cons_of_neg (by simp [hsource])]
          exact hresults

/-- Otherwise the failure is the first. -/
theorem forecast_eq_error {e : FileError} (h : t.forecast c visits = .error e) :
    ∃ before v later, visits = before ++ v :: later ∧
      (∀ u ∈ before, (t.preview c u).isOk = true) ∧ t.preview c v = .error e := by
  induction visits with
  | nil => cases h
  | cons v rest ih =>
    rw [forecast] at h
    split at h
    · next e' hpreview =>
      rw [Except.error.injEq] at h
      exact ⟨[], v, rest, rfl, List.forall_mem_nil _, h ▸ hpreview⟩
    · next found hpreview =>
      cases hrest : t.forecast c rest with
      | ok later =>
        rw [hrest] at h
        cases h
      | error e' =>
        rw [hrest] at h
        obtain rfl : e' = e := Except.error.inj h
        obtain ⟨before, failing, later, rfl, hbefore, hfailing⟩ := ih hrest
        exact ⟨v :: before, failing, later, rfl,
          List.forall_mem_cons.2 ⟨by rw [hpreview]; rfl, hbefore⟩, hfailing⟩

theorem exists_forecast (h : ∀ v ∈ visits, (t.preview c v).isOk = true) :
    ∃ results, t.forecast c visits = .ok results := by
  cases hforecast : t.forecast c visits with
  | ok results => exact ⟨results, rfl⟩
  | error e =>
    obtain ⟨before, v, later, rfl, -, herror⟩ := forecast_eq_error hforecast
    have hv := h v (List.mem_append_right _ List.mem_cons_self)
    rw [herror] at hv
    cases hv

theorem reached_cons (h : (t.preview c v).isOk = true) (visits : List Visit) :
    t.reached c (v :: visits) = [v].filter Visit.isSource ++ t.reached c visits := by
  rw [reached, List.takeWhile_cons, if_pos h, ← List.singleton_append, List.filter_append]
  rfl

theorem reached_subset (t : FileTree) (c : Canonicalizer) (visits : List Visit) :
    t.reached c visits ⊆ visits :=
  fun _ hu => (List.takeWhile_sublist _).subset (List.mem_filter.1 hu).1

theorem reached_of_isOk (h : ∀ v ∈ visits, (t.preview c v).isOk = true) :
    t.reached c visits = visits.filter Visit.isSource := by
  have hall : (visits.takeWhile fun v => (t.preview c v).isOk) = visits := by
    rw [← List.append_nil visits, List.takeWhile_append_of_pos h, List.takeWhile_nil]
  rw [reached, hall]

theorem filter_subset_reached {before later : List Visit}
    (h : ∀ u ∈ before, (t.preview c u).isOk = true) :
    before.filter Visit.isSource ⊆ t.reached c (before ++ later) := by
  rw [reached, List.takeWhile_append_of_pos h, List.filter_append]
  exact List.subset_append_left _ _

theorem reached_of_error {before later : List Visit} {e : FileError}
    (h : ∀ u ∈ before, (t.preview c u).isOk = true) (hv : t.preview c v = .error e) :
    t.reached c (before ++ v :: later) = before.filter Visit.isSource := by
  have hstop : (v :: later).takeWhile (fun v => (t.preview c v).isOk) = [] :=
    List.takeWhile_cons_of_neg (by rw [hv]; simp [Except.isOk, Except.toBool])
  rw [reached, List.takeWhile_append_of_pos h, hstop, List.append_nil]

end FileTree

/-! ## Sweeping with a canonicaliser -/

namespace Sweeper

/-- The sweeper whose formatter is just a function. -/
def ofCanonicalizer (c : Canonicalizer) (dryRun : Bool) : Sweeper :=
  ⟨.ofCanonicalizer c, dryRun⟩

variable {t : FileTree} {c : Canonicalizer} {v : Visit}

/-! ### One file -/

section File

variable (dry : Bool)

theorem guardSpot_eq (c : Canonicalizer) {spot : Spot} {content : Bytes} {executable : Bool}
    (h : t.world.entry? spot = some (.file content executable)) (hopen : t.world.barred spot = none)
    (path : Bytes) :
    ((ofCanonicalizer c dry).guardSpot t path spot).result =
      (match guardSource content c with
        | .error e => .error (.parse path e)
        | .ok g => .ok (g.outcome (!dry))) ∧
    ((ofCanonicalizer c dry).guardSpot t path spot).tree =
      if dry then t else (t.world.refill spot (guardedContent c content)).tree := by
  have hself : t = (t.world.refill spot content).tree := (FileTree.refill_self h).symm
  have hcontent : t.world.content spot = .ok content := by rw [World.content, h, hopen]
  rw [guardSpot, hcontent]
  simp only
  cases hdraft : draft content with
  | error e =>
    have hguard : guardSource content c = .error e := by rw [guardSource, hdraft]
    simp only [hguard, guardedContent, ← hself, ite_self, and_self]
  | ok d =>
    have hguard : guardSource content c = .ok (.ofDraft c d) := by rw [guardSource, hdraft]
    simp only [hguard, guardedContent]
    by_cases hzero : d.insertions = 0
    · simp only [Guarded.ofDraft, if_pos hzero, Guarded.output, Guarded.outcome, ← hself, ite_self,
        and_self]
    · simp only [Guarded.ofDraft, if_neg hzero, Guarded.output, Guarded.outcome, finish,
        ofCanonicalizer, Formatter.ofCanonicalizer, Rendered.of]
      cases dry with
      | true => simp
      | false => simp [store_of_file h]

/-- A file that cannot be read is left as it is. -/
theorem guardVisit_of_unread {w : Sweeper} {cause : OsError} (h : t.read v = .error cause) :
    w.guardVisit t v = ⟨[], t, .error (.read v.path cause)⟩ := by
  rw [FileTree.read] at h
  rw [guardVisit]
  cases hsettle : t.settle v with
  | error e =>
    simp only [hsettle, Except.error.injEq] at h
    simp only [h]
  | ok spot =>
    simp only [hsettle] at h
    simp only [guardSpot, h]

/-- A source that fails is left as it is. -/
theorem guardVisit_of_error (hv : v.Stands t) (hsource : v.isSource = true) {e : FileError}
    (h : t.preview c v = .error e) :
    ((ofCanonicalizer c dry).guardVisit t v).result = .error e ∧
      ((ofCanonicalizer c dry).guardVisit t v).tree = t := by
  obtain ⟨content, executable, hentry⟩ := hv.file (FileTree.isSource_iff.1 hsource).1
  have hread := FileTree.read_of_stands hv hentry
  rw [FileTree.preview_of_source hsource] at h
  cases hopen : t.unopened v with
  | some cause =>
    rw [hopen] at hread
    simp only [hread, Except.error.injEq] at h
    rw [guardVisit_of_unread hread, h]
    exact ⟨rfl, rfl⟩
  | none =>
    rw [hopen] at hread
    obtain ⟨hsettle, hbarred⟩ := FileTree.settle_of_unopened hv hopen
    obtain ⟨hresult, htree⟩ := guardSpot_eq dry c hentry hbarred v.path
    rw [guardVisit, hsettle]
    simp only [hread, hresult, htree, guardedContent] at h ⊢
    cases hguard : guardSource content c with
    | error cause =>
      simp only [hguard, Except.error.injEq] at h
      simp only [FileTree.refill_self hentry, ite_self, h, and_self]
    | ok g =>
      simp only [hguard] at h
      cases h

/-- A source that does not fail has its result, and its new content if files are written. -/
theorem guardVisit_of_ok (hv : v.Stands t) (hsource : v.isSource = true) {g : Guarded}
    (h : t.preview c v = .ok (some g)) :
    ((ofCanonicalizer c dry).guardVisit t v).result = .ok (g.outcome (!dry)) ∧
      ((ofCanonicalizer c dry).guardVisit t v).tree.barred = t.barred ∧
      ∀ s, ((ofCanonicalizer c dry).guardVisit t v).tree.world.entry? s =
        if dry = false ∧ s = v.spot then (t.world.entry? s).map (Entry.guarded c)
        else t.world.entry? s := by
  obtain ⟨content, g', hread, hguard, hg⟩ := FileTree.exists_of_preview_source hsource h
  rw [Option.some.injEq] at hg
  subst hg
  obtain ⟨hopen, executable, hentry⟩ := FileTree.entry?_of_read hv hsource hread
  obtain ⟨hsettle, hbarred⟩ := FileTree.settle_of_unopened hv hopen
  obtain ⟨hresult, htree⟩ := guardSpot_eq dry c hentry hbarred v.path
  rw [guardVisit, hsettle]
  simp only
  rw [hresult, htree, hguard]
  cases dry with
  | true => simp
  | false =>
    simp only [Bool.false_eq_true, if_false, true_and, FileTree.barred_refill]
    intro s
    have hnil : content = [] → guardedContent c content = [] :=
      fun hnil => hnil ▸ guardedContent_nil c
    rw [FileTree.entry?_refill_file hentry hnil]
    split
    · next hs =>
      rw [hs, hentry]
      rfl
    · rfl

end File

/-! ### Many files -/

section Run

variable {dry : Bool}

theorem guardEach_of_error (hv : v.Stands t) {e : FileError} (h : t.preview c v = .error e)
    (totals : Totals) (rest : List Visit) :
    ((ofCanonicalizer c dry).guardEach t totals (v :: rest)).result = .error e ∧
      ((ofCanonicalizer c dry).guardEach t totals (v :: rest)).tree = t := by
  rcases FileTree.preview_eq_error h with ⟨hkind, cause, hentries, rfl⟩ | ⟨hsource, -⟩
  · simp only [guardEach, hkind, hentries, and_self]
  · obtain ⟨hkind, hgo⟩ := FileTree.isSource_iff.1 hsource
    obtain ⟨hresult, htree⟩ := guardVisit_of_error dry hv hsource h
    simp only [guardEach, hkind, hgo, hresult, htree, Bool.not_true, Bool.false_eq_true, if_false,
      and_self]

/-- What is no source and can be passed is passed. -/
theorem guardEach_of_none (h : t.preview c v = .ok none) (totals : Totals) (rest : List Visit) :
    (ofCanonicalizer c dry).guardEach t totals (v :: rest) =
      (ofCanonicalizer c dry).guardEach t totals rest := by
  have hsource := FileTree.not_isSource_of_preview h
  unfold FileTree.preview at h
  rw [guardEach]
  cases hkind : v.kind with
  | link => rfl
  | directory =>
    rw [hkind] at h
    cases hentries : t.entriesOf v with
    | ok entries => rfl
    | error cause =>
      simp only [hentries] at h
      cases h
  | file =>
    have hgo : Path.isGoSource v.path = false := by simpa [Visit.isSource, hkind] using hsource
    simp [hgo]

theorem guardEach_of_some (hv : v.Stands t) (hsource : v.isSource = true) {g : Guarded}
    (h : t.preview c v = .ok (some g)) (totals : Totals) (rest : List Visit) :
    ((ofCanonicalizer c dry).guardEach t totals (v :: rest)).result =
      ((ofCanonicalizer c dry).guardEach ((ofCanonicalizer c dry).guardVisit t v).tree
        (totals.record (g.outcome (!dry))) rest).result ∧
    ((ofCanonicalizer c dry).guardEach t totals (v :: rest)).tree =
      ((ofCanonicalizer c dry).guardEach ((ofCanonicalizer c dry).guardVisit t v).tree
        (totals.record (g.outcome (!dry))) rest).tree := by
  obtain ⟨hkind, hgo⟩ := FileTree.isSource_iff.1 hsource
  obtain ⟨hresult, -⟩ := guardVisit_of_ok dry hv hsource h
  simp only [guardEach, hkind, hgo, hresult, Bool.not_true, Bool.false_eq_true, if_false, and_self]

/-- The visits that are left after a source has been guarded stand as before. -/
theorem stands_after (hv : v.Stands t) (hsource : v.isSource = true) {rest : List Visit}
    (hrest : ∀ u ∈ rest, u.Stands t) :
    ∀ u ∈ rest, u.Stands ((ofCanonicalizer c dry).guardVisit t v).tree := by
  have hshape := sameShape_guardVisit (w := ofCanonicalizer c dry)
    (Formatter.inert_ofCanonicalizer c) hv (FileTree.isSource_iff.1 hsource).1
  exact fun u hu => hshape.stands.2 (hrest u hu)

/-- And they find what they would have found before. -/
theorem agrees_after (hv : v.Stands t) (hsource : v.isSource = true) {g : Guarded}
    (h : t.preview c v = .ok (some g)) {rest : List Visit}
    (hnodup : ((v :: rest).map Visit.spot).Nodup) :
    ∀ u ∈ rest, t.Agrees ((ofCanonicalizer c dry).guardVisit t v).tree u := by
  intro u hu
  obtain ⟨-, hbarred, hentries⟩ := guardVisit_of_ok dry hv hsource h
  refine ⟨hbarred, ?_⟩
  rw [hentries, if_neg]
  rintro ⟨-, hspot⟩
  exact (List.nodup_cons.1 hnodup).1 (List.mem_map.2 ⟨u, hu, hspot⟩)

/-- **The result of a run** over different entries is the forecast on the tree before. -/
theorem guardEach_result {visits : List Visit} (hstands : ∀ v ∈ visits, v.Stands t)
    (hnodup : (visits.map Visit.spot).Nodup) (totals : Totals) :
    ((ofCanonicalizer c dry).guardEach t totals visits).result =
      (t.forecast c visits).map totals.recordAll := by
  induction visits generalizing t totals with
  | nil => rfl
  | cons v rest ih =>
    obtain ⟨hv, hrest⟩ := List.forall_mem_cons.1 hstands
    have hnodup' := (List.nodup_cons.1 hnodup).2
    rw [FileTree.forecast]
    cases hpreview : t.preview c v with
    | error e => exact (guardEach_of_error hv hpreview totals rest).1
    | ok found =>
      cases found with
      | none =>
        rw [guardEach_of_none hpreview, ih hrest hnodup']
        cases t.forecast c rest <;> rfl
      | some g =>
        have hsource := FileTree.isSource_of_preview hpreview
        rw [(guardEach_of_some hv hsource hpreview totals rest).1,
          ih (stands_after hv hsource hrest) hnodup',
          FileTree.forecast_congr hrest (agrees_after hv hsource hpreview hnodup)]
        cases t.forecast c rest with
        | error e => rfl
        | ok results => exact congrArg Except.ok (totals.recordAll_cons (!dry) g results)

/-- **The tree after a run that writes**: the sources that were reached have their new content, and
    all else is as it was. -/
theorem guardEach_entries {visits : List Visit} (hstands : ∀ v ∈ visits, v.Stands t)
    (hnodup : (visits.map Visit.spot).Nodup) (totals : Totals) (s : Spot) :
    ((ofCanonicalizer c false).guardEach t totals visits).tree.world.entry? s =
      if s ∈ (t.reached c visits).map Visit.spot then (t.world.entry? s).map (Entry.guarded c)
      else t.world.entry? s := by
  induction visits generalizing t totals with
  | nil => rfl
  | cons v rest ih =>
    obtain ⟨hv, hrest⟩ := List.forall_mem_cons.1 hstands
    obtain ⟨hfresh, hnodup'⟩ := List.nodup_cons.1 hnodup
    cases hpreview : t.preview c v with
    | error e =>
      have hnone : t.reached c (v :: rest) = [] :=
        FileTree.reached_of_error (List.forall_mem_nil _) hpreview
      rw [(guardEach_of_error hv hpreview totals rest).2, hnone]
      rfl
    | ok found =>
      rw [FileTree.reached_cons (by rw [hpreview]; rfl)]
      cases found with
      | none =>
        have hsource := FileTree.not_isSource_of_preview hpreview
        rw [guardEach_of_none hpreview, ih hrest hnodup',
          List.filter_cons_of_neg (by simp [hsource])]
        rfl
      | some g =>
        have hsource := FileTree.isSource_of_preview hpreview
        rw [(guardEach_of_some hv hsource hpreview totals rest).2,
          ih (stands_after hv hsource hrest) hnodup',
          FileTree.reached_congr hrest (agrees_after hv hsource hpreview hnodup),
          (guardVisit_of_ok _ hv hsource hpreview).2.2, List.filter_cons_of_pos hsource]
        by_cases hs : s = v.spot
        · have hlater : s ∉ (t.reached c rest).map Visit.spot := by
            rw [hs]
            intro hmem
            obtain ⟨u, hu, hspot⟩ := List.mem_map.1 hmem
            exact hfresh (List.mem_map.2 ⟨u, t.reached_subset c rest hu, hspot⟩)
          simp [hs, hs ▸ hlater]
        · simp [hs]

/-- A run does not change what can be opened. -/
theorem guardEach_barred {visits : List Visit} (hstands : ∀ v ∈ visits, v.Stands t)
    (totals : Totals) : ((ofCanonicalizer c dry).guardEach t totals visits).tree.barred = t.barred := by
  induction visits generalizing t totals with
  | nil => rfl
  | cons v rest ih =>
    obtain ⟨hv, hrest⟩ := List.forall_mem_cons.1 hstands
    cases hpreview : t.preview c v with
    | error e => rw [(guardEach_of_error hv hpreview totals rest).2]
    | ok found =>
      cases found with
      | none => rw [guardEach_of_none hpreview, ih hrest]
      | some g =>
        have hsource := FileTree.isSource_of_preview hpreview
        rw [(guardEach_of_some hv hsource hpreview totals rest).2,
          ih (stands_after hv hsource hrest), (guardVisit_of_ok _ hv hsource hpreview).2.1]

/-- A run that does not write leaves the tree as it is. -/
theorem guardEach_dryRun {visits : List Visit} (hstands : ∀ v ∈ visits, v.Stands t)
    (totals : Totals) : ((ofCanonicalizer c true).guardEach t totals visits).tree = t := by
  induction visits generalizing totals with
  | nil => rfl
  | cons v rest ih =>
    obtain ⟨hv, hrest⟩ := List.forall_mem_cons.1 hstands
    cases hpreview : t.preview c v with
    | error e => exact (guardEach_of_error hv hpreview totals rest).2
    | ok found =>
      cases found with
      | none => rw [guardEach_of_none hpreview, ih hrest]
      | some g =>
        have hsource := FileTree.isSource_of_preview hpreview
        have hsame : ((ofCanonicalizer c true).guardVisit t v).tree = t :=
          FileTree.ext_entries (fun s => by simp [(guardVisit_of_ok _ hv hsource hpreview).2.2])
            (guardVisit_of_ok _ hv hsource hpreview).2.1
        rw [(guardEach_of_some hv hsource hpreview totals rest).2, hsame, ih hrest]

end Run

/-! ## Whole sweeps -/

/-- A sweep is a run over the whole walk: its steps are always enough. -/
theorem guardTree_eq {w : Sweeper} (hw : w.formatter.Inert) (t : FileTree) (root : Bytes) :
    w.guardTree t root = match t.visits root with
      | .error e => ⟨[], t, .error (.walk root e)⟩
      | .ok visits => w.guardEach t .zero visits := by
  unfold guardTree FileTree.visits
  cases hstart : t.start root with
  | error e => rfl
  | ok v =>
    obtain ⟨-, hv, -⟩ := FileTree.start_eq_ok hstart
    have hone : [v].flatMap t.itinerary = t.itinerary v := by simp
    refine (guardAll_eq_guardEach hw _ _ [v] (by simpa using hv) ?_).trans (by rw [hone])
    rw [hone]
    have hlength := t.length_itinerary_le v
    have hsystem := System.length_tree_le
    unfold growth
    omega

/-- The visits of a walk stand, at different spots. -/
theorem visits_stand {t : FileTree} {root : Bytes} {visits : List Visit}
    (h : t.visits root = .ok visits) :
    (∀ v ∈ visits, v.Stands t) ∧ (visits.map Visit.spot).Nodup := by
  obtain ⟨v, hstart, rfl⟩ := FileTree.visits_eq_ok_iff.1 h
  obtain ⟨-, hv, -⟩ := FileTree.start_eq_ok hstart
  exact ⟨FileTree.stands_of_mem_itinerary hv, t.itinerary_spots_nodup v⟩

end Sweeper

end SyscallGuard
