import SyscallGuard.Proofs.Coordinates
import SyscallGuard.Proofs.Edits
import SyscallGuard.Proofs.Trail

set_option autoImplicit false

/-! # The events of a sweep

Three parts of a sweep have something to log: the injector for each site, the formatter if it fails,
and the sweep itself for each source that it is done with. The totals are kept apart from all of
this. Here they are read off the events again.

A source has a log of its own (`Sweeper.Logs`): one event for each site, perhaps a warning, and the
event for what the source came to. What such a log adds up to is what the totals record for the
source (`Logs.logged`). The events of a sweep are the logs of its sources in turn
(`guardAll_accounts`), and so the totals can be counted in them (`guardTree_events`). -/

namespace SyscallGuard

/-! ## What events say -/

namespace Event

/-- Whether an event is logged at a level, with a message and some values. -/
def Reads (e : Event) (level : Level) (message : String) (fields : List (String × Value)) : Prop :=
  e.level = level ∧ e.message = message ∧ e.fields = fields

/-- Whether an event says of a site that it was given a guard, or that it had one. A site whose line
    does not exist has neither. -/
def Tells (e : Event) : Site × Outcome → Prop
  | (s, .inserted index) => e.Reads .trace "inserted guard"
      [("line", .number s.position.line), ("index", .number index),
        ("primitive", .quoted s.primitive.name)]
  | (s, .alreadyGuarded) => e.Reads .debug "site already guarded"
      [("line", .number s.position.line), ("primitive", .quoted s.primitive.name)]
  | (_, .outOfBounds) => False

/-- Whether an event says of a source that it was given some guards, or would have been. -/
def Closes (e : Event) (path : Bytes) (insertions : Nat) (dryRun : Bool) : Prop :=
  e.Reads .info (if dryRun then "would insert syscall guards" else "inserted syscall guards")
    [("path", .bare (Utf8.display path)), ("insertions", .number insertions)]

/-- The number that an event gives under a name. -/
def number (e : Event) (name : String) : Nat :=
  match e.fields.lookup name with
  | some (.number n) => n
  | _ => 0

/-- The insertions that events of the level `info` report. -/
def insertions (events : List Event) : Nat :=
  ((events.filter fun e => e.level = .info).map fun e => e.number "insertions").sum

theorem tells_ofOutcome {o : Site × Outcome} (h : o.2 ≠ .outOfBounds) : (ofOutcome o).Tells o := by
  obtain ⟨s, outcome⟩ := o
  cases outcome with
  | inserted index => exact ⟨rfl, rfl, rfl⟩
  | alreadyGuarded => exact ⟨rfl, rfl, rfl⟩
  | outOfBounds => exact absurd rfl h

/-- Whether an event counts for no total. -/
def Silent (e : Event) : Prop := e.level ≠ .info ∧ e.level ≠ .warn ∧ e.message ≠ "no guards needed"

variable {e : Event} {o : Site × Outcome}

theorem Tells.silent (h : e.Tells o) : e.Silent := by
  obtain ⟨s, outcome⟩ := o
  cases outcome with
  | inserted index | alreadyGuarded =>
    obtain ⟨hlevel, hmessage, -⟩ := h
    rw [Silent, hlevel, hmessage]
    decide
  | outOfBounds => exact h.elim

theorem Tells.level_eq_trace_iff (h : e.Tells o) : e.level = .trace ↔ o.2.isInserted = true := by
  obtain ⟨s, outcome⟩ := o
  cases outcome with
  | inserted index => simp [h.1, Outcome.isInserted]
  | alreadyGuarded => simp [h.1, Outcome.isInserted]
  | outOfBounds => exact h.elim

theorem silent_of_tells {events : List Event} {outcomes : List (Site × Outcome)}
    (h : List.Forall₂ Tells events outcomes) : ∀ e ∈ events, e.Silent := by
  induction h with
  | nil => exact List.forall_mem_nil _
  | cons h _ ih => exact List.forall_mem_cons.2 ⟨h.silent, ih⟩

theorem countP_trace_of_tells {events : List Event} {outcomes : List (Site × Outcome)}
    (h : List.Forall₂ Tells events outcomes) :
    events.countP (fun e => e.level = .trace) = outcomes.countP fun o => o.2.isInserted := by
  induction h with
  | nil => rfl
  | cons h _ ih => simp only [List.countP_cons, ih, h.level_eq_trace_iff, decide_eq_true_eq]

theorem insertions_append (a b : List Event) :
    insertions (a ++ b) = insertions a + insertions b := by
  rw [insertions, List.filter_append, List.map_append, List.sum_append]
  rfl

end Event

/-! ## Totals -/

namespace Totals

/-- The totals after some more events. -/
def logged (t : Totals) (events : List Event) : Totals where
  visited := t.visited + (events.countP (fun e => e.level = .info)
    + events.countP fun e => e.message = "no guards needed")
  guarded := t.guarded + events.countP fun e => e.level = .info
  insertions := t.insertions + Event.insertions events
  unformatted := t.unformatted + events.countP fun e => e.level = .warn

theorem logged_append (t : Totals) (a b : List Event) :
    t.logged (a ++ b) = (t.logged a).logged b := by
  simp only [logged, List.countP_append, Event.insertions_append, mk.injEq]
  omega

theorem logged_of_silent (t : Totals) {events : List Event} (h : ∀ e ∈ events, e.Silent) :
    t.logged events = t := by
  induction events with
  | nil => rfl
  | cons e rest ih =>
    obtain ⟨⟨hinfo, hwarn, hidle⟩, hrest⟩ := List.forall_mem_cons.1 h
    have hone : t.logged [e] = t := by simp [logged, Event.insertions, hinfo, hwarn, hidle]
    rw [← List.singleton_append, logged_append, hone, ih hrest]

theorem visited_record (t : Totals) (outcome : FileOutcome) :
    (t.record outcome).visited = t.visited + 1 := by
  cases outcome <;> rfl

variable {e : Event} {message : String}

theorem logged_idle (t : Totals) {fields : List (String × Value)}
    (h : e.Reads .debug "no guards needed" fields) : t.logged [e] = t.record .unchanged := by
  obtain ⟨hlevel, hmessage, -⟩ := h
  simp [logged, record, Event.insertions, hlevel, hmessage]

theorem logged_warning (t : Totals) {fields : List (String × Value)}
    (h : e.Reads .warn message fields) (hidle : message ≠ "no guards needed") :
    t.logged [e] = { t with unformatted := t.unformatted + 1 } := by
  obtain ⟨hlevel, hmessage, -⟩ := h
  simp [logged, Event.insertions, hlevel, hmessage, hidle]

theorem logged_guarded (t : Totals) {path : Bytes} {n : Nat} {dryRun : Bool}
    (h : e.Closes path n dryRun) (written : Bool) :
    t.logged [e] = t.record (.guarded n true written) := by
  obtain ⟨hlevel, hmessage, hfields⟩ := h
  have hidle : e.message ≠ "no guards needed" := by
    rw [hmessage]
    cases dryRun <;> decide
  have hnumber : e.number "insertions" = n := by
    rw [Event.number, hfields]
    rfl
  simp [logged, record, Event.insertions, hlevel, hidle, hnumber]

end Totals

/-! ## The log of a source -/

/-- A site of a valid source is not out of bounds. -/
theorem Parsed.ne_outOfBounds_of_strict {source : Bytes} {p : Parsed}
    (h : strict source = .ok p) :
    ∀ o ∈ (injectGuards source p.sites).outcomes, o.2 ≠ .outOfBounds := by
  obtain ⟨hrange, horder⟩ := sites_of_strict h
  rw [injectGuards_tracks (fun s hs => (hrange s hs).1) horder]
  exact OnePass.ne_outOfBounds_of_mem_outcomes [] fun s hs => (hrange s hs).2

namespace Sweeper

/-- Whether some events tell of all sites of the source that a walk has come to, in order. -/
structure Told (t : FileTree) (v : Visit) (content : Bytes) (p : Parsed) (told : List Event) :
    Prop where
  read : t.read v = .ok content
  parsed : Parsed.strict content = .ok p
  sites : (injectGuards content p.sites).outcomes.map Prod.fst = p.sites
  tells : List.Forall₂ Event.Tells told (injectGuards content p.sites).outcomes

/-- Whether some events are the log of the source that a walk has come to, given its outcome. -/
inductive Logs (w : Sweeper) (t : FileTree) (v : Visit) : FileOutcome → List Event → Prop
  | unchanged {content : Bytes} {p : Parsed} {told : List Event} {last : Event}
      (htold : Told t v content p told)
      (hnone : (injectGuards content p.sites).insertions = 0)
      (hlast : last.Reads .debug "no guards needed"
        [("path", .bare (Utf8.display v.path)), ("sites", .number p.sites.length)]) :
      Logs w t v .unchanged (told ++ [last])
  | formatted {content bytes : Bytes} {p : Parsed} {told : List Event} {last : Event}
      (htold : Told t v content p told)
      (hsome : (injectGuards content p.sites).insertions ≠ 0)
      (hformat : (w.formatter.run t (injectGuards content p.sites).output).1 = .ok bytes)
      (hlast : last.Closes v.path (injectGuards content p.sites).insertions w.dryRun) :
      Logs w t v (.guarded (injectGuards content p.sites).insertions true (!w.dryRun))
        (told ++ [last])
  | unformatted {content : Bytes} {p : Parsed} {told : List Event} {warning last : Event}
      {reason : FormatError}
      (htold : Told t v content p told)
      (hsome : (injectGuards content p.sites).insertions ≠ 0)
      (hformat : (w.formatter.run t (injectGuards content p.sites).output).1 = .error reason)
      (hwarning : warning.Reads .warn "formatting failed; writing unformatted source"
        [("path", .bare (Utf8.display v.path)), ("error", .bare reason.text)])
      (hlast : last.Closes v.path (injectGuards content p.sites).insertions w.dryRun) :
      Logs w t v (.guarded (injectGuards content p.sites).insertions false (!w.dryRun))
        (told ++ [warning, last])

variable {w : Sweeper} {t : FileTree} {v : Visit} {outcome : FileOutcome} {log : List Event}

/-- What is told of the sites counts for no total. -/
theorem Told.logged {content : Bytes} {p : Parsed} {told : List Event} (h : Told t v content p told)
    (totals : Totals) (rest : List Event) : totals.logged (told ++ rest) = totals.logged rest := by
  rw [Totals.logged_append, totals.logged_of_silent (Event.silent_of_tells h.tells)]

/-- **What a log adds up to** is what the totals record for its source. -/
theorem Logs.logged (h : w.Logs t v outcome log) (totals : Totals) :
    totals.logged log = totals.record outcome := by
  cases h with
  | unchanged htold hnone hlast => rw [htold.logged, totals.logged_idle hlast]
  | formatted htold hsome hformat hlast => rw [htold.logged, totals.logged_guarded hlast]
  | unformatted htold hsome hformat hwarning hlast =>
    rw [htold.logged, ← List.singleton_append, Totals.logged_append,
      totals.logged_warning hwarning (by decide), Totals.logged_guarded _ hlast (!w.dryRun)]
    rfl

/-- A guard that is inserted is told of once at its site. -/
theorem Told.traced {content : Bytes} {p : Parsed} {told : List Event} (h : Told t v content p told) :
    told.countP (fun e => e.level = .trace) = (injectGuards content p.sites).insertions :=
  (Event.countP_trace_of_tells h.tells).trans (edits_injectAll content p.sites).insertions_eq.symm

/-- The guards that are told of at their sites are those that the last event counts. -/
theorem Logs.traced (h : w.Logs t v outcome log) :
    log.countP (fun e => e.level = .trace) = Event.insertions log := by
  -- the insertions that the log reports are the ones that are recorded
  have hlogged : Event.insertions log = (Totals.zero.record outcome).insertions := by
    rw [← h.logged .zero]
    exact (Nat.zero_add _).symm
  rw [hlogged]
  cases h with
  | unchanged htold hnone hlast =>
    rw [List.countP_append, htold.traced, hnone]
    simp [hlast.1, Totals.record, Totals.zero]
  | formatted htold hsome hformat hlast =>
    rw [List.countP_append, htold.traced]
    simp [hlast.1, Totals.record, Totals.zero]
  | unformatted htold hsome hformat hwarning hlast =>
    rw [List.countP_append, htold.traced]
    simp [hwarning.1, hlast.1, Totals.record, Totals.zero]

/-- A source that is done with could be read and is valid. -/
theorem exists_of_guardVisit (h : (w.guardVisit t v).result = .ok outcome) :
    ∃ content p spot, t.read v = .ok content ∧ Parsed.strict content = .ok p ∧
      w.guardVisit t v =
        let d := injectGuards content p.sites
        if d.insertions = 0 then
          ⟨d.outcomes.map Event.ofOutcome ++ [.unchanged v.path d.sites], t, .ok .unchanged⟩
        else w.finish t v.path spot d := by
  unfold guardVisit at h ⊢
  cases hsettle : t.settle v with
  | error e =>
    rw [hsettle] at h
    cases h
  | ok spot =>
    rw [hsettle] at h
    unfold guardSpot draft at h ⊢
    cases hcontent : t.world.content spot with
    | error e =>
      simp only [hcontent] at h
      cases h
    | ok content =>
      cases hp : Parsed.strict content with
      | error e =>
        simp only [hcontent, hp] at h
        cases h
      | ok p =>
        refine ⟨content, p, spot, ?_, hp, ?_⟩
        · rw [FileTree.read, hsettle]
          exact hcontent
        · simp only [hcontent, hp, Parsed.source_of_strict hp]

/-- What is logged of a source that was given guards and, if need be, written. -/
theorem finish_of_ok {path : Bytes} {spot : Spot} {d : Injected}
    (h : (w.finish t path spot d).result = .ok outcome) :
    let rendered := Rendered.ofResult d.output (w.formatter.run t d.output).1
    outcome = .guarded d.insertions rendered.formatError?.isNone (!w.dryRun) ∧
      (w.finish t path spot d).events = d.outcomes.map Event.ofOutcome ++
        (formatEvents path rendered ++ [.guarded path d.insertions w.dryRun]) := by
  intro rendered
  unfold finish at h ⊢
  cases hdry : w.dryRun with
  | true =>
    simp only [hdry] at h ⊢
    exact ⟨(Except.ok.inj h).symm, List.append_assoc ..⟩
  | false =>
    simp only [hdry, Bool.false_eq_true, if_false] at h ⊢
    split at h
    · cases h
    · exact ⟨(Except.ok.inj h).symm, List.append_assoc ..⟩

theorem told_of_strict {content : Bytes} {p : Parsed} (hread : t.read v = .ok content)
    (hp : Parsed.strict content = .ok p) :
    Told t v content p ((injectGuards content p.sites).outcomes.map Event.ofOutcome) where
  read := hread
  parsed := hp
  sites := Injector.map_fst_injectAll (.start content) p.sites
  tells := by
    rw [List.forall₂_map_left_iff, List.forall₂_same]
    intro o ho
    exact Event.tells_ofOutcome (Parsed.ne_outOfBounds_of_strict hp o ho)

/-- **Each source has its log**, provided that nothing fails. -/
theorem logs_of_guardVisit (h : (w.guardVisit t v).result = .ok outcome) :
    w.Logs t v outcome (w.guardVisit t v).events := by
  obtain ⟨content, p, spot, hread, hp, hvisit⟩ := exists_of_guardVisit h
  have htold := told_of_strict hread hp
  rw [hvisit] at h ⊢
  by_cases hnone : (injectGuards content p.sites).insertions = 0
  · simp only [if_pos hnone] at h ⊢
    obtain rfl := Except.ok.inj h
    exact .unchanged htold hnone ⟨rfl, rfl, by rw [← Injected.sites_injectGuards content p.sites]; rfl⟩
  · simp only [if_neg hnone] at h ⊢
    obtain ⟨houtcome, hevents⟩ := finish_of_ok h
    have hdone : (Event.guarded v.path (injectGuards content p.sites).insertions w.dryRun).Closes
        v.path (injectGuards content p.sites).insertions w.dryRun := by
      cases w.dryRun <;> exact ⟨rfl, rfl, rfl⟩
    rw [hevents, houtcome]
    cases hformat : (w.formatter.run t (injectGuards content p.sites).output).1 with
    | ok bytes => exact .formatted htold hnone hformat hdone
    | error reason => exact .unformatted htold hnone hformat ⟨rfl, rfl, rfl⟩ hdone

/-! ## The logs of a sweep -/

/-- The tree after some sources have been guarded in turn. -/
def treeAfter (w : Sweeper) (t : FileTree) (sources : List Visit) : FileTree :=
  sources.foldl (fun t v => (w.guardVisit t v).tree) t

/-- Whether the events of a sweep account for its totals: they are the logs of its sources in turn,
    each for the tree that the sweep finds when it comes to the source, and the totals are read off
    them. -/
structure Accounts (w : Sweeper) (t : FileTree) (before : Totals) (sources : List Visit)
    (events : List Event) (totals : Totals) : Prop where
  logs : ∃ logs : List (List Event), events = logs.flatten ∧ logs.length = sources.length ∧
    ∀ i v, sources[i]? = some v → ∃ outcome log, logs[i]? = some log ∧
      (w.guardVisit (w.treeAfter t (sources.take i)) v).result = .ok outcome ∧
      w.Logs (w.treeAfter t (sources.take i)) v outcome log
  logged : totals = before.logged events
  traced : events.countP (fun e => e.level = .trace) = Event.insertions events
  visited : totals.visited = before.visited + sources.length

variable {before totals : Totals} {visits : List Visit}

theorem Accounts.nil (w : Sweeper) (t : FileTree) (totals : Totals) :
    w.Accounts t totals [] [] totals :=
  ⟨⟨[], rfl, rfl, by simp⟩, rfl, rfl, rfl⟩

/-- One more source in front adds its log. -/
theorem Accounts.cons {rest : List Visit} {events : List Event}
    (hfirst : (w.guardVisit t v).result = .ok outcome)
    (hrest : w.Accounts (w.guardVisit t v).tree (before.record outcome) rest events totals) :
    w.Accounts t before (v :: rest) ((w.guardVisit t v).events ++ events) totals := by
  have hlog := logs_of_guardVisit hfirst
  obtain ⟨⟨logs, hflatten, hlength, hlogs⟩, hlogged, htraced, hvisited⟩ := hrest
  refine ⟨⟨(w.guardVisit t v).events :: logs, ?_, ?_, ?_⟩, ?_, ?_, ?_⟩
  · rw [hflatten, List.flatten_cons]
  · rw [List.length_cons, List.length_cons, hlength]
  · intro i u hu
    cases i with
    | zero =>
      obtain rfl : v = u := by simpa using hu
      exact ⟨outcome, _, rfl, hfirst, hlog⟩
    | succ i => exact hlogs i u (by simpa using hu)
  · rw [hlogged, Totals.logged_append, hlog.logged]
  · rw [List.countP_append, Event.insertions_append, hlog.traced, htraced]
  · rw [hvisited, Totals.visited_record, List.length_cons]
    omega

/-- **The events of a sweep** that does not fail account for its totals. -/
theorem guardAll_accounts {fuel : Nat}
    (h : (w.guardAll fuel t before visits).result = .ok totals) :
    w.Accounts t before (w.trailAll fuel t visits) (w.guardAll fuel t before visits).events
      totals := by
  -- a source is one step of the accounts, anything else on the stack is none
  induction fuel generalizing t before visits with
  | zero =>
    cases visits with
    | nil => exact Except.ok.inj h ▸ .nil w t before
    | cons v rest => cases h
  | succ fuel ih =>
    cases visits with
    | nil => exact Except.ok.inj h ▸ .nil w t before
    | cons v rest =>
      cases hkind : v.kind with
      | link =>
        simp only [guardAll, trailAll, hkind] at h ⊢
        exact ih h
      | directory =>
        simp only [guardAll, trailAll, hkind] at h ⊢
        cases hentries : t.entriesOf v with
        | error cause =>
          rw [hentries] at h
          cases h
        | ok entries =>
          rw [hentries] at h
          exact ih h
      | file =>
        cases hgo : Path.isGoSource v.path with
        | false =>
          simp only [guardAll, trailAll, hkind, hgo, Bool.not_false, if_true] at h ⊢
          exact ih h
        | true =>
          simp only [guardAll, trailAll, hkind, hgo, Bool.not_true, Bool.false_eq_true, if_false]
            at h ⊢
          cases hfirst : (w.guardVisit t v).result with
          | error e =>
            rw [hfirst] at h
            cases h
          | ok outcome =>
            rw [hfirst] at h
            exact .cons hfirst (ih h)

/-! ## What a sweep finds -/

/-- A run that does not fail has visited all sources. -/
theorem visited_of_guardEach (h : (w.guardEach t before visits).result = .ok totals) :
    totals.visited = before.visited + (visits.filter Visit.isSource).length := by
  induction visits generalizing t before with
  | nil => exact Except.ok.inj h ▸ rfl
  | cons v rest ih =>
    cases hkind : v.kind with
    | link =>
      simp only [guardEach, hkind] at h
      rw [ih h, List.filter_cons_of_neg (by simp [Visit.isSource, hkind])]
    | directory =>
      simp only [guardEach, hkind] at h
      split at h
      · cases h
      · rw [ih h, List.filter_cons_of_neg (by simp [Visit.isSource, hkind])]
    | file =>
      cases hgo : Path.isGoSource v.path with
      | false =>
        simp only [guardEach, hkind, hgo, Bool.not_false, if_true] at h
        rw [ih h, List.filter_cons_of_neg (by simp [Visit.isSource, hgo])]
      | true =>
        simp only [guardEach, hkind, hgo, Bool.not_true, Bool.false_eq_true, if_false] at h
        split at h
        · cases h
        · next outcome _ =>
          rw [ih h, Totals.visited_record,
            List.filter_cons_of_pos (FileTree.isSource_iff.2 ⟨hkind, hgo⟩), List.length_cons]
          omega

/-- If nothing fails and the formatter leaves the tree alone, the trail is the whole walk. -/
theorem isWalk_trail (hw : w.formatter.Inert) {root : Bytes}
    (h : (w.guardTree t root).result = .ok totals)
    (hvisited : totals.visited = (w.trail t root).length) : t.IsWalk root (w.trail t root) := by
  rw [guardTree_eq hw] at h
  cases hvisits : t.visits root with
  | error e =>
    rw [hvisits] at h
    cases h
  | ok visits =>
    rw [hvisits] at h
    -- the trail is the beginning of the walk, and it is as long
    have hlength : (w.trail t root).length = (visits.filter Visit.isSource).length := by
      rw [← hvisited, visited_of_guardEach h]
      exact Nat.zero_add _
    rw [(trail_isPrefix hw hvisits).eq_of_length hlength]
    exact FileTree.isWalk_of_goSources (FileTree.goSources_of_visits hvisits)

/-- Guarding a source leaves all other entries as they are. -/
theorem entry?_guardVisit_of_ne (hw : w.formatter.Inert) (hv : v.Stands t) (hkind : v.kind = .file)
    {s : Spot} (hs : s ≠ v.spot) :
    (w.guardVisit t v).tree.world.entry? s = t.world.entry? s := by
  obtain ⟨content, executable, hentry⟩ := hv.file hkind
  rw [guardVisit, FileTree.settle_of_stands hv]
  split
  · rfl
  · next spot hspot =>
    obtain rfl : v.spot = spot := by
      split at hspot
      · cases hspot
      · exact Except.ok.inj hspot
    unfold guardSpot
    split
    · rfl
    · split
      · rfl
      · next d _ =>
        split
        · rfl
        · simp only [finish, hw t d.output]
          split
          · rfl
          · rw [store_of_file hentry]
            exact FileTree.entry?_refill_of_ne hentry hs _

theorem entry?_treeAfter (hw : w.formatter.Inert) {front : List Visit}
    (hfront : ∀ u ∈ front, u.Stands t ∧ u.kind = .file) {s : Spot} (hs : s ∉ front.map Visit.spot) :
    (w.treeAfter t front).world.entry? s = t.world.entry? s := by
  induction front generalizing t with
  | nil => rfl
  | cons v rest ih =>
    obtain ⟨⟨hv, hkind⟩, hrest⟩ := List.forall_mem_cons.1 hfront
    rw [List.map_cons, List.mem_cons, not_or] at hs
    have hshape := sameShape_guardVisit hw hv hkind
    exact (ih (fun u hu => ⟨hshape.stands.2 (hrest u hu).1, (hrest u hu).2⟩) hs.2).trans
      (entry?_guardVisit_of_ne hw hv hkind hs.1)

theorem barred_treeAfter (hw : w.formatter.Inert) {front : List Visit}
    (hfront : ∀ u ∈ front, u.Stands t ∧ u.kind = .file) :
    (w.treeAfter t front).barred = t.barred := by
  induction front generalizing t with
  | nil => rfl
  | cons v rest ih =>
    obtain ⟨⟨hv, hkind⟩, hrest⟩ := List.forall_mem_cons.1 hfront
    have hshape := sameShape_guardVisit hw hv hkind
    exact (ih fun u hu => ⟨hshape.stands.2 (hrest u hu).1, (hrest u hu).2⟩).trans hshape.barred

/-- What a sweep reads of a source is what was there before it began. -/
theorem read_treeAfter (hw : w.formatter.Inert) {root : Bytes} {sources : List Visit}
    (hwalk : t.IsWalk root sources) {i : Nat} (hi : sources[i]? = some v) :
    (w.treeAfter t (sources.take i)).read v = t.read v := by
  have hfile : ∀ u ∈ sources, u.Stands t ∧ u.kind = .file := by
    intro u hu
    obtain ⟨names, content, executable, -, hentry, -, hsame⟩ := (hwalk.mem u).1 hu
    have hkind : u.kind = .file := congrArg Visit.kind hsame
    exact ⟨.of_entry hentry hkind.symm, hkind⟩
  -- a walk comes to a file once, so no source before this one has changed it
  have hfresh : v.spot ∉ (sources.take i).map Visit.spot := by
    obtain ⟨hlt, rfl⟩ := List.getElem?_eq_some_iff.1 hi
    have honce := hwalk.once
    rw [← List.take_append_drop i sources, List.drop_eq_getElem_cons hlt, List.map_append,
      List.map_cons, List.nodup_append] at honce
    exact fun hmem => honce.2.2 _ hmem _ List.mem_cons_self rfl
  have hfront : ∀ u ∈ sources.take i, u.Stands t ∧ u.kind = .file :=
    fun u hu => hfile u (List.mem_of_mem_take hu)
  exact FileTree.Agrees.read ⟨barred_treeAfter hw hfront, entry?_treeAfter hw hfront hfresh⟩
    (hfile v (List.mem_of_getElem? hi)).1

/-- **What the events of a sweep add up to**, if it does not fail, be it a dry run or not. They are
    the logs of the sources of the trail in turn, each for the tree that the sweep finds at its
    source: one event for each site, in order, and one or two for the source. Counted over the
    whole sweep they give each of the totals, the insertions twice. If the formatter leaves the tree
    alone, these sources are the whole walk, and what is found at them is what was there before. -/
theorem guardTree_events (w : Sweeper) (t : FileTree) (root : Bytes) {totals : Totals}
    (h : (w.guardTree t root).result = .ok totals) :
    let events := (w.guardTree t root).events
    let sources := w.trail t root
    (∃ logs : List (List Event), events = logs.flatten ∧ logs.length = sources.length ∧
      ∀ i v, sources[i]? = some v → ∃ outcome log, logs[i]? = some log ∧
        (w.guardVisit (w.treeAfter t (sources.take i)) v).result = .ok outcome ∧
        w.Logs (w.treeAfter t (sources.take i)) v outcome log) ∧
    events.countP (fun e => e.level = .info) = totals.guarded ∧
    ((events.filter fun e => e.level = .info).map fun e => e.number "insertions").sum =
      totals.insertions ∧
    events.countP (fun e => e.level = .warn) = totals.unformatted ∧
    events.countP (fun e => e.level = .trace) = totals.insertions ∧
    events.countP (fun e => e.level = .info)
      + events.countP (fun e => e.message = "no guards needed") = totals.visited ∧
    sources.length = totals.visited ∧
    (w.formatter.Inert → t.IsWalk root sources ∧
      ∀ i v, sources[i]? = some v →
        (w.treeAfter t (sources.take i)).read v = t.read v) := by
  intro events sources
  have haccounts : w.Accounts t .zero sources events totals := by
    unfold sources events trail
    unfold guardTree at h ⊢
    cases hstart : t.start root with
    | error e =>
      rw [hstart] at h
      cases h
    | ok v =>
      rw [hstart] at h
      exact guardAll_accounts h
  obtain ⟨hlogs, hlogged, htraced, hvisited⟩ := haccounts
  have hlength : totals.visited = sources.length := hvisited.trans (Nat.zero_add _)
  have hguarded := congrArg Totals.guarded hlogged
  have hinsertions := congrArg Totals.insertions hlogged
  have hunformatted := congrArg Totals.unformatted hlogged
  have hsum := congrArg Totals.visited hlogged
  simp only [Totals.logged, Totals.zero, Nat.zero_add] at hguarded hinsertions hunformatted hsum
  refine ⟨hlogs, hguarded.symm, hinsertions.symm, hunformatted.symm,
    htraced.trans hinsertions.symm, hsum.symm, hlength.symm, fun hw => ?_⟩
  have hwalk := isWalk_trail hw h hlength
  exact ⟨hwalk, fun i v hi => read_treeAfter hw hwalk hi⟩

/-- Two sources that cannot be formatted have a warning each, and the third one is left as it is. -/
theorem guardTree_events_sample :
    let w := ofCanonicalizer .reject false
    let events := (w.guardTree (sample []) Path.here).events
    (w.guardTree (sample []) Path.here).result = .ok ⟨3, 2, 2, 2⟩ ∧
      events.countP (fun e => e.level = .info) = 2 ∧
      events.countP (fun e => e.level = .warn) = 2 ∧
      events.countP (fun e => e.level = .trace) = 2 ∧
      events.countP (fun e => e.message = "no guards needed") = 1 ∧
      (sample []).IsWalk Path.here (w.trail (sample []) Path.here) := by
  intro w events
  have hsample := sample_totals
  cases hresult : (w.guardTree (sample []) Path.here).result with
  | error e =>
    rw [hresult] at hsample
    cases hsample
  | ok totals =>
    rw [hresult] at hsample
    obtain rfl : totals = ⟨3, 2, 2, 2⟩ := Option.some.inj hsample
    obtain ⟨-, hinfo, -, hwarn, htrace, hvisited, -, hwalk⟩ :=
      guardTree_events w (sample []) Path.here hresult
    refine ⟨rfl, hinfo, hwarn, htrace, ?_, (hwalk (Formatter.inert_ofCanonicalizer _)).1⟩
    rw [hinfo] at hvisited
    exact Nat.add_left_cancel hvisited

end Sweeper

end SyscallGuard
