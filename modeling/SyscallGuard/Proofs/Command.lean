import Mathlib.Logic.Relation
import SyscallGuard.Proofs.Itinerary
import SyscallGuard.Proofs.Summary

set_option autoImplicit false

/-! # What a run of the command leaves behind

A run has four ends: its arguments are refused, a request for information is answered, its job fails,
or its job is done. The exit status, the two outputs and the tree are told here for each of them
(`run_effects`). Three kinds of failure are left once the arguments have been read, and `Job.Fails`
says when each comes: an invalid filter before anything is done to the tree, a file that cannot be
guarded after some have been, and a summary that cannot be written after all of them have been.

A dry run writes nothing itself, but it runs the formatter, to see whether sources can be formatted.
So all that can have happened to the tree is what the formatter has done to it
(`Sweeper.guardTree_rehearsed`). -/

namespace SyscallGuard

/-! ## Formatters and the tree -/

namespace Formatter

/-- Whether a formatter leaves one tree as another when it is run once. -/
def Leaves (f : Formatter) (t u : FileTree) : Prop := ∃ source, (f.run t source).2 = u

/-- Whether a formatter can format everything. -/
def Succeeds (f : Formatter) : Prop := ∀ t source, ∃ output, (f.run t source).1 = .ok output

variable {f : Formatter} {t u : FileTree}

/-- However often it is run, a formatter that leaves trees as they are does so. -/
theorem Inert.eq_of_leaves (hf : f.Inert) (h : Relation.ReflTransGen f.Leaves t u) : u = t := by
  induction h with
  | refl => rfl
  | tail _ hlast ih =>
    obtain ⟨source, rfl⟩ := hlast
    rw [hf, ih]

theorem inert_ofProgram {h : Host} {program : Bytes}
    (hprogram : ∀ t input, (h.run t program input).2 = t) : (ofProgram h program).Inert := by
  intro t source
  simp only [ofProgram]
  generalize Parsed.strict source = parsed
  cases parsed with
  | error cause => rfl
  | ok p => exact hprogram t source

theorem succeeds_verbatim : (ofCanonicalizer .verbatim).Succeeds :=
  fun _ source => ⟨source, rfl⟩

end Formatter

namespace Sweeper

variable {w : Sweeper}

/-! ## Dry runs -/

section DryRun

variable (hdry : w.dryRun = true)
include hdry

theorem finish_rehearsed (t : FileTree) (path : Bytes) (spot : Spot) (d : Injected) :
    (w.finish t path spot d).tree = (w.formatter.run t d.output).2 := by
  simp only [finish, hdry, ↓reduceIte]

theorem guardVisit_rehearsed (t : FileTree) (v : Visit) :
    Relation.ReflTransGen w.formatter.Leaves t (w.guardVisit t v).tree := by
  unfold guardVisit
  split
  · exact .refl
  · unfold guardSpot
    split
    · exact .refl
    · split
      · exact .refl
      · next d _ =>
        split
        · exact .refl
        · rw [finish_rehearsed hdry]
          exact .single ⟨d.output, rfl⟩

theorem guardAll_rehearsed (fuel : Nat) (t : FileTree) (totals : Totals) (visits : List Visit) :
    Relation.ReflTransGen w.formatter.Leaves t (w.guardAll fuel t totals visits).tree := by
  induction fuel generalizing t totals visits with
  | zero => cases visits <;> exact .refl
  | succ fuel ih =>
    cases visits with
    | nil => exact .refl
    | cons v rest =>
      rw [guardAll]
      split
      · exact ih t totals rest
      · split
        · exact .refl
        · next entries _ => exact ih t totals (entries ++ rest)
      · split
        · exact ih t totals rest
        · have hfirst := guardVisit_rehearsed hdry t v
          simp only
          split
          · exact hfirst
          · next outcome _ => exact hfirst.trans (ih _ (totals.record outcome) rest)

/-- **A dry run** leaves of a tree what runs of its formatter leave of it. -/
theorem guardTree_rehearsed (t : FileTree) (root : Bytes) :
    Relation.ReflTransGen w.formatter.Leaves t (w.guardTree t root).tree := by
  unfold guardTree
  split
  · exact .refl
  · exact guardAll_rehearsed hdry _ t .zero _

end DryRun

/-! ## Formatters that cannot fail -/

section Succeeds

variable (hf : w.formatter.Succeeds)
include hf

theorem finish_formatted {t : FileTree} {path : Bytes} {spot : Spot} {d : Injected}
    {outcome : FileOutcome} (h : (w.finish t path spot d).result = .ok outcome) (totals : Totals) :
    (totals.record outcome).unformatted = totals.unformatted := by
  obtain ⟨output, houtput⟩ := hf t d.output
  simp only [finish, houtput, Rendered.ofResult, Rendered.formatError?] at h
  split at h
  · rw [Except.ok.injEq] at h
    subst h
    rfl
  · split at h
    · cases h
    · rw [Except.ok.injEq] at h
      subst h
      rfl

theorem guardVisit_formatted {t : FileTree} {v : Visit} {outcome : FileOutcome}
    (h : (w.guardVisit t v).result = .ok outcome) (totals : Totals) :
    (totals.record outcome).unformatted = totals.unformatted := by
  unfold guardVisit at h
  split at h
  · cases h
  · unfold guardSpot at h
    split at h
    · cases h
    · split at h
      · cases h
      · split at h
        · rw [Except.ok.injEq] at h
          subst h
          rfl
        · exact finish_formatted hf h totals

theorem guardAll_formatted {fuel : Nat} {t : FileTree} {totals after : Totals}
    {visits : List Visit} (h : (w.guardAll fuel t totals visits).result = .ok after) :
    after.unformatted = totals.unformatted := by
  induction fuel generalizing t totals visits with
  | zero =>
    cases visits with
    | nil => exact congrArg Totals.unformatted (Except.ok.inj h).symm
    | cons v rest => cases h
  | succ fuel ih =>
    cases visits with
    | nil => exact congrArg Totals.unformatted (Except.ok.inj h).symm
    | cons v rest =>
      rw [guardAll] at h
      split at h
      · exact ih h
      · split at h
        · cases h
        · exact ih h
      · split at h
        · exact ih h
        · simp only at h
          split at h
          · cases h
          · next outcome houtcome => rw [ih h, guardVisit_formatted hf houtcome]

theorem guardTree_formatted {t : FileTree} {root : Bytes} {totals : Totals}
    (h : (w.guardTree t root).result = .ok totals) : totals.unformatted = 0 := by
  unfold guardTree at h
  split at h
  · cases h
  · exact guardAll_formatted hf h

end Succeeds

end Sweeper

namespace Cli

/-! ## The ends of a job -/

namespace Job

/-- The sweep of a job. -/
def sweep (j : Job) (s : Setting) (t : FileTree) : Effect Totals :=
  Sweeper.guardTree ⟨j.formatter s.host, j.dryRun⟩ t j.root

/-- The log of the sweep. -/
def log (j : Job) (s : Setting) (t : FileTree) (filter : Filter) : String :=
  logText filter j.logFormat s.time (j.sweep s t).events

/-- Whether a job fails on an error, behind some log and with some tree left. -/
inductive Fails (j : Job) (s : Setting) (t : FileTree) : String → FileTree → RunError → Prop
  /-- Nothing has been done yet. -/
  | filter {cause : FilterError} (hfilter : Filter.read (Utf8.lossy j.logFilter) = .error cause) :
    Fails j s t "" t (.filter cause)
  /-- The sweep has stopped at a file. -/
  | file {filter : Filter} {cause : FileError}
    (hfilter : Filter.read (Utf8.lossy j.logFilter) = .ok filter)
    (hsweep : (j.sweep s t).result = .error cause) :
    Fails j s t (j.log s t filter) (j.sweep s t).tree (.file cause)
  /-- All has been done but the summary. -/
  | summary {filter : Filter} {totals : Totals}
    (hfilter : Filter.read (Utf8.lossy j.logFilter) = .ok filter)
    (hsweep : (j.sweep s t).result = .ok totals) (hfull : s.stdoutFull = true) :
    Fails j s t (j.log s t filter) (j.sweep s t).tree (.summary .full)

variable {j : Job} {s : Setting} {t : FileTree}

/-- Formatting leaves the tree alone if no program is run, or one that does not touch it. -/
theorem inert_formatter
    (h : j.noFormat = true ∨ ∀ u input, (s.host.run u j.gofmt input).2 = u) :
    (j.formatter s.host).Inert := by
  unfold formatter
  split
  · exact Formatter.inert_ofCanonicalizer _
  · next hformat =>
    rcases h with hnone | hprogram
    · exact absurd hnone hformat
    · exact Formatter.inert_ofProgram hprogram

/-- Without a formatter there is nothing that formatting could fail on. -/
theorem unformatted_eq_zero (hnone : j.noFormat = true) {totals : Totals}
    (h : (j.sweep s t).result = .ok totals) : totals.unformatted = 0 := by
  refine Sweeper.guardTree_formatted ?_ h
  simp only [formatter, hnone, ↓reduceIte]
  exact Formatter.succeeds_verbatim

end Job

/-- Whether arguments ask for a job that gets done: its filter is valid, its sweep comes to some
    totals, and its summary can be written. -/
structure Done (s : Setting) (t : FileTree) (arguments : List Bytes) (j : Job) (totals : Totals) :
    Prop where
  asked : Request.read arguments = .ok (.job j)
  filtered : ∃ filter, Filter.read (Utf8.lossy j.logFilter) = .ok filter
  swept : (j.sweep s t).result = .ok totals
  written : s.stdoutFull = false

variable {s : Setting} {t : FileTree} {arguments : List Bytes} {j : Job} {totals : Totals}

theorem run_of_error {e : UsageError} (h : Request.read arguments = .error e) :
    run s t arguments = ⟨false, "", e.text, t⟩ := by
  rw [run, h]

theorem run_of_inquiry {i : Inquiry} (h : Request.read arguments = .ok (.inquiry i)) :
    run s t arguments = ⟨true, if s.stdoutFull then "" else i.answer, "", t⟩ := by
  rw [run, h]

/-- A job fails, and reports on what, or it gets done. -/
theorem run_cases (s : Setting) (t : FileTree) (h : Request.read arguments = .ok (.job j)) :
    (∃ log tree e, j.Fails s t log tree e ∧ run s t arguments = Job.fail log tree e) ∨
      ∃ totals, Done s t arguments j totals := by
  rw [run, h]
  simp only [Job.run]
  cases hfilter : Filter.read (Utf8.lossy j.logFilter) with
  | error cause => exact .inl ⟨_, _, _, .filter hfilter, rfl⟩
  | ok filter =>
    cases hsweep : (j.sweep s t).result with
    | error cause =>
      refine .inl ⟨_, _, _, .file hfilter hsweep, ?_⟩
      rw [Job.sweep] at hsweep
      simp only [hsweep]
      rfl
    | ok totals =>
      cases hfull : s.stdoutFull with
      | true =>
        refine .inl ⟨_, _, _, .summary hfilter hsweep hfull, ?_⟩
        rw [Job.sweep] at hsweep
        simp only [hsweep, ↓reduceIte]
        rfl
      | false => exact .inr ⟨totals, h, ⟨filter, hfilter⟩, hsweep, hfull⟩

theorem Done.run_eq (h : Done s t arguments j totals) :
    ∃ filter, Filter.read (Utf8.lossy j.logFilter) = .ok filter ∧ run s t arguments =
      ⟨true, summary totals j.dryRun ++ "\n", j.log s t filter, (j.sweep s t).tree⟩ := by
  obtain ⟨filter, hfilter⟩ := h.filtered
  refine ⟨filter, hfilter, ?_⟩
  have hswept := h.swept
  rw [Job.sweep] at hswept
  rw [run, h.asked]
  simp only [Job.run, hfilter, hswept, h.written, Bool.false_eq_true, ↓reduceIte]
  rfl

/-! ## Runs -/

/-- A tree is left as it is by runs that come to no sweep. -/
theorem tree_of_no_sweep
    (h : (∃ e, Request.read arguments = .error e) ∨
      (∃ i, Request.read arguments = .ok (.inquiry i)) ∨
      ∃ j e, Request.read arguments = .ok (.job j) ∧
        Filter.read (Utf8.lossy j.logFilter) = .error e) :
    (run s t arguments).tree = t := by
  rcases h with ⟨e, hread⟩ | ⟨i, hread⟩ | ⟨j, e, hread, hfilter⟩
  · rw [run_of_error hread]
  · rw [run_of_inquiry hread]
  · rw [run, hread]
    simp only [Job.run, hfilter]
    rfl

/-- A tree is left by a dry run as runs of the formatter leave it. -/
theorem run_rehearsed (s : Setting) (t : FileTree) (h : Request.read arguments = .ok (.job j))
    (hdry : j.dryRun = true) :
    Relation.ReflTransGen (j.formatter s.host).Leaves t (run s t arguments).tree := by
  have hsweep : Relation.ReflTransGen (j.formatter s.host).Leaves t (j.sweep s t).tree :=
    Sweeper.guardTree_rehearsed (w := ⟨j.formatter s.host, j.dryRun⟩) hdry t j.root
  rcases run_cases s t h with ⟨log, tree, e, hfails, hrun⟩ | ⟨totals, hdone⟩
  · rw [hrun]
    cases hfails with
    | filter => exact .refl
    | file | summary => exact hsweep
  · obtain ⟨filter, -, hrun⟩ := hdone.run_eq
    rw [hrun]
    exact hsweep

/-- Only answers and jobs that get done are successes. -/
theorem succeeds_iff :
    (run s t arguments).succeeds = true ↔ (∃ i, Request.read arguments = .ok (.inquiry i)) ∨
      ∃ j totals, Done s t arguments j totals := by
  constructor
  · intro h
    cases hread : Request.read arguments with
    | error e =>
      rw [run_of_error hread] at h
      cases h
    | ok request =>
      cases request with
      | inquiry i => exact .inl ⟨i, rfl⟩
      | job j =>
        rcases run_cases s t hread with ⟨log, tree, e, -, hrun⟩ | hdone
        · rw [hrun] at h
          cases h
        · exact .inr ⟨j, hdone⟩
  · rintro (⟨i, hread⟩ | ⟨j, totals, hdone⟩)
    · rw [run_of_inquiry hread]
    · obtain ⟨filter, -, hrun⟩ := hdone.run_eq
      rw [hrun]

/-- Only jobs that get done write a summary, and they write that of their totals. -/
theorem stdout_eq_summary_iff (totals : Totals) (dry : Bool) :
    (run s t arguments).stdout = summary totals dry ++ "\n" ↔
      ∃ j, Done s t arguments j totals ∧ j.dryRun = dry := by
  constructor
  · intro h
    cases hread : Request.read arguments with
    | error e =>
      rw [run_of_error hread] at h
      exact absurd h (empty_ne_summary totals dry)
    | ok request =>
      cases request with
      | inquiry i =>
        rw [run_of_inquiry hread] at h
        simp only at h
        split at h
        · exact absurd h (empty_ne_summary totals dry)
        · exact absurd h (answer_ne_summary i totals dry)
      | job j =>
        rcases run_cases s t hread with ⟨log, tree, e, -, hrun⟩ | ⟨_, hdone⟩
        · rw [hrun] at h
          exact absurd h (empty_ne_summary totals dry)
        · obtain ⟨filter, -, hrun⟩ := hdone.run_eq
          rw [hrun] at h
          obtain ⟨rfl, hdry⟩ := summary_inj h
          exact ⟨j, hdone, hdry⟩
  · rintro ⟨j, hdone, rfl⟩
    obtain ⟨filter, -, hrun⟩ := hdone.run_eq
    rw [hrun]

/-- A job that is not done writes no summary, and behind its log it reports why. -/
theorem run_fails (h : Request.read arguments = .ok (.job j))
    (hfails : (run s t arguments).succeeds = false) :
    (run s t arguments).stdout = "" ∧ ∃ log e, j.Fails s t log (run s t arguments).tree e ∧
      (run s t arguments).stderr = log ++ "error: " ++ e.text ++ "\n" := by
  rcases run_cases s t h with ⟨log, tree, e, hcause, hrun⟩ | ⟨totals, hdone⟩
  · rw [hrun]
    exact ⟨rfl, log, e, hcause, rfl⟩
  · rw [succeeds_iff.2 (.inr ⟨j, totals, hdone⟩)] at hfails
    cases hfails

/-- A job that gets done where its summary can be written gets as far where it cannot. -/
theorem Done.run_full (h : Done s t arguments j totals) :
    let full := run { s with stdoutFull := true } t arguments
    full.succeeds = false ∧ full.stdout = "" ∧ full.tree = (run s t arguments).tree ∧
      full.stderr = (run s t arguments).stderr ++ "error: " ++ (RunError.summary .full).text ++
        "\n" := by
  obtain ⟨filter, hfilter, hrun⟩ := h.run_eq
  have hswept := h.swept
  rw [Job.sweep] at hswept
  rw [hrun, run, h.asked]
  simp only [Job.run, hfilter, hswept, ↓reduceIte]
  exact ⟨rfl, rfl, rfl, rfl⟩

/-- **What a run leaves behind**. Without a sweep the tree stays as it is, and so it does in a dry
    run, but for what the formatter does to it. A run succeeds if it answers a request for
    information or if its job gets done, and in the second case only it writes a summary. The
    numbers of the summary are the totals of the sweep; of unformatted sources it speaks if there
    are any, and without a formatter there are none. Any other job writes no summary, and behind its
    log one report of what was wrong. If that is only the summary, all the rest has been done. -/
theorem run_effects (s : Setting) (t : FileTree) (arguments : List Bytes) :
    let after := run s t arguments
    (((∃ e, Request.read arguments = .error e) ∨
        (∃ i, Request.read arguments = .ok (.inquiry i)) ∨
        ∃ j e, Request.read arguments = .ok (.job j) ∧
          Filter.read (Utf8.lossy j.logFilter) = .error e) → after.tree = t) ∧
    (∀ j, Request.read arguments = .ok (.job j) → j.dryRun = true →
      Relation.ReflTransGen (j.formatter s.host).Leaves t after.tree ∧
        ((j.noFormat = true ∨ ∀ u input, (s.host.run u j.gofmt input).2 = u) →
          after.tree = t)) ∧
    (after.succeeds = true ↔ (∃ i, Request.read arguments = .ok (.inquiry i)) ∨
      ∃ j totals, Done s t arguments j totals) ∧
    (∀ totals dry, after.stdout = summary totals dry ++ "\n" ↔
      ∃ j, Done s t arguments j totals ∧ j.dryRun = dry) ∧
    (∀ j totals, Done s t arguments j totals →
      numbers after.stdout = [totals.insertions, totals.guarded, totals.visited] ++
          (if totals.unformatted > 0 then [totals.unformatted] else []) ∧
        ("left unformatted".toList <:+: after.stdout.toList ↔ 0 < totals.unformatted) ∧
        (j.noFormat = true → totals.unformatted = 0)) ∧
    (∀ j, Request.read arguments = .ok (.job j) → after.succeeds = false →
      after.stdout = "" ∧ ∃ log e, j.Fails s t log after.tree e ∧
        after.stderr = log ++ "error: " ++ e.text ++ "\n") ∧
    (∀ j totals, Done s t arguments j totals →
      let full := run { s with stdoutFull := true } t arguments
      full.succeeds = false ∧ full.stdout = "" ∧ full.tree = after.tree ∧
        full.stderr = after.stderr ++ "error: " ++ (RunError.summary .full).text ++ "\n") := by
  intro after
  refine ⟨tree_of_no_sweep, ?_, succeeds_iff, stdout_eq_summary_iff, ?_,
    fun j hread hfails => run_fails hread hfails, fun j totals hdone => hdone.run_full⟩
  · intro j hread hdry
    have hleaves := run_rehearsed s t hread hdry
    exact ⟨hleaves, fun hinert => (Job.inert_formatter hinert).eq_of_leaves hleaves⟩
  · intro j totals hdone
    have hstdout : after.stdout = summary totals j.dryRun ++ "\n" :=
      (stdout_eq_summary_iff totals j.dryRun).2 ⟨j, hdone, rfl⟩
    rw [hstdout]
    exact ⟨numbers_summary totals j.dryRun, unformatted_infix_summary_iff totals j.dryRun,
      fun hnone => Job.unformatted_eq_zero hnone hdone.swept⟩

/-! ### A formatter that leaves something behind -/

/-- A host whose programs write what they have read, and leave a file behind. -/
def untidy : Host where
  run t _ input := (.ok ⟨none, .ok ⟨.success, input, []⟩⟩, t.set [Bytes.ofString "ran"] (.file [] false))

/-- A tree with one call that has no guard. -/
def unguarded : FileTree :=
  FileTree.empty.setAll [([Bytes.ofString "a.go"], .file (Bytes.ofString "Syscall()\n") false)]

/-- The arguments for a dry run from the top of a tree. -/
def rehearse (noFormat : Bool) : List Bytes :=
  (["--dry-run"] ++ (if noFormat then ["--no-format"] else []) ++ ["."]).map Bytes.ofString

/-- The job that they ask for. -/
def rehearsal (noFormat : Bool) : Job where
  root := Bytes.ofString "."
  gofmt := Bytes.ofString Canonicalizer.defaultProgram
  noFormat := noFormat
  dryRun := true
  logFilter := Bytes.ofString Filter.default
  logFormat := .default

theorem read_rehearse (noFormat : Bool) :
    Request.read (rehearse noFormat) = .ok (.job (rehearsal noFormat)) := by
  cases noFormat <;> decide +kernel

set_option maxRecDepth 100000 in
/-- A dry run does run the formatter, and the formatter may do to the tree what it likes. -/
theorem not_forall_dryRun_unchanged :
    ¬∀ (s : Setting) (t : FileTree) (arguments : List Bytes) (j : Job),
      Request.read arguments = .ok (.job j) → j.dryRun = true →
        (run s t arguments).tree = t := by
  intro h
  -- the formatter is started on the guarded source, although that is not written
  have hsame := h ⟨untidy, "", false⟩ unguarded _ _ (read_rehearse false) rfl
  rw [run, read_rehearse] at hsame
  have hran : (((rehearsal false).run ⟨untidy, "", false⟩ unguarded).tree.get?
      [Bytes.ofString "ran"]).isSome = true := by decide +kernel
  have hfree : (unguarded.get? [Bytes.ofString "ran"]).isSome = false := by decide +kernel
  rw [hsame, hfree] at hran
  cases hran

set_option maxRecDepth 100000 in
theorem done_rehearsal :
    Done ⟨untidy, "", false⟩ unguarded (rehearse true) (rehearsal true) ⟨1, 1, 1, 0⟩ := by
  refine ⟨read_rehearse true, ?_, ?_, rfl⟩
  · have hvalid : (Filter.read (Utf8.lossy (rehearsal true).logFilter)).isOk = true := by
      decide +kernel
    cases hfilter : Filter.read (Utf8.lossy (rehearsal true).logFilter) with
    | ok filter => exact ⟨filter, rfl⟩
    | error e =>
      rw [hfilter] at hvalid
      cases hvalid
  · decide +kernel

set_option maxRecDepth 100000 in
/-- Without the formatter nothing happens to the tree, all of its one call is counted, and nothing is
    left unformatted. And when the summary cannot be written, that is all that goes wrong. -/
theorem run_effects_rehearsal :
    let after := run ⟨untidy, "", false⟩ unguarded (rehearse true)
    let full := run ⟨untidy, "", true⟩ unguarded (rehearse true)
    after.succeeds = true ∧ after.stdout = summary ⟨1, 1, 1, 0⟩ true ++ "\n" ∧
      numbers after.stdout = [1, 1, 1] ∧ after.tree = unguarded ∧ full.succeeds = false ∧
      full.tree = after.tree ∧
      full.stderr = after.stderr ++ "error: " ++ (RunError.summary .full).text ++ "\n" := by
  intro after full
  obtain ⟨-, hdry, hsucceeds, hsummary, hnumbers, -, hfull⟩ :=
    run_effects ⟨untidy, "", false⟩ unguarded (rehearse true)
  obtain ⟨hfails, -, htree, hstderr⟩ := hfull _ _ done_rehearsal
  exact ⟨hsucceeds.2 (.inr ⟨_, _, done_rehearsal⟩), (hsummary _ _).2 ⟨_, done_rehearsal, rfl⟩,
    (hnumbers _ _ done_rehearsal).1, (hdry _ (read_rehearse true) rfl).2 (.inl rfl), hfails, htree,
    hstderr⟩

end Cli

end SyscallGuard
