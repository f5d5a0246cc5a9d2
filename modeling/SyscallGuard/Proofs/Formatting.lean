import SyscallGuard.Proofs.Edits
import SyscallGuard.Proofs.Validity

set_option autoImplicit false

/-! # What the formatter decides

Whether a source is refused, stays as it is or is given guards is settled before the formatter is
asked, and so is the number of sites and of guards. All that is left to it are the bytes to be
written and the reason why they are not formatted. `guardSource_formatter` says so by comparing the
run with any formatter to the one without (`Canonicalizer.verbatim`), and names what a formatter
that is a program must have done for each of its results (`FormatError.Holds`). -/

namespace SyscallGuard

/-! ## What is settled before -/

/-- The number of sites, and of guards if there are new ones. -/
def Guarded.tally : Guarded → Nat × Option Nat
  | unchanged sites => (sites, none)
  | changed sites insertions _ => (sites, some insertions)

theorem Guarded.tally_ofDraft (c : Canonicalizer) (d : Injected) :
    (ofDraft c d).tally = (ofDraft .verbatim d).tally := by
  unfold ofDraft
  split <;> rfl

/-- Two formatters that do the same to an edited source make the same of it. -/
theorem Guarded.ofDraft_congr {c other : Canonicalizer} {d : Injected}
    (h : d.insertions ≠ 0 → other d.output = c d.output) : ofDraft other d = ofDraft c d := by
  unfold ofDraft
  split
  · rfl
  · next hne => rw [Rendered.of, Rendered.of, h hne]

/-- An edit changes a source if and only if it inserts something. -/
theorem output_injectGuards_eq_iff (source : Bytes) (sites : List Site) :
    (injectGuards source sites).output = source ↔ (injectGuards source sites).insertions = 0 :=
  (edits_injectAll source sites).output_eq_iff

/-- There is at most one guard for each site. -/
theorem insertions_le_length (source : Bytes) (sites : List Site) :
    (injectGuards source sites).insertions ≤ sites.length := by
  have hrun := edits_injectAll source sites
  calc (injectGuards source sites).insertions
      = ((Injector.start source).injectAll sites).1.countP fun o => o.2.isInserted :=
        hrun.insertions_eq
    _ ≤ ((Injector.start source).injectAll sites).1.length := List.countP_le_length
    _ = sites.length := Injected.sites_injectGuards source sites

/-- The tally is that of the run without a formatter. -/
theorem guardSource_tally (source : Bytes) (c : Canonicalizer) :
    (guardSource source c).map Guarded.tally =
      (guardSource source .verbatim).map Guarded.tally := by
  unfold guardSource
  cases draft source with
  | error cause => rfl
  | ok d => exact congrArg Except.ok (Guarded.tally_ofDraft c d)

/-! ## Rendering -/

namespace Rendered

variable (edited : Bytes)

theorem of_ok {c : Canonicalizer} {bytes : Bytes} (h : c edited = .ok bytes) :
    of c edited = formatted bytes := by
  rw [of, h, ofResult]

theorem of_error {c : Canonicalizer} {reason : FormatError} (h : c edited = .error reason) :
    of c edited = unformatted edited reason := by
  rw [of, h, ofResult]

theorem formatError?_of (c : Canonicalizer) (reason : FormatError) :
    (of c edited).formatError? = some reason ↔ c edited = .error reason := by
  cases h : c edited with
  | ok bytes => simp [of_ok edited h, formatError?]
  | error e => simp [of_error edited h, formatError?]

end Rendered

/-! ## Formatting with a program -/

/-- What has come about if formatting with a program has failed for a reason. -/
def FormatError.Holds (program : Bytes) (run : Bytes → Except OsError Execution) (source : Bytes) :
    FormatError → Prop
  | invalidSyntax cause => Parsed.strict source = .error cause
  | spawn name cause =>
    name = program ∧ (∃ p, Parsed.strict source = .ok p) ∧ run source = .error cause
  | rejected name status stderr =>
    name = program ∧ (∃ p, Parsed.strict source = .ok p) ∧
      ∃ x e, run source = .ok x ∧ x.ending = .ok e ∧ e.status ≠ .success ∧ status = e.status ∧
        stderr = String.ofList (Blank.trim (Utf8.lossy e.stderr))
  | pipe name cause =>
    name = program ∧ (∃ p, Parsed.strict source = .ok p) ∧
      ∃ x, run source = .ok x ∧ (x.ending = .error cause ∨
        ∃ e, x.ending = .ok e ∧ e.status = .success ∧ x.unwritten = some cause)

/-- Whether a run has gone well to the end, with some output. -/
def Execution.Gives (x : Execution) (output : Bytes) : Prop :=
  x.unwritten = none ∧ ∃ e, x.ending = .ok e ∧ e.status = .success ∧ e.stdout = output

namespace Canonicalizer

variable (program : Bytes) (run : Bytes → Except OsError Execution) (source : Bytes)

/-- What is written by a program is taken only if nothing at all has gone wrong. -/
theorem gofmt_eq_ok_iff (bytes : Bytes) :
    gofmt program run source = .ok bytes ↔
      (∃ p, Parsed.strict source = .ok p) ∧ ∃ x, run source = .ok x ∧ x.Gives bytes := by
  unfold gofmt Execution.Gives
  cases Parsed.strict source with
  | error cause => simp
  | ok p =>
    cases run source with
    | error cause => simp [ofExecution]
    | ok x =>
      obtain ⟨unwritten, ending⟩ := x
      cases ending with
      | error cause => simp [ofExecution]
      | ok e =>
        by_cases hstatus : e.status = .success
        · cases unwritten <;> simp [ofExecution, hstatus]
        · simp [ofExecution, hstatus]

/-- How a run of a program fails: its end is not learned, or its status is a failure, or it was not
    given all of its input. -/
theorem ofExecution_eq_error {x : Execution} {reason : FormatError}
    (h : ofExecution program (.ok x) = .error reason) :
    (∃ cause, x.ending = .error cause ∧ reason = .pipe program cause) ∨
      ∃ e, x.ending = .ok e ∧
        ((e.status ≠ .success ∧ reason = .rejected program e.status
            (String.ofList (Blank.trim (Utf8.lossy e.stderr)))) ∨
          e.status = .success ∧ ∃ cause, x.unwritten = some cause ∧
            reason = .pipe program cause) := by
  simp only [ofExecution] at h
  split at h
  · next cause hending => exact .inl ⟨cause, hending, (Except.error.inj h).symm⟩
  · next e hending =>
    refine .inr ⟨e, hending, ?_⟩
    split at h
    · next hstatus => exact .inl ⟨hstatus, (Except.error.inj h).symm⟩
    · next hstatus =>
      split at h
      · next cause hunwritten =>
        exact .inr ⟨of_not_not hstatus, cause, hunwritten, (Except.error.inj h).symm⟩
      · cases h

/-- A failure is reported if and only if it has come about after everything before it went well:
    parsing, starting the program, learning its end, its exit, and then its input. -/
theorem gofmt_eq_error_iff (reason : FormatError) :
    gofmt program run source = .error reason ↔ reason.Holds program run source := by
  unfold gofmt
  constructor
  · intro h
    cases hparse : Parsed.strict source with
    | error cause =>
      rw [hparse, Except.error.injEq] at h
      rw [← h]
      exact hparse
    | ok p =>
      simp only [hparse] at h
      cases hrun : run source with
      | error cause =>
        rw [hrun, ofExecution, Except.error.injEq] at h
        rw [← h]
        exact ⟨rfl, ⟨p, hparse⟩, hrun⟩
      | ok x =>
        rw [hrun] at h
        rcases ofExecution_eq_error program h with ⟨cause, hending, rfl⟩ | ⟨e, hending, hend⟩
        · exact ⟨rfl, ⟨p, hparse⟩, x, hrun, .inl hending⟩
        · rcases hend with ⟨hstatus, rfl⟩ | ⟨hstatus, cause, hunwritten, rfl⟩
          · exact ⟨rfl, ⟨p, hparse⟩, x, e, hrun, hending, hstatus, rfl, rfl⟩
          · exact ⟨rfl, ⟨p, hparse⟩, x, hrun, .inr ⟨e, hending, hstatus, hunwritten⟩⟩
  · intro h
    cases reason with
    | invalidSyntax cause =>
      have hparse : Parsed.strict source = .error cause := h
      rw [hparse]
    | spawn name cause =>
      obtain ⟨rfl, ⟨p, hparse⟩, hrun⟩ := h
      rw [hparse, hrun, ofExecution]
    | rejected name status stderr =>
      obtain ⟨rfl, ⟨p, hparse⟩, x, e, hrun, hending, hstatus, rfl, rfl⟩ := h
      simp only [hparse, hrun, ofExecution, hending, if_pos hstatus]
    | pipe name cause =>
      obtain ⟨rfl, ⟨p, hparse⟩, x, hrun, hlost | ⟨e, hending, hstatus, hunwritten⟩⟩ := h
      · simp only [hparse, hrun, ofExecution, hlost]
      · simp [hparse, hrun, ofExecution, hending, hstatus, hunwritten]

end Canonicalizer

/-! ## The main statement -/

section Edited

variable {source : Bytes} {p : Parsed} (hp : Parsed.strict source = .ok p) (c : Canonicalizer)

include hp

theorem guardSource_unchanged_iff :
    (∃ sites, guardSource source c = .ok (.unchanged sites)) ↔
      (injectGuards source p.sites).output = source := by
  rw [guardSource_of_strict hp, output_injectGuards_eq_iff, Guarded.ofDraft]
  split
  · next hzero => exact iff_of_true ⟨_, rfl⟩ hzero
  · next hne => exact iff_of_false (by rintro ⟨sites, h⟩; cases h) hne

/-- An edit that changes the source is rendered, whatever the formatter. -/
theorem guardSource_of_edited (h : (injectGuards source p.sites).output ≠ source) :
    guardSource source c =
      .ok (.changed p.sites.length (injectGuards source p.sites).insertions
        (.of c (injectGuards source p.sites).output)) := by
  rw [Ne, output_injectGuards_eq_iff] at h
  rw [guardSource_of_strict hp, Guarded.ofDraft, if_neg h, Injected.sites_injectGuards]

/-- What a program makes of an edit that changes the source. -/
theorem guardSource_gofmt_of_edited (h : (injectGuards source p.sites).output ≠ source)
    (program : Bytes) (run : Bytes → Except OsError Execution) :
    let edit := injectGuards source p.sites
    ∃ rendered, guardSource source (.gofmt program run) =
        .ok (.changed p.sites.length edit.insertions rendered) ∧
      (rendered.formatError? = none → (∃ q, Parsed.strict edit.output = .ok q) ∧
        ∃ x, run edit.output = .ok x ∧ x.Gives rendered.bytes) ∧
      (rendered.formatError? ≠ none → rendered.bytes = edit.output) ∧
      ∀ reason : FormatError, rendered.formatError? = some reason ↔
        reason.Holds program run edit.output := by
  intro edit
  have hreason : ∀ reason,
      (Rendered.of (.gofmt program run) edit.output).formatError? = some reason ↔
        reason.Holds program run edit.output := by
    intro reason
    rw [Rendered.formatError?_of, Canonicalizer.gofmt_eq_error_iff]
  refine ⟨_, guardSource_of_edited hp _ h, ?_, ?_, hreason⟩
  · intro hnone
    cases hformat : Canonicalizer.gofmt program run edit.output with
    | error reason =>
      rw [(Rendered.formatError?_of _ _ reason).2 hformat] at hnone
      cases hnone
    | ok bytes =>
      rw [Rendered.of_ok _ hformat]
      exact (Canonicalizer.gofmt_eq_ok_iff program run _ bytes).1 hformat
  · intro hsome
    obtain ⟨reason, hfailed⟩ := Option.ne_none_iff_exists'.1 hsome
    rw [Rendered.of_error _ ((Rendered.formatError?_of _ _ reason).1 hfailed)]
    rfl

end Edited

/-- **What the formatter decides**. With any formatter a source is refused with the same error,
    stays as it is with the same number of sites, or is given the same number of guards as without
    one. A source that is accepted stays as it is if and only if the edit leaves it alone. If the
    edit changes it, there are guards, at most one for each site; the formatter counts only by what
    it does to the edited source, whose formatted bytes are written, or if formatting fails, the
    edited source itself. What a program wrote is taken only if the edited source is valid, the
    program was started, its end was learned, it exited with success and took all of its input;
    otherwise the first of these that went wrong is the reason. -/
theorem guardSource_formatter (source : Bytes) (c : Canonicalizer) :
    (∀ cause, guardSource source c = .error cause ↔ guardSource source .verbatim = .error cause) ∧
    (guardSource source c).map Guarded.tally = (guardSource source .verbatim).map Guarded.tally ∧
    ∀ p, Parsed.strict source = .ok p →
      let edit := injectGuards source p.sites
      ((∃ sites, guardSource source c = .ok (.unchanged sites)) ↔ edit.output = source) ∧
      (∀ other : Canonicalizer, (edit.output ≠ source → other edit.output = c edit.output) →
        guardSource source other = guardSource source c) ∧
      (edit.output ≠ source → ∃ rendered,
        guardSource source c = .ok (.changed p.sites.length edit.insertions rendered) ∧
        1 ≤ edit.insertions ∧ edit.insertions ≤ p.sites.length ∧
        (∀ bytes, c edit.output = .ok bytes →
          rendered.bytes = bytes ∧ rendered.formatError? = none) ∧
        ∀ reason, c edit.output = .error reason →
          rendered.bytes = edit.output ∧ rendered.formatError? = some reason) ∧
      ∀ program run, edit.output ≠ source → ∃ rendered,
        guardSource source (.gofmt program run) =
          .ok (.changed p.sites.length edit.insertions rendered) ∧
        (rendered.formatError? = none → (∃ q, Parsed.strict edit.output = .ok q) ∧
          ∃ x, run edit.output = .ok x ∧ x.Gives rendered.bytes) ∧
        (rendered.formatError? ≠ none → rendered.bytes = edit.output) ∧
        ∀ reason : FormatError, rendered.formatError? = some reason ↔
          reason.Holds program run edit.output := by
  refine ⟨fun cause => ?_, guardSource_tally source c, fun p hp => ?_⟩
  · rw [guardSource_eq_error_iff, guardSource_eq_error_iff]
  intro edit
  refine ⟨guardSource_unchanged_iff hp c, fun other hother => ?_, fun hedit => ?_, ?_⟩
  · rw [guardSource_of_strict hp, guardSource_of_strict hp, Except.ok.injEq]
    refine Guarded.ofDraft_congr fun hne => hother fun houtput => hne ?_
    exact (output_injectGuards_eq_iff source p.sites).1 houtput
  · refine ⟨.of c edit.output, guardSource_of_edited hp c hedit, ?_,
      insertions_le_length source p.sites, fun bytes hbytes => ?_, fun reason hreason => ?_⟩
    · rw [Ne, output_injectGuards_eq_iff] at hedit
      exact Nat.pos_of_ne_zero hedit
    · rw [Rendered.of_ok _ hbytes]
      exact ⟨rfl, rfl⟩
    · rw [Rendered.of_error _ hreason]
      exact ⟨rfl, rfl⟩
  · intro program run hedit
    exact guardSource_gofmt_of_edited hp hedit program run

/-- A call in a line of its own is given a guard, and the edited source is valid. -/
theorem draft_call_valid :
    ((draft (Bytes.ofString "Syscall()\n")).map fun d =>
      (d.output == Bytes.ofString "Syscall()\n", (Parsed.strict d.output).isOk)).toOption =
        some (false, true) := by
  decide +kernel

/-- A program that writes something and exits with a failure: the edited source is kept, and the
    status is the reason although not all of the input was taken. -/
theorem guardSource_formatter_rejected :
    ∃ (source : Bytes) (p : Parsed) (rendered : Rendered),
      (injectGuards source p.sites).output ≠ source ∧
      guardSource source (.gofmt [102] fun _ => .ok ⟨some .brokenPipe, .ok ⟨.code 1, [120], []⟩⟩) =
        .ok (.changed p.sites.length (injectGuards source p.sites).insertions rendered) ∧
      rendered.bytes = (injectGuards source p.sites).output ∧
      rendered.formatError? = some (.rejected [102] (.code 1) "") := by
  have hdraft := draft_call_valid
  cases hp : Parsed.strict (Bytes.ofString "Syscall()\n") with
  | error cause =>
    rw [draft, hp] at hdraft
    cases hdraft
  | ok p =>
    simp only [draft, hp, Parsed.source_of_strict hp, Except.map, Except.toOption,
      Option.some.injEq, Prod.mk.injEq, beq_eq_false_iff_ne] at hdraft
    obtain ⟨hedit, hvalid⟩ := hdraft
    obtain ⟨-, -, haccepted⟩ := guardSource_formatter (Bytes.ofString "Syscall()\n") .verbatim
    obtain ⟨-, -, -, hprogram⟩ := haccepted p hp
    obtain ⟨rendered, hguard, -, hkept, hreason⟩ := hprogram [102]
      (fun _ => .ok ⟨some .brokenPipe, .ok ⟨.code 1, [120], []⟩⟩) hedit
    cases hq : Parsed.strict (injectGuards (Bytes.ofString "Syscall()\n") p.sites).output with
    | error cause =>
      rw [hq] at hvalid
      cases hvalid
    | ok q =>
      have hrejected := (hreason (.rejected [102] (.code 1) "")).2
        ⟨rfl, ⟨q, hq⟩, _, _, rfl, rfl, by decide, rfl, by decide⟩
      refine ⟨_, p, rendered, hedit, hguard, hkept ?_, hrejected⟩
      rw [hrejected]
      exact Option.some_ne_none _

end SyscallGuard
