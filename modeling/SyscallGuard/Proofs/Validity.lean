import SyscallGuard.Guarded
import SyscallGuard.Proofs.Reinjection
import SyscallGuard.Proofs.Sites

set_option autoImplicit false

/-! # When the edited source is valid

Guards are inserted line by line, and a line may begin where no statement can: in the middle of a
list of arguments, or with the label of a case. Then the edited source is no longer valid. What
follows from this is stated here for every valid source: the formatter is not started, its failure
names the fault, and the source as it was written is refused by the next run
(`guardSource_gofmt_valid_iff`). The edited source is described without the injector, by the lines
that `OnePass.lines` puts together. -/

namespace SyscallGuard

/-! ## Guarding a valid source -/

section Valid

variable {source : Bytes} {p : Parsed}

theorem guardSource_of_strict (h : Parsed.strict source = .ok p) (c : Canonicalizer) :
    guardSource source c = .ok (.ofDraft c (injectGuards source p.sites)) := by
  simp only [guardSource, draft, h, Parsed.source_of_strict h]

/-- Only sources that are not valid are refused, and with the error of the parser. -/
theorem guardSource_eq_error_iff (source : Bytes) (c : Canonicalizer) (cause : SyntaxError) :
    guardSource source c = .error cause ↔ Parsed.strict source = .error cause := by
  cases h : Parsed.strict source with
  | error e => rw [guardSource, draft, h, Except.error.injEq, Except.error.injEq]
  | ok p =>
    rw [guardSource_of_strict h]
    exact iff_of_false (by rintro ⟨⟩) (by rintro ⟨⟩)

/-- The edit of a valid source puts each guard in front of its line. -/
theorem output_of_strict (h : Parsed.strict source = .ok p) :
    (injectGuards source p.sites).output = (OnePass.lines source p.sites).join := by
  obtain ⟨hrange, horder⟩ := Parsed.sites_of_strict h
  exact output_injectGuards hrange horder

theorem Injected.sites_injectGuards (source : Bytes) (sites : List Site) :
    (injectGuards source sites).sites = sites.length := by
  have hlen : ∀ (i : Injector), (i.injectAll sites).1.length = sites.length := by
    induction sites with
    | nil => exact fun i => rfl
    | cons s rest ih => exact fun i => congrArg (· + 1) (ih (i.inject s).2)
  exact hlen (.start source)

end Valid

/-! ## Formatting the edited source -/

namespace Canonicalizer

variable (program : Bytes)

/-- A run of the formatter never counts as a fault of the source. -/
theorem ofExecution_ne_invalidSyntax (x : Except OsError Execution) (cause : SyntaxError) :
    ofExecution program x ≠ .error (.invalidSyntax cause) := by
  intro h
  cases x with
  | error e => cases h
  | ok x =>
    rw [ofExecution] at h
    split at h
    · cases h
    · split at h
      · cases h
      · split at h <;> cases h

theorem gofmt_invalidSyntax_iff (run : Bytes → Except OsError Execution) (source : Bytes)
    (cause : SyntaxError) :
    gofmt program run source = .error (.invalidSyntax cause) ↔
      Parsed.strict source = .error cause := by
  rw [gofmt]
  cases h : Parsed.strict source with
  | error e => simp only [Except.error.injEq, FormatError.invalidSyntax.injEq]
  | ok p =>
    exact iff_of_false (ofExecution_ne_invalidSyntax program (run source) cause)
      (by rintro ⟨⟩)

end Canonicalizer

theorem Rendered.of_eq_unformatted_iff (c : Canonicalizer) (edited kept : Bytes)
    (reason : FormatError) :
    Rendered.of c edited = .unformatted kept reason ↔ c edited = .error reason ∧ kept = edited := by
  rw [Rendered.of]
  cases c edited with
  | error e =>
    simp only [Rendered.ofResult, Rendered.unformatted.injEq, Except.error.injEq]
    exact ⟨fun h => ⟨h.2, h.1.symm⟩, fun h => ⟨h.2.symm, h.1⟩⟩
  | ok bytes => exact iff_of_false (by rintro ⟨⟩) (by rintro ⟨⟨⟩, -⟩)

/-- What guarding a source comes to if formatting fails. -/
theorem Guarded.ofDraft_eq_unformatted_iff (c : Canonicalizer) (d : Injected)
    (sites insertions : Nat) (kept : Bytes) (reason : FormatError) :
    Guarded.ofDraft c d = .changed sites insertions (.unformatted kept reason) ↔
      d.insertions ≠ 0 ∧ sites = d.sites ∧ insertions = d.insertions ∧ kept = d.output ∧
        c d.output = .error reason := by
  rw [Guarded.ofDraft]
  split
  · next h => exact iff_of_false (by rintro ⟨⟩) fun hc => hc.1 h
  · next h =>
    rw [Guarded.changed.injEq, Rendered.of_eq_unformatted_iff]
    constructor
    · rintro ⟨rfl, rfl, herror, rfl⟩
      exact ⟨h, rfl, rfl, rfl, herror⟩
    · rintro ⟨-, rfl, rfl, rfl, herror⟩
      exact ⟨rfl, rfl, herror, rfl⟩

/-! ## The edited source -/

section Edited

variable {source : Bytes} {p : Parsed} (hp : Parsed.strict source = .ok p)

include hp

theorem insertions_of_strict :
    (injectGuards source p.sites).insertions = (OnePass.freshLines source p.sites).length := by
  obtain ⟨hrange, horder⟩ := Parsed.sites_of_strict hp
  rw [injectGuards_tracks (fun s hs => (hrange s hs).1) horder]
  exact OnePass.guards_eq_length_freshLines fun s hs => (hrange s hs).1

/-- It takes a guard to spoil a valid source. -/
theorem insertions_ne_zero_of_invalid {cause : SyntaxError}
    (h : Parsed.strict (OnePass.lines source p.sites).join = .error cause) :
    (injectGuards source p.sites).insertions ≠ 0 := by
  intro hzero
  rw [← output_of_strict hp, output_of_insertions_eq_zero hzero, hp] at h
  cases h

/-- The failure that an edited source which is not valid ends with. -/
theorem guardSource_of_invalid {cause : SyntaxError}
    (h : Parsed.strict (OnePass.lines source p.sites).join = .error cause) (program : Bytes)
    (run : Bytes → Except OsError Execution) :
    guardSource source (.gofmt program run) =
      .ok (.changed p.sites.length (OnePass.freshLines source p.sites).length
        (.unformatted (OnePass.lines source p.sites).join (.invalidSyntax cause))) := by
  rw [guardSource_of_strict hp, Except.ok.injEq, Guarded.ofDraft_eq_unformatted_iff,
    Canonicalizer.gofmt_invalidSyntax_iff, output_of_strict hp]
  exact ⟨insertions_ne_zero_of_invalid hp h, (Injected.sites_injectGuards source p.sites).symm,
    (insertions_of_strict hp).symm, rfl, h⟩

end Edited

/-- **When the edited source is valid**. Guarding a valid source puts the guards in front of their
    lines. If the result is valid, no formatter finds fault with it and it can be guarded again. If
    it is not, then a guard was inserted, every formatter is refused with the fault, the edited
    source is written all the same, and no further run accepts it. -/
theorem guardSource_gofmt_valid_iff {source : Bytes} {p : Parsed}
    (hp : Parsed.strict source = .ok p) (program : Bytes)
    (run : Bytes → Except OsError Execution) :
    (injectGuards source p.sites).output = (OnePass.lines source p.sites).join ∧
    ((∃ q, Parsed.strict (OnePass.lines source p.sites).join = .ok q) ↔
      ∀ sites insertions written cause, guardSource source (.gofmt program run) ≠
        .ok (.changed sites insertions (.unformatted written (.invalidSyntax cause)))) ∧
    ((∃ q, Parsed.strict (OnePass.lines source p.sites).join = .ok q) ↔
      ∀ c, ∃ g, guardSource (OnePass.lines source p.sites).join c = .ok g) ∧
    ∀ cause, Parsed.strict (OnePass.lines source p.sites).join = .error cause →
      OnePass.freshLines source p.sites ≠ [] ∧
      guardSource source (.gofmt program run) =
        .ok (.changed p.sites.length (OnePass.freshLines source p.sites).length
          (.unformatted (OnePass.lines source p.sites).join (.invalidSyntax cause))) ∧
      ∀ c, guardSource (OnePass.lines source p.sites).join c = .error cause := by
  refine ⟨output_of_strict hp, ?_, ?_, fun cause herror => ⟨?_, ?_, fun c => ?_⟩⟩
  · constructor
    · rintro ⟨q, hq⟩ sites insertions written cause h
      rw [guardSource_of_strict hp, Except.ok.injEq, Guarded.ofDraft_eq_unformatted_iff,
        Canonicalizer.gofmt_invalidSyntax_iff, output_of_strict hp, hq] at h
      cases h.2.2.2.2
    · intro h
      cases hq : Parsed.strict (OnePass.lines source p.sites).join with
      | ok q => exact ⟨q, rfl⟩
      | error cause => exact absurd (guardSource_of_invalid hp hq program run) (h _ _ _ _)
  · constructor
    · rintro ⟨q, hq⟩ c
      exact ⟨_, guardSource_of_strict hq c⟩
    · intro h
      obtain ⟨g, hg⟩ := h .verbatim
      cases hq : Parsed.strict (OnePass.lines source p.sites).join with
      | ok q => exact ⟨q, rfl⟩
      | error cause =>
        rw [(guardSource_eq_error_iff _ _ _).2 hq] at hg
        cases hg
  · rw [Ne, ← List.length_eq_zero_iff, ← insertions_of_strict hp]
    exact insertions_ne_zero_of_invalid hp herror
  · exact guardSource_of_invalid hp herror program run
  · exact (guardSource_eq_error_iff _ _ _).2 herror

/-! ## A guard in front of a case -/

theorem exists_of_draft_invalid {source : Bytes}
    (h : ((draft source).map fun d => (Parsed.strict d.output).isOk).toOption = some false) :
    ∃ p cause, Parsed.strict source = .ok p ∧
      Parsed.strict (injectGuards source p.sites).output = .error cause := by
  cases hp : Parsed.strict source with
  | error e =>
    rw [draft, hp] at h
    cases h
  | ok p =>
    simp only [draft, hp, Parsed.source_of_strict hp] at h
    cases hq : Parsed.strict (injectGuards source p.sites).output with
    | error cause => exact ⟨p, cause, rfl, hq⟩
    | ok q =>
      simp only [Except.map, hq] at h
      cases h

set_option maxRecDepth 100000 in
/-- The line of a call that shares it with a label begins with the label. -/
theorem draft_default_invalid :
    ((draft (Bytes.ofString "switch\x7b\ndefault:Syscall()\x7d\n")).map fun d =>
      (Parsed.strict d.output).isOk).toOption = some false := by
  decide +kernel

/-- Not every edited source is valid. -/
theorem not_forall_edited_valid : ¬∀ (source : Bytes) (p : Parsed), Parsed.strict source = .ok p →
    ∃ q, Parsed.strict (injectGuards source p.sites).output = .ok q := by
  intro h
  obtain ⟨p, cause, hp, herror⟩ := exists_of_draft_invalid draft_default_invalid
  obtain ⟨q, hq⟩ := h _ p hp
  rw [herror] at hq
  cases hq

/-- The formatter that changes nothing is not started on a guard in front of a label, and what is
    written is refused from then on. -/
theorem guardSource_gofmt_valid_iff_default :
    ∃ (source : Bytes) (p : Parsed) (cause : SyntaxError), Parsed.strict source = .ok p ∧
      guardSource source (.gofmt [99, 97, 116] fun s => .ok ⟨none, .ok ⟨.success, s, []⟩⟩) =
        .ok (.changed p.sites.length (OnePass.freshLines source p.sites).length
          (.unformatted (OnePass.lines source p.sites).join (.invalidSyntax cause))) ∧
      ∀ c, guardSource (OnePass.lines source p.sites).join c = .error cause := by
  obtain ⟨p, cause, hp, herror⟩ := exists_of_draft_invalid draft_default_invalid
  obtain ⟨houtput, -, -, hinvalid⟩ := guardSource_gofmt_valid_iff hp [99, 97, 116]
    fun s => .ok ⟨none, .ok ⟨.success, s, []⟩⟩
  rw [houtput] at herror
  obtain ⟨-, hguard, hagain⟩ := hinvalid cause herror
  exact ⟨_, p, cause, hp, hguard, hagain⟩

end SyscallGuard
