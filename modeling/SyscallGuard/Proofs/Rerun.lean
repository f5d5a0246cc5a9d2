import SyscallGuard.Proofs.Outline
import SyscallGuard.Proofs.Relocation
import SyscallGuard.Proofs.Validity

set_option autoImplicit false

/-! # Guarding twice

A source that has been guarded is guarded again. What the second run does is settled by where it finds
sites: a line of the edited source stands below a guard if and only if it is the relocated line of one
that has a site or stood below a guard before (`OnePass.guardedAbove_lines_iff`), and every other line
with a site is given a guard (`guardSource_again`). Such lines exist: a guard that is put into a string
may end that string and be code from there on (`not_forall_unchanged_again`).

If the tree of the edited source has the outline of the old tree with all its ranges moved
(`Parsed.KeepsTree`), detection finds the old sites on their new lines, and the second run changes
nothing. -/

namespace SyscallGuard

/-! ## Lines below a guard -/

namespace OnePass

/-- Whether a line of the source has a guard directly above it after the edit: it had one before, or
    there is a site on it. -/
def Covered (source : Bytes) (sites : List Site) (l : Nat) : Prop :=
  1 ≤ l ∧ l ≤ (Lines.split source).size ∧
    (guardedAbove source l = true ∨ ∃ s ∈ sites, s.position.line = l)

variable {source : Bytes} {sites : List Site}

/-- There is one more guard down to a line with a guard than down to the line above it. -/
theorem guards_of_isSome {k : Nat} (hpos : 1 ≤ k) (h : (guard? source sites k).isSome = true) :
    guards source sites k = guards source sites (k - 1) + 1 := by
  obtain ⟨l, rfl⟩ := Nat.exists_eq_add_of_le' hpos
  obtain ⟨g, hg⟩ := Option.isSome_iff_exists.1 h
  rw [guards_succ, hg]
  rfl

/-- A line of the edited source is a relocated line or the guard above one. -/
theorem exists_relocated (source : Bytes) (sites : List Site) {j : Nat} (hpos : 1 ≤ j) {l : Nat}
    (hj : j ≤ l + guards source sites l) :
    ∃ k, 1 ≤ k ∧ k ≤ l ∧ (j = k + guards source sites k ∨
      (guard? source sites k).isSome = true ∧ j + 1 = k + guards source sites k) := by
  induction l with
  | zero =>
    have hnone : guards source sites 0 = 0 := rfl
    omega
  | succ l ih =>
    rcases Nat.lt_or_ge (l + guards source sites l) j with hlast | hfront
    · refine ⟨l + 1, by omega, Nat.le_refl _, ?_⟩
      by_cases hguard : (guard? source sites (l + 1)).isSome = true
      · have hone := guards_of_isSome (by omega) hguard
        rw [Nat.add_sub_cancel] at hone
        rw [and_iff_right hguard]
        omega
      · have hsucc := guards_succ source sites l
        rw [Option.not_isSome_iff_eq_none.1 hguard, Option.toList_none, List.length_nil] at hsucc
        left
        omega
    · obtain ⟨k, hk, hkl, hrelocated⟩ := ih hfront
      exact ⟨k, hk, Nat.le_succ_of_le hkl, hrelocated⟩

/-- A relocated line stands below a guard if and only if it was covered. -/
theorem guardedAbove_relocated {k : Nat} (hpos : 1 ≤ k) (hk : k ≤ (Lines.split source).size)
    (hsize : k + guards source sites k ≤ (Lines.split (lines source sites).join).size) :
    guardedAbove (lines source sites).join (k + guards source sites k) = true ↔
      Covered source sites k := by
  have hlines : (Injector.start (lines source sites).join).lines = lines source sites :=
    split_join_lines source sites
  have habove := guardAbove_lines hlines hpos hk
  rw [show k - 1 + guards source sites k = k + guards source sites k - 1 by omega,
    guardAbove_start (by omega) hsize] at habove
  rw [habove, Bool.or_eq_true, guard?_isSome]
  unfold Covered
  cases guardedAbove source k <;> simp [hpos, hk]

/-- A guard that was inserted does not stand below another. -/
theorem guardedAbove_guard {k j : Nat} (hpos : 1 ≤ k) (hk : k ≤ (Lines.split source).size)
    (hguard : (guard? source sites k).isSome = true) (hj : j + 1 = k + guards source sites k) :
    guardedAbove (lines source sites).join j = false := by
  obtain ⟨habove, -⟩ := guard?_isSome.1 hguard
  have hone := guards_of_isSome hpos hguard
  obtain ⟨l, rfl⟩ := Nat.exists_eq_add_of_le' hpos
  rw [Nat.add_sub_cancel] at hone
  cases l with
  | zero =>
    have hnone : guards source sites 0 = 0 := rfl
    obtain rfl : j = 1 := by omega
    rfl
  | succ l =>
    -- above it is the previous line of the source, which is no guard
    have hprev := line?_lines source sites (k := l + 1) (by omega) (by omega)
    have hindex : j - 1 - 1 = l + 1 - 1 + guards source sites (l + 1) := by omega
    have hline : line (lines source sites).join (j - 1) = line source (l + 1) := by
      rw [line, split_join_lines, hindex, hprev, Option.getD_some]
    have hsource : guardedAbove source (l + 1 + 1) = Guard.isGuard (line source (l + 1)) := by
      simp [guardedAbove]
    rw [guardedAbove, hline, ← hsource, habove, Bool.and_false]

/-- **Which lines stand below a guard after the edit**: those that were covered, where they stand
    now. -/
theorem guardedAbove_lines_iff {j : Nat} (hpos : 1 ≤ j)
    (hsize : j ≤ (Lines.split (lines source sites).join).size) :
    guardedAbove (lines source sites).join j = true ↔
      ∃ l, Covered source sites l ∧ l + guards source sites l = j := by
  have hedited : (Lines.split (lines source sites).join).size =
      (Lines.split source).size + guards source sites (Lines.split source).size := by
    rw [split_join_lines, size_lines]
  obtain ⟨k, hk, hkl, rfl | ⟨hguard, hj⟩⟩ := exists_relocated source sites hpos (hedited ▸ hsize)
  · rw [guardedAbove_relocated hk hkl hsize]
    constructor
    · exact fun h => ⟨k, h, rfl⟩
    · rintro ⟨l, hcovered, hsame⟩
      -- no two lines are relocated to the same
      obtain rfl : l = k := by
        rcases Nat.le_total l k with h | h <;>
          · have := guards_mono source sites h
            omega
      exact hcovered
  · rw [guardedAbove_guard hk hkl hguard hj]
    refine iff_of_false Bool.false_ne_true ?_
    rintro ⟨l, -, hsame⟩
    have hone := guards_of_isSome hk hguard
    rcases Nat.lt_or_ge l k with h | h
    · have := guards_mono source sites (Nat.le_sub_one_of_lt h)
      omega
    · have := guards_mono source sites h
      omega

end OnePass

/-! ## Sites of the edited source -/

/-- Where a range of the source stands after the edit. -/
def OnePass.moveRange (source : Bytes) (sites : List Site) (r : Nat × Nat) : Nat × Nat :=
  (move source sites r.1, moveStop source sites r.1 r.2)

/-- A site `b` of the edited source is the site `a` of the source: it calls the same primitive, it
    stands on the relocated line, and its call has the old text if and only if no guard was inserted
    between the first and the last line of the call. -/
structure Site.MovesTo (source : Bytes) (i : Injected) (a b : Site) : Prop where
  primitive : b.primitive = a.primitive
  line : b.position.line = i.relocate a.position.line
  text : i.output.slice b.start b.stop = source.slice a.start a.stop ↔
    i.guardsUpTo (lineOf source (a.stop - 1)) ≤ i.guardsUpTo (lineOf source a.start)

theorem Site.readAgain_self (text : Bytes) (limit : Nat) :
    Site.ReadAgain text text id limit Eq := by
  intro statement call name hstatement hcall hname _
  have hplaced : ∀ i : NodeInfo, i.kind.isOpen = false → i.placed id = i := by
    intro i hi
    rw [NodeInfo.placed, hi, if_neg Bool.false_ne_true]
    rfl
  rw [hplaced _ hstatement, hplaced _ hcall, hplaced _ hname]
  cases Site.read text statement call name with
  | none => exact .none
  | some s => exact .some rfl

section Moved

variable {source : Bytes} {sites : List Site}
  (hrange : ∀ s ∈ sites, 1 ≤ s.position.line ∧ s.position.line ≤ (Lines.split source).size)
  (horder : sites.Pairwise fun a b => a.position.line ≤ b.position.line)
  (hsize : (Lines.split (injectGuards source sites).output).size ≤ Position.limit)

include hrange horder

theorem guardsUpTo_lineOf (x : Nat) :
    (injectGuards source sites).guardsUpTo (lineOf source x) =
      OnePass.guards source sites (lineOf source x) :=
  OnePass.guardsUpTo_injectGuards (fun s hs => (hrange s hs).1) horder (lineOf_le_size source x)

include hsize

theorem line_ofOffset_move (x : Nat) :
    (Position.ofOffset (injectGuards source sites).output (OnePass.move source sites x)).line =
      (injectGuards source sites).relocate (Position.ofOffset source x).line := by
  have houtput := output_injectGuards hrange horder
  have hgrown := OnePass.size_lines source sites
  rw [split_output_injectGuards hrange horder] at hsize
  have hline := lineOf_le_size source x
  have hmoved := OnePass.lineOf_move source sites x
  have hedited := lineOf_le_size (OnePass.lines source sites).join (OnePass.move source sites x)
  rw [OnePass.split_join_lines] at hedited
  rw [Position.line_ofOffset, Position.line_ofOffset, houtput, Nat.min_eq_right (by omega),
    Nat.min_eq_right (by omega), Injected.relocate, guardsUpTo_lineOf hrange horder, hmoved]

/-- What is read at nodes of the source is read at their moved places. -/
theorem Site.readAgain_moved :
    Site.ReadAgain source (injectGuards source sites).output (OnePass.moveRange source sites)
      source.length (Site.MovesTo source (injectGuards source sites)) := by
  intro statement call name hstatement hcall hname hstop
  have houtput := output_injectGuards hrange horder
  have hprimitive := OnePass.ofName?_slice_move source sites name.start name.stop
  have htext := OnePass.slice_move_eq_iff sites (a := call.start) hstop
  have hline := line_ofOffset_move hrange horder hsize statement.start
  rw [← houtput] at hprimitive htext
  simp only [NodeInfo.placed, hstatement, hcall, hname, Bool.false_eq_true, if_false, Site.read,
    OnePass.moveRange, hprimitive]
  cases Primitive.ofName? (source.slice name.start name.stop) with
  | none => exact .none
  | some p =>
    refine .some ⟨rfl, hline, ?_⟩
    rw [guardsUpTo_lineOf hrange horder, guardsUpTo_lineOf hrange horder]
    exact htext

end Moved

/-! ## The second run -/

/-- Whether the edited source `q` of `p` is read as `p` was: its tree has the outline of the old
    tree in its new place. -/
def Parsed.KeepsTree (p q : Parsed) : Prop :=
  q.root.outline q.source id = p.root.outline p.source (OnePass.moveRange p.source p.sites)

instance (p q : Parsed) : Decidable (p.KeepsTree q) := inferInstanceAs (Decidable (_ = _))

/-- **What guarding a valid source comes to**: its lines with a site that do not stand below a guard
    are given one, if there are such lines. -/
theorem guardSource_verbatim {source : Bytes} {p : Parsed} (hp : Parsed.strict source = .ok p) :
    guardSource source .verbatim = .ok (if OnePass.freshLines source p.sites = [] then
        .unchanged p.sites.length
      else .changed p.sites.length (OnePass.freshLines source p.sites).length
        (.formatted (OnePass.lines source p.sites).join)) := by
  rw [guardSource_of_strict hp, Guarded.ofDraft, insertions_of_strict hp,
    Injected.sites_injectGuards, output_of_strict hp]
  simp only [List.length_eq_zero_iff]
  rfl

/-- A line is given a guard if it has a site and does not stand below a guard. -/
theorem mem_freshLines {source : Bytes} {p : Parsed} (hp : Parsed.strict source = .ok p) {j : Nat} :
    j ∈ OnePass.freshLines source p.sites ↔
      (∃ s ∈ p.sites, s.position.line = j) ∧ OnePass.guardedAbove source j ≠ true := by
  rw [OnePass.freshLines, List.mem_filter, List.mem_dedup, List.mem_map, Bool.and_eq_true,
    decide_eq_true_eq, Bool.not_eq_true', ← Bool.not_eq_true]
  refine and_congr_right ?_
  rintro ⟨s, hs, rfl⟩
  exact and_iff_right ((Parsed.sites_of_strict hp).1 s hs).2

/-- A valid source that is changed is left with its guards in it. -/
theorem guardSource_verbatim_eq_changed_iff {source edited : Bytes} {p : Parsed} {n k : Nat}
    (hp : Parsed.strict source = .ok p) :
    guardSource source .verbatim = .ok (.changed n k (.formatted edited)) ↔
      (injectGuards source p.sites).insertions ≠ 0 ∧ n = p.sites.length ∧
        k = (injectGuards source p.sites).insertions ∧
        edited = (injectGuards source p.sites).output := by
  rw [guardSource_of_strict hp, Except.ok.injEq, Guarded.ofDraft, Injected.sites_injectGuards]
  split
  · next h => exact iff_of_false (by rintro ⟨⟩) fun hc => hc.1 h
  · next h =>
    rw [Guarded.changed.injEq, and_iff_right h, Rendered.of, Canonicalizer.verbatim,
      Rendered.ofResult, Rendered.formatted.injEq, eq_comm, eq_comm (b := k), eq_comm (b := edited)]

/-- Detection finds the old sites in a source that is read as before. -/
theorem Parsed.sites_of_keepsTree {source : Bytes} {p q : Parsed}
    (hp : Parsed.strict source = .ok p)
    (hq : Parsed.strict (injectGuards source p.sites).output = .ok q)
    (hsize : (Lines.split (injectGuards source p.sites).output).size ≤ Position.limit)
    (hkeeps : p.KeepsTree q) :
    List.Forall₂ (Site.MovesTo source (injectGuards source p.sites)) p.sites q.sites := by
  obtain ⟨hrange, horder⟩ := Parsed.sites_of_strict hp
  have hwithin : ∀ {text : Bytes} {r : Parsed}, Parsed.strict text = .ok r →
      ∀ k ∈ r.root.preorder, k.stop ≤ text.length := by
    intro text r hr k hk
    obtain ⟨hordered, hstop⟩ := Parsed.root_ordered_of_strict hr
    exact Nat.le_trans (Node.preorder_between hordered k hk).2.1 hstop
  have hsites : ∀ {text : Bytes} {r : Parsed}, Parsed.strict text = .ok r →
      r.sites = Site.ofTree text r.root := by
    intro text r hr
    rw [Parsed.sites, Parsed.source_of_strict hr]
  have hold := Node.ofTree_outline (Site.readAgain_moved hrange horder hsize) (hwithin hp)
  have hnew := Node.ofTree_outline
    (Site.readAgain_self (injectGuards source p.sites).output _) (hwithin hq)
  rw [List.forall₂_eq_eq_eq, ← hsites hq] at hnew
  rw [Parsed.KeepsTree, Parsed.source_of_strict hp, Parsed.source_of_strict hq] at hkeeps
  rwa [← hkeeps, ← hnew, ← hsites hp] at hold

/-- The lines that a second run gives a guard: those with a site that are not the relocated lines of
    covered ones. -/
theorem mem_freshLines_again {source : Bytes} {p q : Parsed} (hp : Parsed.strict source = .ok p)
    (hq : Parsed.strict (injectGuards source p.sites).output = .ok q) {j : Nat} :
    j ∈ OnePass.freshLines (injectGuards source p.sites).output q.sites ↔
      (∃ b ∈ q.sites, b.position.line = j) ∧
        ¬∃ l, OnePass.Covered source p.sites l ∧ (injectGuards source p.sites).relocate l = j := by
  obtain ⟨hrange, horder⟩ := Parsed.sites_of_strict hp
  rw [mem_freshLines hq]
  refine and_congr_right ?_
  rintro ⟨b, hb, rfl⟩
  obtain ⟨hpos, hsize⟩ := (Parsed.sites_of_strict hq).1 b hb
  have houtput := output_injectGuards hrange horder
  have hrelocate : ∀ l, OnePass.Covered source p.sites l →
      (injectGuards source p.sites).relocate l = l + OnePass.guards source p.sites l := by
    intro l hl
    rw [Injected.relocate, OnePass.guardsUpTo_injectGuards (fun s hs => (hrange s hs).1) horder hl.2.1]
  rw [houtput] at hsize ⊢
  rw [Ne, OnePass.guardedAbove_lines_iff hpos hsize]
  refine not_congr (exists_congr fun l => and_congr_right fun hl => ?_)
  rw [hrelocate l hl]

/-- Sites that have moved are on the relocated lines. -/
theorem Site.lines_of_movesTo {source : Bytes} {i : Injected} {sites again : List Site}
    (h : List.Forall₂ (Site.MovesTo source i) sites again) :
    (again.map fun b => b.position.line) = sites.map fun a => i.relocate a.position.line := by
  rw [← List.forall₂_eq_eq_eq, List.forall₂_map_left_iff, List.forall₂_map_right_iff]
  exact h.flip.imp fun b a hmoves => hmoves.line

/-- **Running twice**. Where the edited source is still valid, the second run gives a guard to each
    line with a site that is not the relocated line of one with a site or below a guard of the source,
    and changes nothing if and only if there is none. So it is if the sites that it finds are on the
    relocated lines of the old sites. And if the edited source is read as the old one was, then they
    are: there are as many, in the old order, with the old primitives, and the calls that no guard was
    put into have their old text. -/
theorem guardSource_again {source edited : Bytes} {p q : Parsed} {n k : Nat}
    (hguard : guardSource source .verbatim = .ok (.changed n k (.formatted edited)))
    (hp : Parsed.strict source = .ok p) (hq : Parsed.strict edited = .ok q) :
    let first := injectGuards source p.sites
    (∃ missing : List Nat, missing.Nodup ∧
      (∀ j, j ∈ missing ↔ (∃ b ∈ q.sites, b.position.line = j) ∧
        ¬∃ l, OnePass.Covered source p.sites l ∧ first.relocate l = j) ∧
      guardSource edited .verbatim = .ok (if missing = [] then .unchanged q.sites.length
        else .changed q.sites.length missing.length
          (.formatted (OnePass.lines edited q.sites).join))) ∧
    (∀ m, guardSource edited .verbatim = .ok (.unchanged m) ↔ m = q.sites.length ∧
      ∀ b ∈ q.sites, ∃ l, OnePass.Covered source p.sites l ∧
        first.relocate l = b.position.line) ∧
    ((q.sites.map fun b => b.position.line) =
        (p.sites.map fun a => first.relocate a.position.line) →
      guardSource edited .verbatim = .ok (.unchanged n)) ∧
    ((Lines.split edited).size ≤ Position.limit → p.KeepsTree q →
      List.Forall₂ (Site.MovesTo source first) p.sites q.sites) := by
  intro first
  obtain ⟨-, rfl, -, rfl⟩ := (guardSource_verbatim_eq_changed_iff hp).1 hguard
  have hmissing : ∀ j, j ∈ OnePass.freshLines first.output q.sites ↔ _ :=
    fun j => mem_freshLines_again hp hq
  have hunchanged : ∀ m, guardSource first.output .verbatim = .ok (.unchanged m) ↔
      m = q.sites.length ∧ ∀ b ∈ q.sites, ∃ l, OnePass.Covered source p.sites l ∧
        first.relocate l = b.position.line := by
    intro m
    have hnone : OnePass.freshLines first.output q.sites = [] ↔
        ∀ b ∈ q.sites, ∃ l, OnePass.Covered source p.sites l ∧
          first.relocate l = b.position.line := by
      rw [List.eq_nil_iff_forall_not_mem]
      simp only [hmissing, not_and, not_not, forall_exists_index, and_imp,
        forall_apply_eq_imp_iff₂]
      rfl
    rw [guardSource_verbatim hq, Except.ok.injEq, ← hnone]
    split
    · next h => rw [Guarded.unchanged.injEq, and_iff_left h, eq_comm]
    · next h => exact iff_of_false (by rintro ⟨⟩) fun hc => h hc.2
  refine ⟨⟨_, (List.nodup_dedup _).filter _, hmissing, guardSource_verbatim hq⟩, hunchanged,
    fun hlines => ?_, fun hsize hkeeps => Parsed.sites_of_keepsTree hp hq hsize hkeeps⟩
  have hlength : p.sites.length = q.sites.length := by simpa using (congrArg List.length hlines).symm
  refine (hunchanged _).2 ⟨hlength, fun b hb => ?_⟩
  have hmem : b.position.line ∈ q.sites.map fun b => b.position.line := List.mem_map_of_mem hb
  rw [hlines] at hmem
  obtain ⟨a, ha, hline⟩ := List.mem_map.1 hmem
  obtain ⟨hpos, hsize⟩ := (Parsed.sites_of_strict hp).1 a ha
  exact ⟨a.position.line, ⟨hpos, hsize, .inr ⟨a, ha, rfl⟩⟩, hline⟩

/-! ## Two runs on fixed sources -/

/-- A source and what its first run makes of it, if both are valid. -/
def Parsed.runs? (source : Bytes) : Option (Parsed × Parsed) :=
  match Parsed.strict source with
  | .error _ => none
  | .ok p =>
    match Parsed.strict (injectGuards source p.sites).output with
    | .error _ => none
    | .ok q => some (p, q)

theorem Parsed.exists_of_runs? {source : Bytes} {check : Parsed × Parsed → Bool}
    (h : (Parsed.runs? source).any check = true) :
    ∃ p q, Parsed.strict source = .ok p ∧
      Parsed.strict (injectGuards source p.sites).output = .ok q ∧ check (p, q) = true := by
  rw [Parsed.runs?] at h
  cases hp : Parsed.strict source with
  | error e =>
    rw [hp] at h
    cases h
  | ok p =>
    rw [hp] at h
    cases hq : Parsed.strict (injectGuards source p.sites).output with
    | error e => simp [hq] at h
    | ok q => exact ⟨p, q, rfl, hq, by simpa [hq] using h⟩

set_option maxRecDepth 100000 in
theorem Parsed.runs?_labelled :
    ((Parsed.runs? (Bytes.ofString "L:\nSyscall()\n")).any fun r =>
      r.1.sites.length = 1 && (injectGuards r.1.source r.1.sites).insertions = 1
        && (Lines.split r.2.source).size ≤ Position.limit && r.1.KeepsTree r.2) = true := by
  decide +kernel

/-- A string of two lines in front of a call whose text ends the string. -/
def reopened : Bytes := Bytes.ofString "x=`\n`;Syscall(\"`;Syscall();_=`\")\n"

set_option maxRecDepth 100000 in
theorem Parsed.runs?_reopened :
    ((Parsed.runs? reopened).any fun r =>
      r.1.sites.length = 1 && (injectGuards r.1.source r.1.sites).insertions = 1
        && r.2.sites.length = 2
        && (OnePass.freshLines r.2.source r.2.sites).length = 1) = true := by
  decide +kernel

/-- What both runs make of that source: the second finds a site in the guard of the first. -/
theorem guardSource_reopened : ∃ (edited : Bytes) (p q : Parsed),
    guardSource reopened .verbatim = .ok (.changed 1 1 (.formatted edited)) ∧
    Parsed.strict reopened = .ok p ∧ Parsed.strict edited = .ok q ∧
    guardSource edited .verbatim =
      .ok (.changed 2 1 (.formatted (OnePass.lines edited q.sites).join)) := by
  obtain ⟨p, q, hp, hq, hcheck⟩ := Parsed.exists_of_runs? Parsed.runs?_reopened
  simp only [Bool.and_eq_true, decide_eq_true_eq, Parsed.source_of_strict hp,
    Parsed.source_of_strict hq] at hcheck
  obtain ⟨⟨⟨hsites, hinsertions⟩, hagain⟩, hfresh⟩ := hcheck
  have hguard := (guardSource_verbatim_eq_changed_iff hp).2
    ⟨by rw [hinsertions]; exact Nat.one_ne_zero, hsites.symm, hinsertions.symm, rfl⟩
  refine ⟨_, p, q, hguard, hp, hq, ?_⟩
  rw [guardSource_verbatim hq, if_neg, hagain, hfresh]
  intro hnone
  rw [hnone] at hfresh
  cases hfresh

/-- A source that has been guarded is not always left as it is from then on. -/
theorem not_forall_unchanged_again :
    ¬∀ (source edited : Bytes) (p q : Parsed) (n k : Nat),
      guardSource source .verbatim = .ok (.changed n k (.formatted edited)) →
      Parsed.strict source = .ok p → Parsed.strict edited = .ok q →
      guardSource edited .verbatim = .ok (.unchanged n) := by
  intro h
  obtain ⟨edited, p, q, hguard, hp, hq, hagain⟩ := guardSource_reopened
  rw [h _ _ p q _ _ hguard hp hq] at hagain
  cases hagain

/-- A guard between a label and its statement takes the label, and the statement is a site as
    before. A guard that is put into a string and ends it has a site on its own line, which is the
    one line that the second run gives a guard. -/
theorem guardSource_again_labelled :
    (∃ (source edited : Bytes) (p q : Parsed),
      guardSource source .verbatim = .ok (.changed 1 1 (.formatted edited)) ∧
      Parsed.strict source = .ok p ∧ Parsed.strict edited = .ok q ∧ p.KeepsTree q ∧
      List.Forall₂ (Site.MovesTo source (injectGuards source p.sites)) p.sites q.sites ∧
      guardSource edited .verbatim = .ok (.unchanged 1)) ∧
    ∃ (edited : Bytes) (p q : Parsed) (missing : List Nat),
      guardSource reopened .verbatim = .ok (.changed 1 1 (.formatted edited)) ∧
      Parsed.strict reopened = .ok p ∧ Parsed.strict edited = .ok q ∧ missing.length = 1 ∧
      ∀ j ∈ missing, (∃ b ∈ q.sites, b.position.line = j) ∧
        ¬∃ l, OnePass.Covered reopened p.sites l ∧
          (injectGuards reopened p.sites).relocate l = j := by
  constructor
  · obtain ⟨p, q, hp, hq, hcheck⟩ := Parsed.exists_of_runs? Parsed.runs?_labelled
    simp only [Bool.and_eq_true, decide_eq_true_eq, Parsed.source_of_strict hp,
      Parsed.source_of_strict hq] at hcheck
    obtain ⟨⟨⟨hsites, hinsertions⟩, hsize⟩, hkeeps⟩ := hcheck
    have hguard := (guardSource_verbatim_eq_changed_iff hp).2
      ⟨by rw [hinsertions]; exact Nat.one_ne_zero, hsites.symm, hinsertions.symm, rfl⟩
    obtain ⟨-, -, hunchanged, hmoved⟩ := guardSource_again hguard hp hq
    have hmoves := hmoved hsize hkeeps
    exact ⟨_, _, p, q, hguard, hp, hq, hkeeps, hmoves, hunchanged (Site.lines_of_movesTo hmoves)⟩
  · obtain ⟨edited, p, q, hguard, hp, hq, hagain⟩ := guardSource_reopened
    obtain ⟨⟨missing, -, hmissing, hsecond⟩, -⟩ := guardSource_again hguard hp hq
    refine ⟨edited, p, q, missing, hguard, hp, hq, ?_, fun j hj => (hmissing j).1 hj⟩
    rw [hagain, Except.ok.injEq] at hsecond
    split at hsecond
    · cases hsecond
    · exact (Guarded.changed.inj hsecond).2.1.symm

set_option maxRecDepth 100000 in
theorem Parsed.runs?_nested :
    ((Parsed.runs? (Bytes.ofString "Syscall(func()\x7b\nSyscall()\x7d)\n")).any fun r =>
      (injectGuards r.1.source r.1.sites).insertions ≠ 0
        && (r.2.sites.map fun s => r.2.source.slice s.start s.stop) ≠
          r.1.sites.map fun s => r.1.source.slice s.start s.stop) = true := by
  decide +kernel

/-- A guard inside of a call changes its text, so that not every call keeps its own. -/
theorem not_forall_text_kept :
    ¬∀ (source edited : Bytes) (p q : Parsed) (n k : Nat),
      guardSource source .verbatim = .ok (.changed n k (.formatted edited)) →
      Parsed.strict source = .ok p → Parsed.strict edited = .ok q →
      (q.sites.map fun s => edited.slice s.start s.stop) =
        p.sites.map fun s => source.slice s.start s.stop := by
  intro h
  obtain ⟨p, q, hp, hq, hcheck⟩ := Parsed.exists_of_runs? Parsed.runs?_nested
  simp only [Bool.and_eq_true, decide_eq_true_eq, Parsed.source_of_strict hp,
    Parsed.source_of_strict hq] at hcheck
  obtain ⟨hinsertions, htexts⟩ := hcheck
  have hguard := (guardSource_verbatim_eq_changed_iff hp).2 ⟨hinsertions, rfl, rfl, rfl⟩
  exact htexts (h _ _ p q _ _ hguard hp hq)

end SyscallGuard
