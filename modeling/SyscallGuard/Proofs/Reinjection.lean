import SyscallGuard.Proofs.Injection

set_option autoImplicit false

/-! # Injecting again

After the guards are in, each line stands further down by the number of guards inserted at or above
it (`Injected.relocate`). Sites moved along in this way find their old line there and a guard
directly above it, so injecting them into the edited source does nothing (`injectGuards_relocated`),
whatever the ranges of their calls. Both facts are read off the one-pass edit once it is known that
its lines survive being joined and cut (`split_join_lines`).

`insertions_eq_zero_iff` says of any source and any sites when nothing is inserted. -/

namespace SyscallGuard

open Bytes (newline)

/-! ## Relocation -/

/-- Whether a guard was inserted. -/
def Outcome.isInserted : Outcome → Bool
  | .inserted _ => true
  | _ => false

namespace Injected

/-- The number of guards inserted for lines of the source down to line `l`. -/
def guardsUpTo (i : Injected) (l : Nat) : Nat :=
  i.outcomes.countP fun o => o.1.position.line ≤ l && o.2.isInserted

/-- Where line `l` of the source stands after the edit. -/
def relocate (i : Injected) (l : Nat) : Nat := l + i.guardsUpTo l

end Injected

namespace OnePass

/-- The outcomes show the guards that the lines are given. -/
theorem countP_isInserted_outcomes (source : Bytes) (done rest : List Site) {l : Nat}
    (hpos : ∀ s ∈ rest, 1 ≤ s.position.line) (hl : l ≤ (Lines.split source).size) :
    guards source done l
        + ((outcomes source done rest).countP fun o => o.1.position.line ≤ l && o.2.isInserted) =
      guards source (done ++ rest) l := by
  induction rest generalizing done with
  | nil => simp [outcomes]
  | cons s rest ih =>
    have hrest := ih (done ++ [s]) fun t ht => hpos t (List.mem_cons_of_mem _ ht)
    have hadd := guards_append source done l (hpos s List.mem_cons_self)
    have hinserted : (decide (s.position.line ≤ l) && (outcome source done s).isInserted) = true ↔
        s.position.line ≤ l ∧ fresh source done s = true := by
      rw [Bool.and_eq_true, decide_eq_true_eq]
      refine and_congr_right fun hle => ?_
      rw [outcome, if_neg (by omega)]
      cases fresh source done s <;> simp [Outcome.isInserted]
    rw [List.append_cons, outcomes, List.countP_cons, ← hrest, hadd]
    simp only [hinserted]
    omega

theorem guardsUpTo_injectGuards {source : Bytes} {sites : List Site} {l : Nat}
    (hpos : ∀ s ∈ sites, 1 ≤ s.position.line)
    (horder : sites.Pairwise fun a b => a.position.line ≤ b.position.line)
    (hl : l ≤ (Lines.split source).size) :
    (injectGuards source sites).guardsUpTo l = guards source sites l := by
  have hcount := countP_isInserted_outcomes source [] sites hpos hl
  have hnone : guards source [] l = 0 := guards_of_le (k := 0) (by simp) (Nat.zero_le _)
  rw [hnone, Nat.zero_add, List.nil_append] at hcount
  rw [Injected.guardsUpTo, injectGuards_tracks hpos horder]
  exact hcount

/-! ## The edited lines as a source -/

theorem newline_not_mem_line (source : Bytes) (k : Nat) : newline ∉ line source k := by
  rw [line]
  cases h : (Lines.split source).line? (k - 1) with
  | none => simp
  | some found =>
    exact Lines.newline_not_mem_of_mem_splitBytes (List.mem_of_getElem? h)

theorem newline_not_mem_guard {source : Bytes} {sites : List Site} {k : Nat} {g : Bytes}
    (h : guard? source sites k = some g) : newline ∉ g := by
  rw [guard?] at h
  split at h
  · cases h
  · obtain ⟨s, -, rfl⟩ := Option.map_eq_some_iff.1 h
    exact Guard.newline_not_mem_line (Bytes.newline_not_mem_leadingIndent _) _

/-- Every inserted guard survives being joined and cut as one line. -/
theorem split_join_lines (source : Bytes) (sites : List Site) :
    Lines.split (lines source sites).join = lines source sites := by
  refine Lines.split_join ?_ ?_
  · have hsize := size_lines source sites
    have hpos := Lines.size_split_pos source
    intro hnil
    rw [Lines.size, hnil, List.length_nil] at hsize
    omega
  · intro l hl
    obtain ⟨k, -, hl⟩ := List.mem_flatMap.1 hl
    rw [block, List.mem_append, List.mem_singleton, Option.mem_toList] at hl
    rcases hl with hguard | rfl
    · exact newline_not_mem_guard hguard
    · exact newline_not_mem_line source k

/-- After the edit a line with a site stands directly below a guard. -/
theorem guardAbove_of_site {source : Bytes} {sites : List Site} {s : Site} (hs : s ∈ sites)
    (hpos : 1 ≤ s.position.line) (hsize : s.position.line ≤ (Lines.split source).size) :
    (Injector.start (lines source sites).join).guardAbove
      (s.position.line - 1 + guards source sites s.position.line) = true := by
  have hlines : (Injector.start (lines source sites).join).lines = lines source sites :=
    split_join_lines source sites
  rw [guardAbove_lines hlines hpos hsize, Bool.or_eq_true, guard?_isSome]
  cases h : guardedAbove source s.position.line with
  | true => exact .inr rfl
  | false => exact .inl ⟨rfl, s, hs, rfl⟩

end OnePass

/-! ## When nothing is inserted -/

namespace Injector

/-- A site for which no guard is inserted changes nothing. -/
theorem inject_of_not_inserted {i : Injector} {s : Site} (h : (i.inject s).1.isInserted = false) :
    (i.inject s).2 = i := by
  obtain ⟨hinject, -⟩ | ⟨index, target, -, -, hinject⟩ := i.inject_cases s
  · rw [hinject]
  · cases habove : i.guardAbove index with
    | true => simp [hinject, habove]
    | false => simp [hinject, habove, Outcome.isInserted] at h

/-- Insertions are counted one by one. -/
theorem insertions_inject (i : Injector) (s : Site) :
    (i.inject s).2.insertions = i.insertions + (i.inject s).1.isInserted.toNat := by
  cases h : (i.inject s).1.isInserted with
  | false => simp [inject_of_not_inserted h]
  | true =>
    obtain ⟨hinject, -⟩ | ⟨index, target, -, -, hinject⟩ := i.inject_cases s
    · simp [hinject, Outcome.isInserted] at h
    · cases habove : i.guardAbove index with
      | true => simp [hinject, habove, Outcome.isInserted] at h
      | false => simp [hinject, habove, insertAt]

theorem insertions_le_injectAll (i : Injector) (sites : List Site) :
    i.insertions ≤ (i.injectAll sites).2.insertions := by
  induction sites generalizing i with
  | nil => exact Nat.le_refl _
  | cons s rest ih =>
    have hstep := i.insertions_inject s
    have hrest := ih (i.inject s).2
    simp only [injectAll]
    omega

/-- Nothing is inserted if and only if no site gets a guard in the lines as they are. -/
theorem injectAll_insertions_eq_iff (i : Injector) (sites : List Site) :
    (i.injectAll sites).2.insertions = i.insertions ↔
      ∀ s ∈ sites, (i.inject s).1.isInserted = false := by
  induction sites generalizing i with
  | nil => simp [injectAll]
  | cons s rest ih =>
    have hstep := i.insertions_inject s
    have hrest := (i.inject s).2.insertions_le_injectAll rest
    simp only [injectAll, List.forall_mem_cons]
    cases h : (i.inject s).1.isInserted with
    | true =>
      rw [h, Bool.toNat_true] at hstep
      simp only [Bool.true_eq_false, false_and, iff_false]
      omega
    | false =>
      rw [inject_of_not_inserted h, ih i]
      simp

/-- Sites that find a guard change nothing and are counted as guarded. -/
theorem injectAll_of_alreadyGuarded {i : Injector} {sites : List Site}
    (h : ∀ s ∈ sites, i.inject s = (.alreadyGuarded, i)) :
    i.injectAll sites = (sites.map fun s => (s, .alreadyGuarded), i) := by
  induction sites with
  | nil => rfl
  | cons s rest ih =>
    have hrest := ih fun t ht => h t (List.mem_cons_of_mem _ ht)
    simp only [injectAll, h s List.mem_cons_self, hrest, List.map_cons]

end Injector

/-- In front of the first insertion, a line has a guard above it if the source has one there. -/
theorem guardAbove_start {source : Bytes} {k : Nat} (hpos : 1 ≤ k)
    (hk : k ≤ (Lines.split source).size) :
    (Injector.start source).guardAbove (k - 1) = OnePass.guardedAbove source k := by
  have hnone : OnePass.guards source [] k = 0 :=
    OnePass.guards_of_le (k := 0) (by simp) (Nat.zero_le _)
  have habove := OnePass.guardAbove_lines (Tracks.start source).lines_eq hpos hk
  rw [hnone, Nat.add_zero, OnePass.guard?_eq_none (by simp)] at habove
  simpa using habove

/-- **When nothing is inserted**: if and only if every line with a site stands below a guard. -/
theorem insertions_eq_zero_iff (source : Bytes) (sites : List Site) :
    (injectGuards source sites).insertions = 0 ↔
      ∀ s ∈ sites, 1 ≤ s.position.line → s.position.line ≤ (Lines.split source).size →
        OnePass.guardedAbove source s.position.line = true := by
  refine ((Injector.start source).injectAll_insertions_eq_iff sites).trans
    (forall₂_congr fun s _ => ?_)
  by_cases hpos : 1 ≤ s.position.line
  · have hindex : (Injector.start source).index? s = some (s.position.line - 1) :=
      Injector.index?_of_pos hpos
    simp only [hpos, true_implies]
    obtain ⟨hinject, hnone⟩ | ⟨index, target, hi, ht, hinject⟩ :=
      (Injector.start source).inject_cases s
    · rw [hindex, Option.bind_some] at hnone
      have hlen : (Lines.split source).size ≤ s.position.line - 1 :=
        List.getElem?_eq_none_iff.1 hnone
      simp only [hinject, Outcome.isInserted, true_iff]
      omega
    · rw [hindex, Option.some.injEq] at hi
      subst hi
      obtain ⟨hlt, -⟩ := List.getElem?_eq_some_iff.1 ht
      have hsize : s.position.line ≤ (Lines.split source).size := by
        have : s.position.line - 1 < (Lines.split source).size := hlt
        omega
      simp only [hsize, true_implies]
      rw [hinject, guardAbove_start hpos hsize]
      cases OnePass.guardedAbove source s.position.line <;> simp [Outcome.isInserted]
  · have hzero : s.position.line = 0 := by omega
    simp [Injector.inject, Injector.index?, hzero, Outcome.isInserted]

/-- A source in which nothing is inserted is left as it is. -/
theorem output_of_insertions_eq_zero {source : Bytes} {sites : List Site}
    (h : (injectGuards source sites).insertions = 0) :
    (injectGuards source sites).output = source := by
  have hnone := ((Injector.start source).injectAll_insertions_eq_iff sites).1 h
  have hlast : ∀ (rest : List Site),
      (∀ s ∈ rest, ((Injector.start source).inject s).1.isInserted = false) →
      ((Injector.start source).injectAll rest).2 = Injector.start source := by
    intro rest hrest
    induction rest with
    | nil => rfl
    | cons s rest ih =>
      have hstep := Injector.inject_of_not_inserted (hrest s List.mem_cons_self)
      simp only [Injector.injectAll, hstep]
      exact ih fun t ht => hrest t (List.mem_cons_of_mem _ ht)
  simp only [injectGuards, hlast sites hnone]
  exact Lines.join_split source

/-! ## Injecting the relocated sites -/

/-- Sites on lines below guards are all found to be guarded. -/
theorem injectGuards_of_guarded {source : Bytes} {sites : List Site}
    (h : ∀ s ∈ sites, 1 ≤ s.position.line ∧ s.position.line ≤ (Lines.split source).size ∧
      (Injector.start source).guardAbove (s.position.line - 1) = true) :
    injectGuards source sites = ⟨source, 0, sites.map fun s => (s, .alreadyGuarded)⟩ := by
  have hall : ∀ s ∈ sites,
      (Injector.start source).inject s = (.alreadyGuarded, Injector.start source) := by
    intro s hs
    obtain ⟨hpos, hsize, habove⟩ := h s hs
    have hindex : (Injector.start source).index? s = some (s.position.line - 1) :=
      Injector.index?_of_pos hpos
    obtain ⟨-, hnone⟩ | ⟨index, target, hi, -, hinject⟩ := (Injector.start source).inject_cases s
    · rw [hindex, Option.bind_some] at hnone
      have hlen : (Lines.split source).size ≤ s.position.line - 1 :=
        List.getElem?_eq_none_iff.1 hnone
      omega
    · rw [hindex, Option.some.injEq] at hi
      rw [hinject, ← hi, habove, if_pos rfl]
  simp only [injectGuards, Injector.injectAll_of_alreadyGuarded hall]
  rw [Injector.output, Injector.start, Lines.join_split]

section Relocated

variable {source : Bytes} {sites : List Site}
  (hrange : ∀ s ∈ sites, 1 ≤ s.position.line ∧ s.position.line ≤ (Lines.split source).size)
  (horder : sites.Pairwise fun a b => a.position.line ≤ b.position.line)

include hrange horder

theorem output_injectGuards :
    (injectGuards source sites).output = (OnePass.lines source sites).join := by
  rw [injectGuards_tracks (fun s hs => (hrange s hs).1) horder]

theorem split_output_injectGuards :
    Lines.split (injectGuards source sites).output = OnePass.lines source sites := by
  rw [output_injectGuards hrange horder]
  exact OnePass.split_join_lines source sites

/-- The index of a relocated line. -/
theorem relocate_sub_one {s : Site} (hs : s ∈ sites) :
    (injectGuards source sites).relocate s.position.line - 1 =
      s.position.line - 1 + OnePass.guards source sites s.position.line := by
  have hpos := (hrange s hs).1
  rw [Injected.relocate, OnePass.guardsUpTo_injectGuards (fun s hs => (hrange s hs).1) horder
    (hrange s hs).2]
  omega

/-- A relocated line is the line of the source. -/
theorem line?_relocate {s : Site} (hs : s ∈ sites) :
    (Lines.split (injectGuards source sites).output).line?
        ((injectGuards source sites).relocate s.position.line - 1) =
      (Lines.split source).line? (s.position.line - 1) := by
  obtain ⟨hpos, hsize⟩ := hrange s hs
  have hlt : s.position.line - 1 < (Lines.split source).toList.length := by
    rw [Lines.size] at hsize
    omega
  rw [split_output_injectGuards hrange horder, relocate_sub_one hrange horder hs,
    OnePass.line?_lines source sites hpos hsize, OnePass.line, Lines.line?,
    List.getElem?_eq_getElem hlt]
  rfl

/-- A relocated line stands directly below a guard. -/
theorem guardAbove_relocate {s : Site} (hs : s ∈ sites) :
    (Injector.start (injectGuards source sites).output).guardAbove
      ((injectGuards source sites).relocate s.position.line - 1) = true := by
  rw [output_injectGuards hrange horder, relocate_sub_one hrange horder hs]
  exact OnePass.guardAbove_of_site hs (hrange s hs).1 (hrange s hs).2

/-- Relocated sites are all found to be guarded. -/
theorem injectGuards_again {again : List Site}
    (hagain : (again.map fun s => s.position.line) =
      sites.map fun s => (injectGuards source sites).relocate s.position.line) :
    injectGuards (injectGuards source sites).output again =
      ⟨(injectGuards source sites).output, 0, again.map fun s => (s, .alreadyGuarded)⟩ := by
  refine injectGuards_of_guarded fun t ht => ?_
  have hmem : t.position.line ∈ again.map fun s => s.position.line := List.mem_map.2 ⟨t, ht, rfl⟩
  rw [hagain] at hmem
  obtain ⟨s, hs, hline⟩ := List.mem_map.1 hmem
  obtain ⟨hpos, hsize⟩ := hrange s hs
  have hle : s.position.line ≤ t.position.line := by
    rw [← hline, Injected.relocate]
    exact Nat.le_add_right _ _
  have hlt : t.position.line - 1 < (Lines.split (injectGuards source sites).output).size := by
    rw [← hline, split_output_injectGuards hrange horder, relocate_sub_one hrange horder hs]
    exact (List.getElem?_eq_some_iff.1 (OnePass.line?_lines source sites hpos hsize)).1
  refine ⟨by omega, by omega, ?_⟩
  rw [← hline]
  exact guardAbove_relocate hrange horder hs

end Relocated

/-- A guard above an index is a line of its own. -/
theorem exists_of_guardAbove {i : Injector} {index : Nat} (h : i.guardAbove index = true) :
    1 ≤ index ∧ ∃ above, i.lines.line? (index - 1) = some above ∧ Guard.isGuard above = true := by
  cases index with
  | zero => cases h
  | succ index =>
    rw [Injector.guardAbove, Option.any_eq_true] at h
    exact ⟨by omega, h⟩

/-- **Injection is idempotent up to relocation**: a relocated line is the old line and stands
    directly below a guard, and injecting sites on the relocated lines into the edited source
    inserts nothing. -/
theorem injectGuards_relocated (source : Bytes) (sites : List Site)
    (hrange : ∀ s ∈ sites, 1 ≤ s.position.line ∧ s.position.line ≤ (Lines.split source).size)
    (horder : sites.Pairwise fun a b => a.position.line ≤ b.position.line) :
    (∀ s ∈ sites,
      (Lines.split (injectGuards source sites).output).line?
          ((injectGuards source sites).relocate s.position.line - 1) =
        (Lines.split source).line? (s.position.line - 1) ∧
      2 ≤ (injectGuards source sites).relocate s.position.line ∧
      ∃ above, (Lines.split (injectGuards source sites).output).line?
          ((injectGuards source sites).relocate s.position.line - 2) = some above ∧
        Guard.isGuard above = true) ∧
    ∀ again : List Site,
      (again.map fun s => s.position.line) =
        (sites.map fun s => (injectGuards source sites).relocate s.position.line) →
      (injectGuards (injectGuards source sites).output again).insertions = 0 ∧
      (injectGuards (injectGuards source sites).output again).alreadyGuarded = again.length ∧
      (injectGuards (injectGuards source sites).output again).output =
        (injectGuards source sites).output := by
  refine ⟨fun s hs => ?_, fun again hagain => ?_⟩
  · obtain ⟨hindex, above, hfound, hguard⟩ :=
      exists_of_guardAbove (guardAbove_relocate hrange horder hs)
    refine ⟨line?_relocate hrange horder hs, by omega, above, ?_, hguard⟩
    rwa [Nat.sub_sub] at hfound
  · rw [injectGuards_again hrange horder hagain]
    exact ⟨rfl, by simp [Injected.alreadyGuarded, List.countP_map, Function.comp_def], rfl⟩

/-- Two fresh sites on one line and a third below a guard of the source, injected twice. -/
theorem injectGuards_relocated_mixed :
    ∃ (source : Bytes) (sites again : List Site), sites.length = 3 ∧
      (∀ s ∈ sites, 1 ≤ s.position.line ∧ s.position.line ≤ (Lines.split source).size) ∧
      (sites.Pairwise fun a b => a.position.line ≤ b.position.line) ∧
      (injectGuards source sites).insertions = 1 ∧
      (injectGuards (injectGuards source sites).output again).insertions = 0 ∧
      (injectGuards (injectGuards source sites).output again).alreadyGuarded = 3 := by
  let source := Bytes.ofString ("f()\n" ++ Guard.marker ++ "\ng()")
  let sites : List Site := [⟨⟨1, 1⟩, 0, 3, .syscall⟩, ⟨⟨1, 2⟩, 1, 3, .syscall⟩,
    ⟨⟨3, 1⟩, 0, 99, .rawSyscall⟩]
  let again : List Site := [⟨⟨2, 1⟩, 0, 0, .syscall⟩, ⟨⟨2, 2⟩, 7, 8, .syscall⟩,
    ⟨⟨4, 1⟩, 9, 0, .rawSyscall⟩]
  have hrange : ∀ s ∈ sites, 1 ≤ s.position.line ∧
      s.position.line ≤ (Lines.split source).size := by decide
  have horder : sites.Pairwise fun a b => a.position.line ≤ b.position.line := by decide
  obtain ⟨-, hagain⟩ := injectGuards_relocated source sites hrange horder
  obtain ⟨hinsertions, hguarded, -⟩ := hagain again (by decide)
  exact ⟨source, sites, again, rfl, hrange, horder, by decide, hinsertions, hguarded⟩

end SyscallGuard
