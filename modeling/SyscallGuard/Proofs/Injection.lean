import SyscallGuard.Inject
import SyscallGuard.Proofs.Text
import Mathlib.Data.List.Dedup

set_option autoImplicit false

/-! # Injection in one pass

The injector edits a growing list of lines and corrects every line number by the number of guards
inserted so far. `OnePass.lines` is the same edit without any bookkeeping: each line of the source
is looked at once and is given its guard there and then, judged by the line above it *in the
source*. `injectGuards_eq_onePass` says that the two agree on all lists of sites in the order of
their lines.

The invariant (`Tracks`) compares the injector with the one-pass edit for the sites dealt with so
far. A new site comes from a line at or below all of these, so the one-pass edit differs only in the
block of that line (`guard?_append_of_ne`), and the index that the injector computes is where the
line of that block stands (`line?_lines`). -/

namespace SyscallGuard

/-! ## The one-pass edit -/

namespace OnePass

/-- Line `k` of a source, counted from one. -/
def line (source : Bytes) (k : Nat) : Bytes := ((Lines.split source).line? (k - 1)).getD []

/-- Whether line `k` of the source stands directly below a guard. -/
def guardedAbove (source : Bytes) (k : Nat) : Bool :=
  2 ≤ k && Guard.isGuard (line source (k - 1))

/-- The first of some sites that is on line `k`. -/
def siteOn? (sites : List Site) (k : Nat) : Option Site :=
  sites.find? fun s => s.position.line == k

/-- The guard that line `k` is given: none if no site is there or the source has one already. -/
def guard? (source : Bytes) (sites : List Site) (k : Nat) : Option Bytes :=
  if guardedAbove source k then none
  else (siteOn? sites k).map fun s =>
    Guard.line (Bytes.leadingIndent (line source k)) (source.slice s.start s.stop)

/-- Line `k` with its guard. -/
def block (source : Bytes) (sites : List Site) (k : Nat) : List Bytes :=
  (guard? source sites k).toList ++ [line source k]

/-- The first `l` lines with their guards. -/
def upTo (source : Bytes) (sites : List Site) (l : Nat) : List Bytes :=
  (List.range' 1 l).flatMap (block source sites)

/-- All lines with their guards. -/
def lines (source : Bytes) (sites : List Site) : Lines :=
  ⟨upTo source sites (Lines.split source).size⟩

/-- The number of guards that the first `l` lines are given. -/
def guards (source : Bytes) (sites : List Site) (l : Nat) : Nat :=
  (List.range' 1 l).countP fun k => (guard? source sites k).isSome

/-- The lines with a site that are given a guard, each of them once. -/
def freshLines (source : Bytes) (sites : List Site) : List Nat :=
  (sites.map fun s => s.position.line).dedup.filter fun k =>
    k ≤ (Lines.split source).size && !guardedAbove source k

/-! ## Sites and guards of a line -/

theorem siteOn?_isSome {sites : List Site} {k : Nat} :
    (siteOn? sites k).isSome = true ↔ ∃ s ∈ sites, s.position.line = k := by
  simp [siteOn?, List.find?_isSome]

theorem guard?_isSome {source : Bytes} {sites : List Site} {k : Nat} :
    (guard? source sites k).isSome = true ↔
      guardedAbove source k = false ∧ ∃ s ∈ sites, s.position.line = k := by
  unfold guard?
  split
  · next h => simp [h]
  · next h => simp only [Option.isSome_map, siteOn?_isSome, Bool.not_eq_true] at h ⊢; simp [h]

/-- A line without a site gets no guard. -/
theorem guard?_eq_none {source : Bytes} {sites : List Site} {k : Nat}
    (h : ∀ s ∈ sites, s.position.line ≠ k) : guard? source sites k = none := by
  rw [← Option.not_isSome_iff_eq_none, guard?_isSome]
  rintro ⟨-, s, hs, hk⟩
  exact h s hs hk

/-- One more site changes nothing on the other lines. -/
theorem guard?_append_of_ne {source : Bytes} {sites : List Site} {s : Site} {k : Nat}
    (h : s.position.line ≠ k) : guard? source (sites ++ [s]) k = guard? source sites k := by
  have hsite : siteOn? (sites ++ [s]) k = siteOn? sites k := by
    simp [siteOn?, List.find?_append, h]
  rw [guard?, guard?, hsite]

/-- One more site changes nothing on a line that has a site. -/
theorem guard?_append_of_mem {source : Bytes} {sites : List Site} (s : Site) {k : Nat}
    (h : ∃ t ∈ sites, t.position.line = k) :
    guard? source (sites ++ [s]) k = guard? source sites k := by
  obtain ⟨t, ht⟩ := Option.isSome_iff_exists.1 (siteOn?_isSome.2 h)
  have hsite : siteOn? (sites ++ [s]) k = siteOn? sites k := by
    simp only [siteOn?] at ht ⊢
    rw [List.find?_append, ht, Option.some_or]
  rw [guard?, guard?, hsite]

/-- The first site on a line gives it a guard unless the source has one there. -/
theorem guard?_append_of_fresh {source : Bytes} {sites : List Site} {s : Site}
    (h : ∀ t ∈ sites, t.position.line ≠ s.position.line)
    (habove : guardedAbove source s.position.line = false) :
    guard? source (sites ++ [s]) s.position.line = some (Guard.line
      (Bytes.leadingIndent (line source s.position.line)) (source.slice s.start s.stop)) := by
  have hnone : siteOn? sites s.position.line = none := by
    rw [← Option.not_isSome_iff_eq_none, siteOn?_isSome]
    rintro ⟨t, ht, hk⟩
    exact h t ht hk
  have hsite : siteOn? (sites ++ [s]) s.position.line = some s := by
    simp only [siteOn?] at hnone ⊢
    rw [List.find?_append, hnone]
    simp
  rw [guard?, habove, hsite]
  rfl

/-! ## Counting guards -/

theorem guards_succ (source : Bytes) (sites : List Site) (l : Nat) :
    guards source sites (l + 1) =
      guards source sites l + (guard? source sites (l + 1)).toList.length := by
  have hrange : List.range' 1 (l + 1) = List.range' 1 l ++ [l + 1] := by
    rw [List.range'_concat, Nat.one_mul, Nat.add_comm 1 l]
  rw [guards, hrange, List.countP_append]
  cases h : guard? source sites (l + 1) <;> simp [guards, h]

/-- Below the last site there are no more guards. -/
theorem guards_of_le {source : Bytes} {sites : List Site} {k l : Nat}
    (h : ∀ s ∈ sites, s.position.line ≤ k) (hkl : k ≤ l) :
    guards source sites l = guards source sites k := by
  induction l, hkl using Nat.le_induction with
  | base => rfl
  | succ l hkl ih =>
    have hnone : guard? source sites (l + 1) = none :=
      guard?_eq_none fun s hs he => by have := h s hs; omega
    rw [guards_succ, hnone, ih]
    rfl

/-- The count agrees with the list of lines that get a guard. -/
theorem guards_eq_length_freshLines {source : Bytes} {sites : List Site}
    (hpos : ∀ s ∈ sites, 1 ≤ s.position.line) :
    guards source sites (Lines.split source).size = (freshLines source sites).length := by
  rw [guards, List.countP_eq_length_filter]
  refine List.Perm.length_eq ((List.perm_ext_iff_of_nodup ?_ ?_).2 fun k => ?_)
  · exact (List.nodup_range' ..).filter _
  · exact (List.nodup_dedup _).filter _
  · simp only [freshLines, List.mem_filter, List.mem_range'_1, guard?_isSome, List.mem_dedup,
      List.mem_map, Bool.and_eq_true, decide_eq_true_eq, Bool.not_eq_true']
    constructor
    · rintro ⟨⟨-, hk⟩, habove, hsite⟩
      exact ⟨hsite, by omega, habove⟩
    · rintro ⟨⟨s, hs, rfl⟩, hk, habove⟩
      exact ⟨⟨hpos s hs, by omega⟩, habove, s, hs, rfl⟩

/-! ## Where a line stands -/

theorem upTo_succ (source : Bytes) (sites : List Site) (l : Nat) :
    upTo source sites (l + 1) = upTo source sites l ++ block source sites (l + 1) := by
  have hrange : List.range' 1 (l + 1) = List.range' 1 l ++ [l + 1] := by
    rw [List.range'_concat, Nat.one_mul, Nat.add_comm 1 l]
  rw [upTo, hrange, List.flatMap_append, List.flatMap_singleton, upTo]

theorem length_upTo (source : Bytes) (sites : List Site) (l : Nat) :
    (upTo source sites l).length = l + guards source sites l := by
  induction l with
  | zero => rfl
  | succ l ih =>
    rw [upTo_succ, guards_succ, List.length_append, ih, block, List.length_append,
      List.length_singleton]
    omega

theorem size_lines (source : Bytes) (sites : List Site) :
    (lines source sites).size =
      (Lines.split source).size + guards source sites (Lines.split source).size :=
  length_upTo source sites _

/-- The edit above a line is a front part of the whole edit. -/
theorem upTo_isPrefix (source : Bytes) (sites : List Site) {k l : Nat} (h : k ≤ l) :
    upTo source sites k <+: upTo source sites l := by
  induction l, h using Nat.le_induction with
  | base => exact List.prefix_refl _
  | succ l _ ih =>
    rw [upTo_succ]
    exact ih.trans (List.prefix_append _ _)

/-- The edit falls into what is above a line, the block of the line and what is below. -/
theorem upTo_split (source : Bytes) (sites : List Site) {k l : Nat} (hpos : 1 ≤ k) (hk : k ≤ l) :
    upTo source sites l = upTo source sites (k - 1) ++ (block source sites k ++
      (List.range' (k + 1) (l - k)).flatMap (block source sites)) := by
  have hrange : List.range' 1 l = List.range' 1 (k - 1) ++ k :: List.range' (k + 1) (l - k) := by
    have htail : k :: List.range' (k + 1) (l - k) = List.range' (1 + 1 * (k - 1)) (l - k + 1) := by
      rw [List.range'_succ, show 1 + 1 * (k - 1) = k by omega]
    rw [htail, List.range'_append]
    congr 1
    omega
  rw [upTo, hrange, List.flatMap_append, List.flatMap_cons, upTo]

/-- What stands at the end of the first `k` lines still stands there in the whole edit. -/
theorem line?_of_upTo {source : Bytes} {sites : List Site} {k index : Nat} {found : Bytes}
    (hk : k ≤ (Lines.split source).size) (h : (upTo source sites k)[index]? = some found) :
    (lines source sites).line? index = some found := by
  obtain ⟨rest, hrest⟩ := upTo_isPrefix source sites hk
  obtain ⟨hlt, -⟩ := List.getElem?_eq_some_iff.1 h
  rw [Lines.line?, lines, ← hrest, List.getElem?_append_left hlt, h]

/-- **Where a line of the source stands after the edit**: below as many guards as it and the lines
    above it were given. -/
theorem line?_lines (source : Bytes) (sites : List Site) {k : Nat} (hpos : 1 ≤ k)
    (hk : k ≤ (Lines.split source).size) :
    (lines source sites).line? (k - 1 + guards source sites k) = some (line source k) := by
  obtain ⟨l, rfl⟩ : ∃ l, k = l + 1 := ⟨k - 1, by omega⟩
  refine line?_of_upTo hk ?_
  have hindex : l + 1 - 1 + guards source sites (l + 1) =
      (upTo source sites l).length + (guard? source sites (l + 1)).toList.length := by
    rw [length_upTo, guards_succ]
    omega
  rw [upTo_succ, hindex, List.getElem?_append_right (by omega), block,
    List.getElem?_append_right (by omega)]
  simp

/-- A guard stands directly above its line. -/
theorem line?_guard {source : Bytes} {sites : List Site} {k : Nat} {g : Bytes} (hpos : 1 ≤ k)
    (hk : k ≤ (Lines.split source).size) (h : guard? source sites k = some g) :
    k - 1 + guards source sites k = k - 1 + guards source sites (k - 1) + 1 ∧
      (lines source sites).line? (k - 1 + guards source sites (k - 1)) = some g := by
  obtain ⟨l, rfl⟩ : ∃ l, k = l + 1 := ⟨k - 1, by omega⟩
  refine ⟨?_, line?_of_upTo hk ?_⟩
  · rw [guards_succ, h]
    simp only [Nat.add_sub_cancel, Option.toList_some, List.length_singleton]
    omega
  · rw [Nat.add_sub_cancel, upTo_succ, ← length_upTo, List.getElem?_append_right (by omega), block, h]
    simp

/-- **What stands above a line after the edit** is a guard if the line was given one or the source
    has one there, and not otherwise. -/
theorem guardAbove_lines {source : Bytes} {sites : List Site} {i : Injector}
    (hi : i.lines = lines source sites) {k : Nat} (hpos : 1 ≤ k)
    (hk : k ≤ (Lines.split source).size) :
    i.guardAbove (k - 1 + guards source sites k) =
      ((guard? source sites k).isSome || guardedAbove source k) := by
  cases hg : guard? source sites k with
  | some g =>
    obtain ⟨hindex, hline⟩ := line?_guard hpos hk hg
    have hguard : Guard.isGuard g = true := by
      rw [guard?] at hg
      split at hg
      · cases hg
      · obtain ⟨s, -, rfl⟩ := Option.map_eq_some_iff.1 hg
        exact Guard.isGuard_line _ _
    rw [hindex, Injector.guardAbove, hi, hline]
    simpa using hguard
  | none =>
    obtain ⟨l, rfl⟩ : ∃ l, k = l + 1 := ⟨k - 1, by omega⟩
    rw [guards_succ, hg]
    simp only [Nat.add_sub_cancel, Option.toList_none, List.length_nil, Nat.add_zero,
      Option.isSome_none, Bool.false_or]
    cases l with
    | zero => rfl
    | succ l =>
      -- the line above is the previous line of the source, wherever that stands
      have hprev := line?_lines source sites (k := l + 1) (by omega) (by omega)
      have hindex : l + 1 + guards source sites (l + 1) =
          (l + 1 - 1 + guards source sites (l + 1)) + 1 := by omega
      rw [hindex, Injector.guardAbove, hi, hprev]
      simp [guardedAbove]

end OnePass

/-! ## One site -/

namespace Injector

/-- The injector after a line was inserted. -/
def insertAt (i : Injector) (index : Nat) (line : Bytes) : Injector :=
  ⟨i.source, ⟨i.lines.toList.take index ++ line :: i.lines.toList.drop index⟩, i.insertions + 1⟩

/-- **Everything that guarding a site can do**: nothing, because there is no such line or the line
    above it is a guard; or insert the guard at the index of the line. -/
theorem inject_cases (i : Injector) (s : Site) :
    (i.inject s = (.outOfBounds, i) ∧ (i.index? s).bind i.lines.line? = none) ∨
    ∃ index target, i.index? s = some index ∧ i.lines.line? index = some target ∧
      i.inject s = if i.guardAbove index then (.alreadyGuarded, i)
        else (.inserted index, i.insertAt index (i.guardFor s target)) := by
  unfold inject
  cases hindex : i.index? s with
  | none => exact .inl ⟨rfl, rfl⟩
  | some index =>
    cases hline : i.lines.line? index with
    | none => exact .inl ⟨by simp only [hline], hline⟩
    | some target =>
      refine .inr ⟨index, target, rfl, hline, ?_⟩
      simp only [hline, Lines.insert?_of_line? hline (i.guardFor s target), insertAt]

/-- The index of a site whose line is not zero. -/
theorem index?_of_pos {i : Injector} {s : Site} (h : 1 ≤ s.position.line) :
    i.index? s = some (s.position.line - 1 + i.insertions) := by
  rw [index?, if_neg (by omega)]

end Injector

namespace OnePass

/-- Whether a site is the first on its line and the source has no guard there. -/
def fresh (source : Bytes) (done : List Site) (s : Site) : Bool :=
  !guardedAbove source s.position.line && (siteOn? done s.position.line).isNone

/-- What becomes of a site when the sites `done` have been dealt with. -/
def outcome (source : Bytes) (done : List Site) (s : Site) : Outcome :=
  if (Lines.split source).size < s.position.line then .outOfBounds
  else if fresh source done s then
    .inserted (s.position.line - 1 + guards source done s.position.line)
  else .alreadyGuarded

/-- What becomes of each of several sites. -/
def outcomes (source : Bytes) (done : List Site) : List Site → List (Site × Outcome)
  | [] => []
  | s :: rest => (s, outcome source done s) :: outcomes source (done ++ [s]) rest

theorem fresh_iff {source : Bytes} {done : List Site} {s : Site} :
    fresh source done s = true ↔ guardedAbove source s.position.line = false ∧
      ∀ t ∈ done, t.position.line ≠ s.position.line := by
  rw [fresh, Bool.and_eq_true, Bool.not_eq_true', Option.isNone_iff_eq_none,
    ← Option.not_isSome_iff_eq_none, siteOn?_isSome]
  simp

/-- A site that is not fresh changes nothing, and no site changes the other lines. -/
theorem guard?_append_of_not_fresh {source : Bytes} {done : List Site} {s : Site} {k : Nat}
    (h : s.position.line = k → ¬ fresh source done s = true) :
    guard? source (done ++ [s]) k = guard? source done k := by
  by_cases hline : s.position.line = k
  · subst hline
    cases habove : guardedAbove source s.position.line with
    | true => simp only [guard?, habove, if_true]
    | false =>
      refine guard?_append_of_mem s ?_
      by_contra hnone
      exact h rfl (fresh_iff.2 ⟨habove, fun t ht he => hnone ⟨t, ht, he⟩⟩)
  · exact guard?_append_of_ne hline

/-- A site adds a guard to its own line if it is fresh, and to no other line. -/
theorem length_guard?_append (source : Bytes) (done : List Site) (s : Site) (k : Nat) :
    (guard? source (done ++ [s]) k).toList.length = (guard? source done k).toList.length +
      if s.position.line = k ∧ fresh source done s = true then 1 else 0 := by
  by_cases h : s.position.line = k ∧ fresh source done s = true
  · obtain ⟨rfl, hfresh⟩ := h
    obtain ⟨habove, hfirst⟩ := fresh_iff.1 hfresh
    rw [guard?_append_of_fresh hfirst habove, guard?_eq_none hfirst, if_pos ⟨rfl, hfresh⟩]
    rfl
  · rw [guard?_append_of_not_fresh fun hk hfresh => h ⟨hk, hfresh⟩, if_neg h, Nat.add_zero]

/-- One more site adds a guard to the lines down to its own if it is fresh. -/
theorem guards_append (source : Bytes) (done : List Site) {s : Site} (l : Nat)
    (hpos : 1 ≤ s.position.line) :
    guards source (done ++ [s]) l = guards source done l +
      if s.position.line ≤ l ∧ fresh source done s = true then 1 else 0 := by
  induction l with
  | zero =>
    rw [if_neg (fun h => by omega)]
    rfl
  | succ l ih =>
    rw [guards_succ, guards_succ, ih, length_guard?_append]
    by_cases hfresh : fresh source done s = true
    · simp only [hfresh, and_true]
      split_ifs <;> omega
    · simp [hfresh]

/-- A site beyond the end, or one that is not fresh, changes nothing. -/
theorem lines_append_of_not_fresh {source : Bytes} {done : List Site} {s : Site}
    (h : (Lines.split source).size < s.position.line ∨ ¬ fresh source done s = true) :
    lines source (done ++ [s]) = lines source done := by
  have hsame : ∀ k ∈ List.range' 1 (Lines.split source).size,
      block source (done ++ [s]) k = block source done k := by
    intro k hk
    have hrange := List.mem_range'_1.1 hk
    rw [block, block, guard?_append_of_not_fresh fun hline => ?_]
    exact h.resolve_left (by omega)
  rw [lines, lines, upTo, upTo, List.flatMap_congr hsame]

/-- A fresh site inserts its guard directly above its line and changes nothing else. -/
theorem lines_append_of_fresh {source : Bytes} {done : List Site} {s : Site}
    (hpos : 1 ≤ s.position.line) (hsize : s.position.line ≤ (Lines.split source).size)
    (h : fresh source done s = true) :
    (lines source (done ++ [s])).toList =
      (lines source done).toList.take (s.position.line - 1 + guards source done s.position.line)
        ++ Guard.line (Bytes.leadingIndent (line source s.position.line))
          (source.slice s.start s.stop)
        :: (lines source done).toList.drop
          (s.position.line - 1 + guards source done s.position.line) := by
  obtain ⟨habove, hfirst⟩ := fresh_iff.1 h
  have hsame : ∀ k, s.position.line ≠ k → block source (done ++ [s]) k = block source done k :=
    fun k hk => by rw [block, guard?_append_of_ne hk, block]
  have hindex : s.position.line - 1 + guards source done s.position.line =
      (upTo source done (s.position.line - 1)).length := by
    have hsucc := guards_succ source done (s.position.line - 1)
    rw [Nat.sub_add_cancel hpos, guard?_eq_none hfirst] at hsucc
    rw [length_upTo, hsucc]
    rfl
  have hfront : upTo source (done ++ [s]) (s.position.line - 1) =
      upTo source done (s.position.line - 1) :=
    List.flatMap_congr fun k hk => hsame k (by have := List.mem_range'_1.1 hk; omega)
  have hback : (List.range' (s.position.line + 1)
        ((Lines.split source).size - s.position.line)).flatMap (block source (done ++ [s])) =
      (List.range' (s.position.line + 1)
        ((Lines.split source).size - s.position.line)).flatMap (block source done) :=
    List.flatMap_congr fun k hk => hsame k (by have := List.mem_range'_1.1 hk; omega)
  simp only [lines]
  rw [upTo_split source (done ++ [s]) hpos hsize, upTo_split source done hpos hsize, hindex,
    List.take_left, List.drop_left, hfront, hback, block, block,
    guard?_append_of_fresh hfirst habove, guard?_eq_none hfirst]
  rfl

end OnePass

/-! ## All sites -/

/-- The injector has made the one-pass edit for the sites `done`. -/
structure Tracks (source : Bytes) (done : List Site) (i : Injector) : Prop where
  source_eq : i.source = source
  lines_eq : i.lines = OnePass.lines source done
  insertions_eq : i.insertions = OnePass.guards source done (Lines.split source).size

namespace Tracks

open OnePass

theorem start (source : Bytes) : Tracks source [] (.start source) where
  source_eq := rfl
  lines_eq := by
    have hblock : ∀ k, block source [] k = [line source k] := fun k => by
      rw [block, guard?_eq_none (by simp)]
      rfl
    have hlines : (List.range' 1 (Lines.split source).size).map (line source) =
        (Lines.split source).toList := by
      refine List.ext_getElem (by simp [Lines.size]) fun k h₁ h₂ => ?_
      simp [line, Lines.line?, h₂]
    rw [OnePass.lines, upTo, funext hblock, ← List.map_eq_flatMap, hlines]
    rfl
  insertions_eq := by
    rw [guards_of_le (k := 0) (by simp) (Nat.zero_le _)]
    rfl

/-- A site beyond the end, or one that is not fresh, asks for no edit. -/
theorem append_of_not_fresh {source : Bytes} {done : List Site} {i : Injector} {s : Site}
    (h : Tracks source done i) (hpos : 1 ≤ s.position.line)
    (hnot : (Lines.split source).size < s.position.line ∨ ¬ fresh source done s = true) :
    Tracks source (done ++ [s]) i where
  source_eq := h.source_eq
  lines_eq := by rw [lines_append_of_not_fresh hnot, h.lines_eq]
  insertions_eq := by
    rw [guards_append source done _ hpos, h.insertions_eq, if_neg]
    · rfl
    · rintro ⟨hle, hfresh⟩
      exact hnot.elim (fun hlt => by omega) fun hf => hf hfresh

/-- A fresh site asks for its guard directly above its line. -/
theorem append_of_fresh {source : Bytes} {done : List Site} {i : Injector} {s : Site}
    (h : Tracks source done i) (hpos : 1 ≤ s.position.line)
    (hsize : s.position.line ≤ (Lines.split source).size) (hfresh : fresh source done s = true) :
    Tracks source (done ++ [s])
      (i.insertAt (s.position.line - 1 + guards source done s.position.line)
        (i.guardFor s (line source s.position.line))) where
  source_eq := h.source_eq
  lines_eq := by
    have hlines := lines_append_of_fresh hpos hsize hfresh
    simp only [Injector.insertAt, Injector.guardFor, h.lines_eq, h.source_eq, ← hlines]
  insertions_eq := by
    rw [guards_append source done _ hpos, if_pos ⟨hsize, hfresh⟩, ← h.insertions_eq]
    rfl

/-- Below a line of the source the injector finds a guard if the line was given one or the source
    has one, which is to say: if the site is not fresh. -/
theorem guardAbove_eq {source : Bytes} {done : List Site} {i : Injector} {s : Site}
    (h : Tracks source done i) (hpos : 1 ≤ s.position.line)
    (hsize : s.position.line ≤ (Lines.split source).size) :
    i.guardAbove (s.position.line - 1 + guards source done s.position.line) =
      !fresh source done s := by
  have hfresh : (!fresh source done s) = true ↔ ¬ fresh source done s = true := by simp
  rw [guardAbove_lines h.lines_eq hpos hsize, Bool.eq_iff_iff, Bool.or_eq_true, guard?_isSome,
    hfresh, fresh_iff]
  cases guardedAbove source s.position.line <;> simp

/-- **One site**: the injector goes on making the one-pass edit, and the outcome is the one
    foreseen, as long as the site is not above those dealt with. -/
theorem inject {source : Bytes} {done : List Site} {i : Injector} {s : Site}
    (h : Tracks source done i) (hpos : 1 ≤ s.position.line)
    (horder : ∀ t ∈ done, t.position.line ≤ s.position.line) :
    (i.inject s).1 = outcome source done s ∧ Tracks source (done ++ [s]) (i.inject s).2 := by
  have hindex : i.index? s = some (s.position.line - 1 +
      guards source done (Lines.split source).size) := by
    rw [Injector.index?_of_pos hpos, h.insertions_eq]
  by_cases hsize : s.position.line ≤ (Lines.split source).size
  · -- the line is there: no guard has been inserted below it, so the index is right
    rw [guards_of_le horder hsize] at hindex
    have hline := line?_lines source done hpos hsize
    obtain ⟨-, hnone⟩ | ⟨index, target, hi, ht, hinject⟩ := i.inject_cases s
    · rw [hindex, Option.bind_some, h.lines_eq, hline] at hnone
      cases hnone
    obtain rfl : s.position.line - 1 + guards source done s.position.line = index :=
      Option.some.inj (hindex.symm.trans hi)
    obtain rfl : line source s.position.line = target :=
      Option.some.inj (hline.symm.trans (h.lines_eq ▸ ht))
    rw [h.guardAbove_eq hpos hsize] at hinject
    cases hfresh : fresh source done s with
    | true =>
      rw [hfresh] at hinject
      rw [hinject]
      exact ⟨by simp [outcome, hfresh, Nat.not_lt.2 hsize], h.append_of_fresh hpos hsize hfresh⟩
    | false =>
      rw [hfresh] at hinject
      rw [hinject]
      exact ⟨by simp [outcome, hfresh, Nat.not_lt.2 hsize],
        h.append_of_not_fresh hpos (.inr (by simp [hfresh]))⟩
  · -- beyond the end nothing happens
    have hbeyond : i.lines.line? (s.position.line - 1 +
        guards source done (Lines.split source).size) = none := by
      have hlen := size_lines source done
      rw [h.lines_eq, Lines.line?, List.getElem?_eq_none_iff]
      simp only [Lines.size] at hlen hsize ⊢
      omega
    obtain ⟨hinject, -⟩ | ⟨index, target, hi, ht, -⟩ := i.inject_cases s
    · rw [hinject]
      exact ⟨by simp [outcome, Nat.not_le.1 hsize],
        h.append_of_not_fresh hpos (.inl (Nat.not_le.1 hsize))⟩
    · rw [hindex, Option.some.injEq] at hi
      rw [← hi, hbeyond] at ht
      cases ht

/-- **All sites**: the run makes the one-pass edit for all of them. -/
theorem injectAll {source : Bytes} {done rest : List Site} {i : Injector}
    (h : Tracks source done i) (hpos : ∀ s ∈ rest, 1 ≤ s.position.line)
    (horder : (done ++ rest).Pairwise fun a b => a.position.line ≤ b.position.line) :
    (i.injectAll rest).1 = outcomes source done rest ∧
      Tracks source (done ++ rest) (i.injectAll rest).2 := by
  induction rest generalizing done i with
  | nil => exact ⟨rfl, by simpa [Injector.injectAll] using h⟩
  | cons s rest ih =>
    have habove : ∀ t ∈ done, t.position.line ≤ s.position.line := fun t ht =>
      (List.pairwise_append.1 horder).2.2 t ht s List.mem_cons_self
    obtain ⟨hout, hstep⟩ := h.inject (hpos s List.mem_cons_self) habove
    rw [List.append_cons] at horder ⊢
    obtain ⟨houts, hlast⟩ := ih hstep (fun t ht => hpos t (List.mem_cons_of_mem _ ht)) horder
    exact ⟨by simp [Injector.injectAll, outcomes, hout, houts], hlast⟩

end Tracks

namespace OnePass

/-- A site in range either adds a guard or finds one. -/
theorem guards_outcome (source : Bytes) (done : List Site) {s : Site}
    (hpos : 1 ≤ s.position.line) :
    (if outcome source done s = .alreadyGuarded then 1 else 0)
        + guards source (done ++ [s]) (Lines.split source).size =
      guards source done (Lines.split source).size
        + if s.position.line ≤ (Lines.split source).size then 1 else 0 := by
  rw [guards_append source done _ hpos, outcome]
  by_cases hsize : s.position.line ≤ (Lines.split source).size
  · cases hfresh : fresh source done s <;> simp [hsize, Nat.not_lt.2 hsize, Nat.add_comm]
  · simp [hsize, Nat.not_le.1 hsize]

theorem countP_outcomes (source : Bytes) (done rest : List Site)
    (hpos : ∀ s ∈ rest, 1 ≤ s.position.line) :
    ((outcomes source done rest).countP fun o => o.2 == .alreadyGuarded)
        + guards source (done ++ rest) (Lines.split source).size =
      guards source done (Lines.split source).size
        + rest.countP fun s => s.position.line ≤ (Lines.split source).size := by
  induction rest generalizing done with
  | nil => simp [outcomes]
  | cons s rest ih =>
    have hrest := ih (done ++ [s]) fun t ht => hpos t (List.mem_cons_of_mem _ ht)
    have hfirst := guards_outcome source done (hpos s List.mem_cons_self)
    rw [List.append_cons, outcomes, List.countP_cons, List.countP_cons]
    simp only [beq_iff_eq, decide_eq_true_eq] at hfirst hrest ⊢
    omega

end OnePass

/-! ## The whole source -/

/-- The injector's result for sites in the order of their lines. -/
theorem injectGuards_tracks {source : Bytes} {sites : List Site}
    (hpos : ∀ s ∈ sites, 1 ≤ s.position.line)
    (horder : sites.Pairwise fun a b => a.position.line ≤ b.position.line) :
    injectGuards source sites = ⟨(OnePass.lines source sites).join,
      OnePass.guards source sites (Lines.split source).size,
      OnePass.outcomes source [] sites⟩ := by
  obtain ⟨houtcomes, hlast⟩ := (Tracks.start source).injectAll hpos horder
  rw [List.nil_append] at hlast
  simp only [injectGuards, Injector.output, houtcomes, hlast.lines_eq, hlast.insertions_eq]

/-- **The offsets are exact**: on sites in the order of their lines, the injector makes the
    one-pass edit. It inserts one guard for each line with a site that has none above it in the
    source, and the other sites in range count as already guarded. -/
theorem injectGuards_eq_onePass (source : Bytes) (sites : List Site)
    (hpos : ∀ s ∈ sites, 1 ≤ s.position.line)
    (horder : sites.Pairwise fun a b => a.position.line ≤ b.position.line) :
    (injectGuards source sites).output = (OnePass.lines source sites).join ∧
      (injectGuards source sites).insertions = (OnePass.freshLines source sites).length ∧
      (injectGuards source sites).alreadyGuarded + (injectGuards source sites).insertions =
        sites.countP fun s => s.position.line ≤ (Lines.split source).size := by
  have hcount := OnePass.countP_outcomes source [] sites hpos
  have hnone : OnePass.guards source [] (Lines.split source).size = 0 :=
    (Tracks.start source).insertions_eq.symm
  rw [List.nil_append, hnone, Nat.zero_add] at hcount
  rw [injectGuards_tracks hpos horder]
  exact ⟨rfl, OnePass.guards_eq_length_freshLines hpos, hcount⟩

/-- Four sites: below a guard of the source, twice on one line, and beyond the end. -/
theorem injectGuards_eq_onePass_mixed :
    ∃ (source : Bytes) (sites : List Site), sites.length = 4 ∧
      (∀ s ∈ sites, 1 ≤ s.position.line) ∧
      (sites.Pairwise fun a b => a.position.line ≤ b.position.line) ∧
      (injectGuards source sites).output = (OnePass.lines source sites).join ∧
      (injectGuards source sites).insertions = 1 ∧
      (injectGuards source sites).alreadyGuarded = 2 := by
  let source := Bytes.ofString (Guard.marker ++ "\nf()\n\tg()")
  let sites : List Site := [⟨⟨2, 1⟩, 0, 0, .syscall⟩, ⟨⟨3, 2⟩, 0, 5, .syscall⟩,
    ⟨⟨3, 2⟩, 5, 0, .rawSyscall⟩, ⟨⟨7, 1⟩, 0, 9, .syscall6⟩]
  have hpos : ∀ s ∈ sites, 1 ≤ s.position.line := by decide
  have horder : sites.Pairwise fun a b => a.position.line ≤ b.position.line := by decide
  obtain ⟨houtput, hinsertions, hguarded⟩ := injectGuards_eq_onePass source sites hpos horder
  have hfresh : (OnePass.freshLines source sites).length = 1 := by decide
  have hrange : (sites.countP fun s => s.position.line ≤ (Lines.split source).size) = 3 := by
    decide
  exact ⟨source, sites, rfl, hpos, horder, houtput, by omega, by omega⟩

end SyscallGuard
