import SyscallGuard.Proofs.Reinjection
import SyscallGuard.Proofs.Sites
import Mathlib.Algebra.BigOperators.Group.List.Basic

set_option autoImplicit false

/-! # Where the bytes of a source go

Guards are inserted line by line, but a syntax tree refers to bytes. The edited source is the source
itself with something put in front of some of its lines (`join_lines`), so every byte has moved by
what was put in front of its line and of the lines above (`OnePass.move`). From this follow the line
of a moved offset (`lineOf_move`) and the text of a moved range (`slice_move`): it is the old text
as long as no guard was put into it. -/

namespace SyscallGuard

open Bytes (newline)

/-! ## Putting something in front of lines -/

/-- Bytes that begin on line `k`, with something put in front of every further line. -/
def weave (front : Nat → Bytes) : Nat → Bytes → Bytes
  | _, [] => []
  | k, b :: rest =>
    if b = newline then b :: (front (k + 1) ++ weave front (k + 1) rest)
    else b :: weave front k rest

section Weave

variable (front : Nat → Bytes)

theorem weave_append (k : Nat) (a b : Bytes) :
    weave front k (a ++ b) = weave front k a ++ weave front (k + a.count newline) b := by
  induction a generalizing k with
  | nil => simp [weave]
  | cons c rest ih =>
    rw [List.cons_append, weave, weave, List.count_cons]
    split
    · next hc =>
      rw [ih, hc, beq_self_eq_true, if_pos rfl, List.cons_append, List.append_assoc]
      congr 4
      omega
    · next hc =>
      rw [ih, if_neg (by simpa using hc), Nat.add_zero, List.cons_append]

/-- What is put in adds to every measure of the bytes that adds up. -/
theorem measure_weave (measure : Bytes → Nat) (hnil : measure [] = 0)
    (hadd : ∀ a b, measure (a ++ b) = measure a + measure b) (k : Nat) (a : Bytes) :
    measure (weave front k a) =
      measure a + ((List.range' (k + 1) (a.count newline)).map fun j => measure (front j)).sum := by
  induction a generalizing k with
  | nil => simp [weave, hnil]
  | cons c rest ih =>
    have hcons : ∀ more, measure (c :: more) = measure [c] + measure more := fun more => by
      rw [← hadd, List.singleton_append]
    rw [weave, List.count_cons, hcons rest]
    split
    · next hc =>
      rw [hcons, hadd, ih, hc, beq_self_eq_true, if_pos rfl, List.range'_succ, List.map_cons,
        List.sum_cons]
      omega
    · next hc =>
      rw [hcons, ih, if_neg (by simpa using hc)]
      simp only [Nat.add_zero, Nat.add_assoc]

/-- Bytes stay as they are if nothing is put in front of their lines. -/
theorem weave_eq_self {k : Nat} {a : Bytes}
    (h : ∀ j, k < j → j ≤ k + a.count newline → front j = []) : weave front k a = a := by
  induction a generalizing k with
  | nil => rfl
  | cons c rest ih =>
    rw [weave]
    split
    · next hc =>
      rw [List.count_cons, hc, beq_self_eq_true, if_pos rfl] at h
      rw [h (k + 1) (by omega) (by omega), List.nil_append,
        ih fun j hj hle => h j (by omega) (by omega)]
    · next hc =>
      rw [List.count_cons, if_neg (by simpa using hc), Nat.add_zero] at h
      rw [ih h]

theorem mem_weave {k : Nat} {a : Bytes} {b : UInt8} (h : b ∈ a) : b ∈ weave front k a := by
  induction a generalizing k with
  | nil => cases h
  | cons c rest ih =>
    rw [weave]
    rcases List.mem_cons.1 h with rfl | h
    · split <;> exact List.mem_cons_self
    · split
      · exact List.mem_cons_of_mem _ (List.mem_append_right _ (ih h))
      · exact List.mem_cons_of_mem _ (ih h)

end Weave

/-! ## The edited source -/

theorem Lines.joinBytes_append {a b : List Bytes} (ha : a ≠ []) (hb : b ≠ []) :
    Lines.joinBytes (a ++ b) = Lines.joinBytes a ++ newline :: Lines.joinBytes b := by
  induction a with
  | nil => exact absurd rfl ha
  | cons first rest ih =>
    match rest with
    | [] =>
      match b with
      | [] => exact absurd rfl hb
      | next :: others => rfl
    | second :: others =>
      rw [List.cons_append, List.cons_append, Lines.joinBytes, ← List.cons_append, ih (by simp),
        Lines.joinBytes, List.append_assoc, List.cons_append]

/-- Joined lines have a line feed less than there are lines. -/
theorem Lines.count_joinBytes {a : List Bytes} (ha : a ≠ []) (h : ∀ line ∈ a, newline ∉ line) :
    (Lines.joinBytes a).count newline + 1 = a.length := by
  induction a with
  | nil => exact absurd rfl ha
  | cons first rest ih =>
    have hfirst : first.count newline = 0 := List.count_eq_zero.2 (h first List.mem_cons_self)
    match rest with
    | [] => rw [Lines.joinBytes, hfirst]; rfl
    | second :: others =>
      have hrest := ih (by simp) fun line hline => h line (List.mem_cons_of_mem _ hline)
      rw [Lines.joinBytes, List.count_append, hfirst, List.count_cons_self, List.length_cons]
      omega

namespace OnePass

variable {source : Bytes} {sites : List Site}

/-- What is put in front of line `k`: its guard, if it is given one, on a line of its own. -/
def front (source : Bytes) (sites : List Site) (k : Nat) : Bytes :=
  ((guard? source sites k).map (· ++ [newline])).getD []

theorem joinBytes_block (k : Nat) :
    Lines.joinBytes (block source sites k) = front source sites k ++ line source k := by
  rw [block, front]
  cases guard? source sites k with
  | none => rfl
  | some g => simp [Lines.joinBytes]

/-- The first lines of a source. -/
theorem take_succ_split {l : Nat} (h : l < (Lines.split source).size) :
    (Lines.split source).toList.take (l + 1) =
      (Lines.split source).toList.take l ++ [line source (l + 1)] := by
  have hline : line source (l + 1) = (Lines.split source).toList[l] := by
    rw [line, Nat.add_sub_cancel, Lines.line?, List.getElem?_eq_getElem h]
    rfl
  rw [hline, List.take_add_one, List.getElem?_eq_getElem h]
  rfl

theorem joinBytes_upTo (sites : List Site) {l : Nat} (hl : l < (Lines.split source).size) :
    Lines.joinBytes (upTo source sites (l + 1)) = front source sites 1 ++
      weave (front source sites) 1 (Lines.joinBytes ((Lines.split source).toList.take (l + 1))) := by
  have hplain : ∀ k j, weave (front source sites) j (line source k) = line source k := by
    intro k j
    refine weave_eq_self _ fun i hi hle => ?_
    rw [List.count_eq_zero.2 (newline_not_mem_line source k)] at hle
    omega
  induction l with
  | zero =>
    have hfirst := take_succ_split hl
    rw [List.take_zero, List.nil_append] at hfirst
    rw [hfirst, upTo_succ, upTo, List.range'_zero, List.flatMap_nil, List.nil_append,
      joinBytes_block, Lines.joinBytes, hplain]
  | succ l ih =>
    have hlen : ((Lines.split source).toList.take (l + 1)).length = l + 1 := by
      rw [List.length_take]
      exact Nat.min_eq_left (Nat.le_of_lt hl)
    have hne : (Lines.split source).toList.take (l + 1) ≠ [] := by
      rw [← List.length_pos_iff, hlen]
      omega
    have hcount := Lines.count_joinBytes hne fun line hline =>
      Lines.newline_not_mem_of_mem_splitBytes (List.mem_of_mem_take hline)
    -- The line feeds so far give the number of the line that comes next.
    have hindex : 1 + (Lines.joinBytes ((Lines.split source).toList.take (l + 1))).count newline =
        l + 1 := by
      rw [hlen] at hcount
      omega
    have hup : upTo source sites (l + 1) ≠ [] := by
      rw [upTo_succ, block]
      simp
    rw [upTo_succ, Lines.joinBytes_append hup (by simp [block]), ih (by omega), joinBytes_block,
      take_succ_split hl, Lines.joinBytes_append hne (by simp), weave_append, hindex, weave,
      if_pos rfl, Lines.joinBytes, hplain, List.append_assoc]

/-- **The edited source** is the source with the guards put in front of their lines. -/
theorem join_lines (source : Bytes) (sites : List Site) :
    (lines source sites).join =
      front source sites 1 ++ weave (front source sites) 1 source := by
  have hpos := Lines.size_split_pos source
  have hall : (Lines.split source).toList.take ((Lines.split source).size - 1 + 1) =
      (Lines.split source).toList := by
    rw [Nat.sub_add_cancel hpos]
    exact List.take_length
  have hjoin := joinBytes_upTo sites
    (show (Lines.split source).size - 1 < (Lines.split source).size by omega)
  rw [hall, Nat.sub_add_cancel hpos] at hjoin
  rw [Lines.join, lines, hjoin]
  congr 2
  exact Lines.joinBytes_splitBytes source

/-! ## Offsets -/

/-- Where a byte of the source stands after the edit: it has moved by what was put in front of its
    line and of the lines above. -/
def move (source : Bytes) (sites : List Site) (x : Nat) : Nat :=
  x + ((List.range' 1 (lineOf source x)).map fun k => (front source sites k).length).sum

/-- What stands in front of a byte of the source after the edit. -/
def before (source : Bytes) (sites : List Site) (x : Nat) : Bytes :=
  front source sites 1 ++ weave (front source sites) 1 (source.take x)

/-- What was put in front of the first lines, by any measure that adds up. -/
theorem measure_before (measure : Bytes → Nat) (hnil : measure [] = 0)
    (hadd : ∀ a b, measure (a ++ b) = measure a + measure b) (sites : List Site) (x : Nat) :
    measure (before source sites x) = measure (source.take x) +
      ((List.range' 1 (lineOf source x)).map fun k => measure (front source sites k)).sum := by
  have hrange : List.range' 1 (lineOf source x) =
      1 :: List.range' (1 + 1) ((source.take x).count newline) := by
    rw [lineOf, Nat.add_comm, List.range'_succ]
  rw [before, hadd, measure_weave _ measure hnil hadd, hrange, List.map_cons, List.sum_cons]
  omega

theorem length_before (sites : List Site) {x : Nat} (hx : x ≤ source.length) :
    (before source sites x).length = move source sites x := by
  rw [measure_before List.length rfl (fun _ _ => List.length_append), List.length_take,
    Nat.min_eq_left hx, move]

/-- The edited source falls into what stands in front of a byte and what stands from it on. -/
theorem join_lines_split (source : Bytes) (sites : List Site) (x : Nat) :
    (lines source sites).join = before source sites x ++
      weave (front source sites) (lineOf source x) (source.drop x) := by
  rw [join_lines, before, lineOf, List.append_assoc, ← weave_append, List.take_append_drop]

theorem before_of_length_le (sites : List Site) {x : Nat} (hx : source.length ≤ x) :
    before source sites x = (lines source sites).join := by
  rw [join_lines, before, List.take_of_length_le hx]

theorem length_le_move (sites : List Site) {x : Nat} (hx : source.length ≤ x) :
    (lines source sites).join.length ≤ move source sites x := by
  rw [← before_of_length_le sites hx,
    measure_before List.length rfl (fun _ _ => List.length_append), List.length_take, move]
  omega

theorem take_move (source : Bytes) (sites : List Site) (x : Nat) :
    (lines source sites).join.take (move source sites x) = before source sites x := by
  rcases Nat.le_total x source.length with hx | hx
  · rw [join_lines_split source sites x, ← length_before sites hx, List.take_left]
  · rw [List.take_of_length_le (length_le_move sites hx), before_of_length_le sites hx]

theorem count_newline_front (source : Bytes) (sites : List Site) (k : Nat) :
    (front source sites k).count newline = (guard? source sites k).toList.length := by
  rw [front]
  cases hguard : guard? source sites k with
  | none => rfl
  | some g => simp [List.count_eq_zero.2 (newline_not_mem_guard hguard)]

/-- The line feeds that were put in are the guards. -/
theorem sum_count_front (source : Bytes) (sites : List Site) (l : Nat) :
    ((List.range' 1 l).map fun k => (front source sites k).count newline).sum =
      guards source sites l := by
  induction l with
  | zero => rfl
  | succ l ih =>
    rw [List.range'_concat, List.map_append, List.sum_append, ih, guards_succ]
    simp [count_newline_front, Nat.add_comm 1 l]

/-- The line of a moved offset: the old one, and the guards that were put in down to it. -/
theorem lineOf_move (source : Bytes) (sites : List Site) (x : Nat) :
    lineOf (lines source sites).join (move source sites x) =
      lineOf source x + guards source sites (lineOf source x) := by
  rw [lineOf, take_move, measure_before (List.count newline) rfl (fun _ _ => List.count_append),
    sum_count_front, ← Nat.add_assoc]
  rfl

/-! ## Ranges -/

/-- Where a range of the source ends after the edit: behind its last byte. -/
def moveStop (source : Bytes) (sites : List Site) (start stop : Nat) : Nat :=
  if start < stop then move source sites (stop - 1) + 1 else move source sites start

theorem take_eq_append_slice {a b : Nat} (hab : a ≤ b) (hb : b ≤ source.length) :
    source.take b = source.take a ++ source.slice a b := by
  rw [Bytes.slice, Bytes.slice?, if_pos ⟨hab, hb⟩, Option.getD_some, ← List.take_add,
    Nat.add_sub_cancel' hab]

/-- What stands in front of a byte, from an earlier byte on. -/
theorem before_eq_append (sites : List Site) {a b : Nat} (hab : a ≤ b) (hb : b ≤ source.length) :
    before source sites b = before source sites a ++
      weave (front source sites) (lineOf source a) (source.slice a b) := by
  rw [before, before, take_eq_append_slice hab hb, weave_append, List.append_assoc, lineOf]

theorem slice_of_append (a middle z : Bytes) :
    (a ++ (middle ++ z)).slice a.length (a.length + middle.length) = middle := by
  have hrange := Bytes.slice?_eq_some_iff.2
    ⟨a, z, (List.append_assoc a middle z).symm, rfl, rfl⟩
  rw [Bytes.slice, hrange, Option.getD_some]

/-- The text of a moved range: the old text with the guards put in front of its further lines. -/
theorem slice_move (sites : List Site) {a b : Nat} (hab : a < b) (hb : b ≤ source.length) :
    (lines source sites).join.slice (move source sites a) (moveStop source sites a b) =
      weave (front source sites) (lineOf source a) (source.slice a (b - 1))
        ++ source.slice (b - 1) b := by
  have hlast : source.slice (b - 1) b = [source[b - 1]] := by
    have hdrop := List.drop_eq_getElem_cons (show b - 1 < source.length by omega)
    rw [Bytes.slice, Bytes.slice?, if_pos ⟨by omega, hb⟩, Option.getD_some, hdrop,
      show b - (b - 1) = 0 + 1 by omega, List.take_succ_cons, List.take_zero]
  have hfront := before_eq_append sites (show a ≤ b - 1 by omega) (show b - 1 ≤ source.length by omega)
  have hedited := join_lines_split source sites (b - 1)
  rw [List.drop_eq_getElem_cons (show b - 1 < source.length by omega), weave] at hedited
  -- The last byte stays with the range even if it is a line feed and a guard comes next.
  obtain ⟨rest, hrest⟩ : ∃ rest, (lines source sites).join = before source sites a ++
      ((weave (front source sites) (lineOf source a) (source.slice a (b - 1)) ++ [source[b - 1]])
        ++ rest) := by
    split at hedited
    · exact ⟨_, by rw [hedited, hfront]; simp only [List.append_assoc, List.singleton_append]; rfl⟩
    · exact ⟨_, by rw [hedited, hfront]; simp only [List.append_assoc, List.singleton_append]; rfl⟩
  have hstop : moveStop source sites a b = (before source sites a).length +
      (weave (front source sites) (lineOf source a) (source.slice a (b - 1))
        ++ [source[b - 1]]).length := by
    rw [moveStop, if_pos hab, ← length_before sites (by omega), hfront, List.length_append,
      List.length_append, List.length_singleton, Nat.add_assoc]
  rw [hstop, ← length_before sites (by omega), hrest, slice_of_append, hlast]

/-! ## Ranges that keep their text -/

/-- The guards of the lines behind line `l`. -/
theorem guards_add (source : Bytes) (sites : List Site) (l m : Nat) :
    guards source sites (l + m) = guards source sites l +
      ((List.range' (l + 1) m).map fun k => (front source sites k).count newline).sum := by
  rw [← sum_count_front, ← sum_count_front, ← List.range'_append_1, List.map_append,
    List.sum_append, Nat.add_comm 1 l]

theorem guards_mono (source : Bytes) (sites : List Site) {l m : Nat} (h : l ≤ m) :
    guards source sites l ≤ guards source sites m := by
  obtain ⟨d, rfl⟩ := Nat.exists_eq_add_of_le h
  rw [guards_add]
  exact Nat.le_add_right _ _

/-- Nothing was put in front of a line without a guard. -/
theorem front_eq_nil {k : Nat} (h : (front source sites k).count newline = 0) :
    front source sites k = [] := by
  rw [count_newline_front, List.length_eq_zero_iff, Option.toList_eq_nil_iff] at h
  rw [front, h]
  rfl

theorem lineOf_eq_add {a b : Nat} (hab : a ≤ b) (hb : b ≤ source.length) :
    lineOf source b = lineOf source a + (source.slice a b).count newline := by
  rw [lineOf, lineOf, take_eq_append_slice hab hb, List.count_append, Nat.add_assoc]

theorem slice_append {a b c : Nat} (hab : a ≤ b) (hbc : b ≤ c) (hc : c ≤ source.length) :
    source.slice a c = source.slice a b ++ source.slice b c := by
  have hwhole := take_eq_append_slice (Nat.le_trans hab hbc) hc
  rw [take_eq_append_slice hbc hc, take_eq_append_slice hab (Nat.le_trans hbc hc),
    List.append_assoc] at hwhole
  exact (List.append_cancel_left hwhole).symm

/-- A range that does not begin in front of its end has no text. -/
theorem slice_eq_nil {a b : Nat} (h : b ≤ a) : source.slice a b = [] := by
  rw [Bytes.slice, Bytes.slice?]
  split
  · rw [Option.getD_some, Nat.sub_eq_zero_of_le h, List.take_zero]
  · rfl

/-- A range keeps its text if and only if no guard was put in front of a line that begins in it. -/
theorem slice_move_eq_iff (sites : List Site) {a b : Nat} (hb : b ≤ source.length) :
    (lines source sites).join.slice (move source sites a) (moveStop source sites a b) =
        source.slice a b ↔
      guards source sites (lineOf source (b - 1)) ≤ guards source sites (lineOf source a) := by
  rcases Nat.lt_or_ge a b with hab | hab
  · have hle : a ≤ b - 1 := by omega
    have hadd := guards_add source sites (lineOf source a) ((source.slice a (b - 1)).count newline)
    rw [← lineOf_eq_add hle (by omega)] at hadd
    rw [slice_move sites hab hb, slice_append hle (Nat.sub_le b 1) hb, List.append_left_inj]
    constructor
    · -- The same text has the same line feeds.
      intro htext
      have hcount := congrArg (List.count newline) htext
      rw [measure_weave _ (List.count newline) rfl fun _ _ => List.count_append] at hcount
      omega
    · intro hguards
      refine weave_eq_self _ fun j hj hle => front_eq_nil ?_
      have hzero : ((List.range' (lineOf source a + 1) ((source.slice a (b - 1)).count newline)).map
          fun k => (front source sites k).count newline).sum = 0 := by omega
      refine List.sum_eq_zero_iff_forall_eq_nat.1 hzero _ (List.mem_map.2 ⟨j, ?_, rfl⟩)
      rw [List.mem_range'_1]
      omega
  · rw [moveStop, if_neg (by omega), slice_eq_nil hab, slice_eq_nil (Nat.le_refl _)]
    exact iff_of_true rfl (guards_mono source sites (lineOf_mono source (by omega)))

/-- A moved range names the same primitive: the names have no line feed, so that nothing can be put
    into them. -/
theorem ofName?_slice_move (source : Bytes) (sites : List Site) (a b : Nat) :
    Primitive.ofName? ((lines source sites).join.slice (move source sites a)
        (moveStop source sites a b)) = Primitive.ofName? (source.slice a b) := by
  have hname : ∀ text : Bytes, newline ∈ text → Primitive.ofName? text = none := by
    intro text htext
    refine List.find?_eq_none.2 fun p _ heq => ?_
    rw [← eq_of_beq heq] at htext
    revert htext
    cases p <;> decide
  rcases Nat.lt_or_ge a b with hab | hab
  · rcases Nat.lt_or_ge source.length b with hb | hb
    · -- The range does not fit, before and after.
      have hend := length_le_move sites (show source.length ≤ b - 1 by omega)
      rw [Bytes.slice, Bytes.slice?, if_neg (by rw [moveStop, if_pos hab]; omega),
        Bytes.slice, Bytes.slice?, if_neg (by omega)]
    · by_cases hline : newline ∈ source.slice a (b - 1)
      · have hold : newline ∈ source.slice a b := by
          rw [slice_append (show a ≤ b - 1 by omega) (Nat.sub_le b 1) hb]
          exact List.mem_append_left _ hline
        rw [hname _ hold, slice_move sites hab hb]
        exact hname _ (List.mem_append_left _ (mem_weave _ hline))
      · have hsame : lineOf source (b - 1) = lineOf source a := by
          rw [lineOf_eq_add (show a ≤ b - 1 by omega) (by omega), List.count_eq_zero.2 hline,
            Nat.add_zero]
        rw [(slice_move_eq_iff sites hb).2 (by rw [hsame])]
  · rw [moveStop, if_neg (by omega), slice_eq_nil hab, slice_eq_nil (Nat.le_refl _)]

end OnePass

end SyscallGuard
