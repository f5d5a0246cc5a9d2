import SyscallGuard.Proofs.Text

set_option autoImplicit false

/-! # Where a substring stands

A needle *occurs* in bytes at an offset if the range of its length that begins there is the needle
(`Bytes.OccursAt`). Two occurrences may overlap, the last may end with the last byte, and the empty
needle occurs at every offset. The search walks down the bytes and only says whether there is an
occurrence (`contains_iff_occursAt`), which is what looking through all windows of the needle's
length would say as well (`contains_eq_any_windows`).

A guard is recognised by the marker alone, so that a line is a guard if the marker occurs in it
anywhere (`isGuard_iff_occursAt`), and stays one whatever is written in front of the line or behind
it (`isGuard_append`). -/

namespace SyscallGuard

namespace Bytes

variable {needle hay : Bytes} {offset : Nat}

/-! ## Occurrences -/

/-- Whether `needle` stands in `hay` from an offset on. -/
def OccursAt (needle hay : Bytes) (offset : Nat) : Prop :=
  hay.slice? offset (offset + needle.length) = some needle

instance (needle hay : Bytes) (offset : Nat) : Decidable (needle.OccursAt hay offset) :=
  inferInstanceAs (Decidable (_ = _))

theorem occursAt_iff :
    needle.OccursAt hay offset ↔
      ∃ before after, hay = before ++ needle ++ after ∧ before.length = offset := by
  simp [OccursAt, slice?_eq_some_iff]

/-- What is put in front of the bytes moves an occurrence, what is put behind them does not. -/
theorem OccursAt.append (h : needle.OccursAt hay offset) (front back : Bytes) :
    needle.OccursAt (front ++ hay ++ back) (front.length + offset) := by
  obtain ⟨before, after, rfl, rfl⟩ := occursAt_iff.1 h
  refine occursAt_iff.2 ⟨front ++ before, after ++ back, ?_, List.length_append⟩
  simp only [List.append_assoc]

/-- The search finds a needle if and only if it occurs somewhere. -/
theorem contains_iff_occursAt :
    contains needle hay = true ↔ ∃ offset, needle.OccursAt hay offset := by
  rw [contains_iff]
  constructor
  · rintro ⟨before, after, rfl⟩
    exact ⟨before.length, occursAt_iff.2 ⟨before, after, rfl, rfl⟩⟩
  · rintro ⟨offset, h⟩
    obtain ⟨before, after, rfl, -⟩ := occursAt_iff.1 h
    exact ⟨before, after, rfl⟩

/-- A needle may overlap itself. -/
example : (List.range 6).filter (OccursAt [1, 2, 1] [1, 2, 1, 2, 1]) = [0, 2] := by decide

/-! ## Windows -/

/-- Every range of `size` bytes, from the first byte to the last. -/
def windows (size : Nat) (b : Bytes) : List Bytes :=
  (List.range (b.length + 1 - size)).map fun start => b.slice start (start + size)

theorem mem_windows {size : Nat} {b window : Bytes} :
    window ∈ b.windows size ↔ ∃ start, b.slice? start (start + size) = some window := by
  rw [windows, List.mem_map]
  constructor
  · rintro ⟨start, hstart, rfl⟩
    rw [List.mem_range] at hstart
    have hfits : start ≤ start + size ∧ start + size ≤ b.length := by omega
    exact ⟨start, by rw [slice, slice?, if_pos hfits, Option.getD_some]⟩
  · rintro ⟨start, h⟩
    refine ⟨start, ?_, by rw [slice, h, Option.getD_some]⟩
    obtain ⟨before, after, rfl, rfl, hsize⟩ := slice?_eq_some_iff.1 h
    simp only [List.mem_range, List.length_append]
    omega

/-- The search answers what a look at every window of the needle's length does. -/
theorem contains_eq_any_windows (needle hay : Bytes) :
    contains needle hay =
      (needle.isEmpty || (hay.windows needle.length).any fun window => window == needle) := by
  rw [Bool.eq_iff_iff, Bool.or_eq_true, List.isEmpty_iff, List.any_eq_true, contains_iff_occursAt]
  constructor
  · intro h
    exact .inr ⟨needle, mem_windows.2 h, beq_self_eq_true needle⟩
  · rintro (rfl | ⟨window, hwindow, heq⟩)
    · -- The empty needle is found where there is no byte at all.
      exact ⟨0, occursAt_iff.2 ⟨[], hay, rfl, rfl⟩⟩
    · rw [eq_of_beq heq] at hwindow
      exact mem_windows.1 hwindow

end Bytes

/-! ## Guards -/

namespace Guard

theorem isGuard_iff_occursAt {line : Bytes} :
    isGuard line = true ↔ ∃ offset, (Bytes.ofString marker).OccursAt line offset :=
  Bytes.contains_iff_occursAt

/-- A guard stays a guard with more text on its line. -/
theorem isGuard_append {line : Bytes} (h : isGuard line = true) (front back : Bytes) :
    isGuard (front ++ line ++ back) = true := by
  obtain ⟨offset, hoccurs⟩ := isGuard_iff_occursAt.1 h
  exact isGuard_iff_occursAt.2 ⟨front.length + offset, hoccurs.append front back⟩

/-- **The search is exact**, for every needle and all bytes. It looks at every window as long as the
    needle, and finds the needle if and only if the bytes can be cut into what is in front of it,
    the needle and what is behind it. So a line is a guard if and only if the marker occurs in it
    at some offset, and no text in front of a guard or behind it hides it. -/
theorem search_exact (needle hay line : Bytes) :
    Bytes.contains needle hay =
      (needle.isEmpty || (hay.windows needle.length).any fun window => window == needle) ∧
    (Bytes.contains needle hay = true ↔ ∃ before after, hay = before ++ needle ++ after) ∧
    (isGuard line = true ↔ ∃ offset, (Bytes.ofString marker).OccursAt line offset) ∧
    (isGuard line = true → ∀ front back, isGuard (front ++ line ++ back) = true) := by
  refine ⟨Bytes.contains_eq_any_windows needle hay, ?_, isGuard_iff_occursAt, isGuard_append⟩
  rw [Bytes.contains_iff]
  exact exists₂_congr fun _ _ => eq_comm

/-- A needle whose only occurrence is the last window, behind a partial one that overlaps it; a
    needle that is one byte too long; no needle at all; and a marker that ends with its line. -/
theorem search_exact_overlapping :
    (∃ before after, Bytes.ofString "aaab" = before ++ Bytes.ofString "aab" ++ after) ∧
      (¬ ∃ before after, Bytes.ofString "aa" = before ++ Bytes.ofString "aab" ++ after) ∧
      Bytes.contains [] [] = true ∧
      isGuard (Bytes.ofString "\t" ++ Bytes.ofString ("x; " ++ marker) ++ Bytes.ofString "\")") =
        true := by
  obtain ⟨-, hlast, -, -⟩ := search_exact (Bytes.ofString "aab") (Bytes.ofString "aaab") []
  obtain ⟨-, hlong, -, -⟩ := search_exact (Bytes.ofString "aab") (Bytes.ofString "aa") []
  obtain ⟨hnone, -, hguard, hstays⟩ := search_exact [] [] (Bytes.ofString ("x; " ++ marker))
  have hmarker : (Bytes.ofString marker).OccursAt (Bytes.ofString ("x; " ++ marker)) 3 := by decide
  refine ⟨hlast.1 (by decide), fun h => absurd (hlong.2 h) (by decide), hnone, ?_⟩
  exact hstays (hguard.2 ⟨3, hmarker⟩) _ _

end Guard

end SyscallGuard
