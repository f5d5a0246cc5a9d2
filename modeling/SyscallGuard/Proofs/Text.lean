import SyscallGuard.Guard
import SyscallGuard.Text.Lines
import Mathlib.Data.List.Infix

set_option autoImplicit false

/-! # Bytes, lines and guard lines

What a range of bytes is (`slice?_eq_some_iff`), what the search for a substring finds
(`contains_iff`), that cutting undoes joining as long as no line has a line feed of its own
(`splitBytes_joinBytes`), and the two facts about a guard that the injector depends on: it is one
line (`newline_not_mem_line`) and it is recognised (`isGuard_line`). -/

namespace SyscallGuard

namespace Bytes

/-! ## Ranges -/

/-- A range that fits is what stands between what is in front of it and what is behind it. -/
theorem slice?_eq_some_iff {b part : Bytes} {start stop : Nat} :
    b.slice? start stop = some part ↔
      ∃ before after, b = before ++ part ++ after ∧ before.length = start ∧
        start + part.length = stop := by
  constructor
  · intro h
    unfold slice? at h
    split at h
    · next hfits =>
      obtain ⟨hstart, hstop⟩ := hfits
      have hpart : (b.drop start).take (stop - start) = part := Option.some.inj h
      have hafter : (b.drop start).drop (stop - start) = b.drop stop := by
        rw [List.drop_drop, Nat.add_sub_cancel' hstart]
      refine ⟨b.take start, b.drop stop, ?_, ?_, ?_⟩
      · rw [← hpart, ← hafter, List.append_assoc, List.take_append_drop, List.take_append_drop]
      · rw [List.length_take]
        omega
      · rw [← hpart, List.length_take, List.length_drop]
        omega
    · cases h
  · rintro ⟨before, after, rfl, rfl, rfl⟩
    have hfits : before.length ≤ before.length + part.length ∧
        before.length + part.length ≤ (before ++ part ++ after).length := by
      simp only [List.length_append]
      omega
    rw [slice?, if_pos hfits, List.append_assoc, List.drop_left, Nat.add_sub_cancel_left,
      List.take_left]

/-! ## Search -/

/-- The search finds a needle if and only if the needle stands somewhere. -/
theorem contains_iff (needle hay : Bytes) :
    contains needle hay = true ↔ needle <:+: hay := by
  induction hay with
  | nil =>
    rw [contains, List.isEmpty_iff, List.infix_nil]
  | cons b rest ih =>
    rw [contains, Bool.or_eq_true, ih, List.isPrefixOf_iff_prefix, List.infix_cons_iff]

theorem contains_append (needle before after : Bytes) :
    contains needle (before ++ needle ++ after) = true :=
  (contains_iff needle _).2 ⟨before, after, rfl⟩

theorem newline_not_mem_leadingIndent (line : Bytes) : newline ∉ leadingIndent line := by
  intro h
  have hindent : isIndent newline = true := List.all_eq_true.1 List.all_takeWhile _ h
  exact absurd hindent (by decide)

end Bytes

/-! ## Lines -/

namespace Lines

open Bytes (newline)

theorem newline_not_mem_of_mem_splitBytes {source line : Bytes} (h : line ∈ splitBytes source) :
    newline ∉ line := by
  induction source generalizing line with
  | nil =>
    rw [splitBytes, List.mem_singleton] at h
    simp [h]
  | cons b rest ih =>
    rw [splitBytes] at h
    split at h
    · rcases List.mem_cons.1 h with rfl | h
      · simp
      · exact ih h
    · next hb =>
      cases hs : splitBytes rest with
      | nil => exact absurd hs (splitBytes_ne_nil rest)
      | cons first others =>
        rw [hs] at h
        rcases List.mem_cons.1 h with rfl | h
        · have hfirst : newline ∉ first := ih (hs ▸ List.mem_cons_self)
          simp only [List.mem_cons, not_or]
          exact ⟨fun he => hb he.symm, hfirst⟩
        · exact ih (hs ▸ List.mem_cons_of_mem _ h)

theorem splitBytes_of_not_mem {line : Bytes} (h : newline ∉ line) : splitBytes line = [line] := by
  induction line with
  | nil => rfl
  | cons b rest ih =>
    simp only [List.mem_cons, not_or] at h
    rw [splitBytes, if_neg (fun he => h.1 he.symm), ih h.2]

theorem splitBytes_append_newline {line : Bytes} (h : newline ∉ line) (rest : Bytes) :
    splitBytes (line ++ newline :: rest) = line :: splitBytes rest := by
  induction line with
  | nil => simp [splitBytes]
  | cons b line ih =>
    simp only [List.mem_cons, not_or] at h
    rw [List.cons_append, splitBytes, if_neg (fun he => h.1 he.symm), ih h.2]

/-- Joining lines and cutting the result gives the lines back. -/
theorem splitBytes_joinBytes {lines : List Bytes} (hne : lines ≠ [])
    (h : ∀ line ∈ lines, newline ∉ line) : splitBytes (joinBytes lines) = lines := by
  induction lines with
  | nil => exact absurd rfl hne
  | cons line rest ih =>
    have hline : newline ∉ line := h line List.mem_cons_self
    match rest with
    | [] => rw [joinBytes, splitBytes_of_not_mem hline]
    | next :: others =>
      rw [joinBytes, splitBytes_append_newline hline,
        ih (by simp) fun l hl => h l (List.mem_cons_of_mem _ hl)]

theorem split_join {b : Lines} (hne : b.toList ≠ []) (h : ∀ line ∈ b.toList, newline ∉ line) :
    split b.join = b := by
  rw [split, join, splitBytes_joinBytes hne h]

theorem size_split_pos (source : Bytes) : 0 < (split source).size :=
  List.length_pos_of_ne_nil (splitBytes_ne_nil source)

/-- Insertion at an index that there is. -/
theorem insert?_of_line? {b : Lines} {index : Nat} {line : Bytes} (h : b.line? index = some line)
    (new : Bytes) :
    b.insert? index new = some ⟨b.toList.take index ++ new :: b.toList.drop index⟩ := by
  obtain ⟨hlt, -⟩ := List.getElem?_eq_some_iff.1 h
  have hle : index ≤ b.size := Nat.le_of_lt hlt
  rw [insert?, if_pos hle]

end Lines

/-! ## Guard lines -/

namespace Guard

open Bytes (newline)

theorem newline_not_mem_escapeByte (b : UInt8) : newline ∉ escapeByte b := by
  unfold escapeByte
  split
  · decide
  split
  · decide
  split
  · decide
  split
  · decide
  · next h _ =>
    rw [List.mem_singleton]
    exact fun he => h he.symm

/-- A guard is one line, whatever the call. -/
theorem newline_not_mem_line {indent : Bytes} (h : newline ∉ indent) (call : Bytes) :
    newline ∉ line indent call := by
  have hmarker : newline ∉ Bytes.ofString (marker ++ " ") := by decide
  have hclose : newline ∉ Bytes.ofString "\")" := by decide
  have hcall : newline ∉ escape call := by
    rw [escape, List.mem_flatMap]
    rintro ⟨b, -, hb⟩
    exact newline_not_mem_escapeByte b hb
  simp only [line, List.mem_append, not_or]
  exact ⟨⟨⟨h, hmarker⟩, hcall⟩, hclose⟩

/-- A guard starts with its indent and nothing else that counts as one. -/
theorem leadingIndent_line_of_indent {indent : Bytes}
    (h : ∀ b ∈ indent, Bytes.isIndent b = true) (callText : Bytes) :
    Bytes.leadingIndent (line indent callText) = indent := by
  have hmarker : ∃ rest, Bytes.ofString (marker ++ " ") = 112 :: rest := ⟨_, rfl⟩
  obtain ⟨rest, hrest⟩ := hmarker
  have hnone : Bytes.leadingIndent (Bytes.ofString (marker ++ " ")
      ++ (escape callText ++ Bytes.ofString "\")")) = [] := by
    rw [hrest, List.cons_append, Bytes.leadingIndent, List.takeWhile_cons_of_neg (by decide)]
  rw [line, List.append_assoc, List.append_assoc]
  refine (List.takeWhile_append_of_pos h).trans ?_
  exact (congrArg _ hnone).trans (List.append_nil _)

/-- A guard is recognised as one. -/
theorem isGuard_line (indent call : Bytes) : isGuard (line indent call) = true := by
  have hmarker : Bytes.ofString (marker ++ " ") = Bytes.ofString marker ++ Bytes.ofString " " := by
    decide
  have hline : line indent call = indent ++ Bytes.ofString marker
      ++ (Bytes.ofString " " ++ escape call ++ Bytes.ofString "\")") := by
    simp only [line, hmarker, List.append_assoc]
  rw [isGuard, hline]
  exact Bytes.contains_append _ _ _

end Guard

end SyscallGuard
