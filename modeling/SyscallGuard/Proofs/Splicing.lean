import SyscallGuard.Proofs.Relocation

set_option autoImplicit false

/-! # Lines under insertion

Cutting a source into lines and joining the lines undo each other, in both directions. What an
insertion does to the lines is plain, but what it does to the joined bytes takes some care: a line
put in front of another brings its line feed behind it, a line put behind the last one brings it in
front. `Lines.splice` is that edit on bytes alone, and `Lines.offset` is where in the bytes the line
boundary of an index lies. `insertAll_splices` says that every run of insertions, with any indices and
any bytes for lines, is the same run of splices. The lines under edit may hold line feeds of their
own: a boundary is told by the lengths of the lines in front of it, not by looking for line feeds. -/

namespace SyscallGuard

open Bytes (newline)

namespace Lines

/-! ## Runs of insertions -/

/-- Inserts a line, or leaves the lines as they are if the index lies past the end; says which. -/
def insert (b : Lines) (index : Nat) (line : Bytes) : Bool × Lines :=
  match b.insert? index line with
  | some c => (true, c)
  | none => (false, b)

/-- Inserts lines one after the other and keeps the answers. -/
def insertAll (b : Lines) : List (Nat × Bytes) → List Bool × Lines
  | [] => ([], b)
  | (index, line) :: rest =>
    let (taken, next) := b.insert index line
    let (answers, last) := insertAll next rest
    (taken :: answers, last)

/-! ## The same on bytes -/

/-- Where line `index` begins in the joined bytes: behind the lines above with a line feed each. The
    boundary behind the last line lies one past the end, for that line has no line feed yet. -/
def offset (b : Lines) (index : Nat) : Nat :=
  ((b.toList.take index).map fun line => line.length + 1).sum

/-- Bytes with a line put in at an offset, and one line feed: behind the line, or in front of it if
    the offset lies past the end. -/
def splice (text : Bytes) (offset : Nat) (line : Bytes) : Bytes :=
  if offset ≤ text.length then text.take offset ++ line ++ newline :: text.drop offset
  else text ++ newline :: line

/-- The insertions of a run that are accepted, with the offsets of their boundaries. -/
def splices (b : Lines) : List (Nat × Bytes) → List (Nat × Bytes)
  | [] => []
  | (index, line) :: rest =>
    if index ≤ b.size then (b.offset index, line) :: splices (b.insert index line).2 rest
    else splices b rest

/-! ## One insertion -/

/-- Inserting into a list is cutting it there, as long as there is such a place. -/
theorem insertIdx_eq_append {lines : List Bytes} {index : Nat} (h : index ≤ lines.length)
    (line : Bytes) : lines.insertIdx index line = lines.take index ++ line :: lines.drop index := by
  induction lines generalizing index with
  | nil =>
    obtain rfl : index = 0 := Nat.le_zero.1 h
    rfl
  | cons first rest ih =>
    cases index with
    | zero => rfl
    | succ index =>
      rw [List.insertIdx_succ_cons, ih (Nat.le_of_succ_le_succ h), List.take_succ_cons,
        List.drop_succ_cons, List.cons_append]

theorem insert_of_le {b : Lines} {index : Nat} (h : index ≤ b.size) (line : Bytes) :
    b.insert index line = (true, ⟨b.toList.insertIdx index line⟩) := by
  rw [insert, insert?, if_pos h, insertIdx_eq_append h]

theorem insert_of_lt {b : Lines} {index : Nat} (h : b.size < index) (line : Bytes) :
    b.insert index line = (false, b) := by
  rw [insert, insert?, if_neg (Nat.not_le.2 h)]

/-- **What an insertion does to the lines**: it is the insertion into the list, which leaves a list
    alone past its end, and the answer says which of the two it was. -/
theorem insert_eq (b : Lines) (index : Nat) (line : Bytes) :
    b.insert index line = (decide (index ≤ b.size), ⟨b.toList.insertIdx index line⟩) := by
  rcases Nat.lt_or_ge b.size index with h | h
  · rw [insert_of_lt h, List.insertIdx_of_length_lt h, decide_eq_false (Nat.not_le.2 h)]
  · rw [insert_of_le h, decide_eq_true h]

theorem insert_ne_nil {b : Lines} (hne : b.toList ≠ []) (index : Nat) (line : Bytes) :
    (b.insert index line).2.toList ≠ [] := by
  intro hnil
  rw [insert_eq] at hnil
  have hlength := List.length_le_length_insertIdx (l := b.toList) (x := line) (i := index)
  rw [show b.toList.insertIdx index line = [] from hnil] at hlength
  exact hne (List.eq_nil_of_length_eq_zero (Nat.le_zero.1 hlength))

/-! ## What it does to the bytes -/

/-- Joined lines are as long as the lines with a line feed each, but for the last line feed. -/
theorem length_joinBytes {lines : List Bytes} (h : lines ≠ []) :
    (joinBytes lines).length + 1 = (lines.map fun line => line.length + 1).sum := by
  induction lines with
  | nil => exact absurd rfl h
  | cons first rest ih =>
    cases rest with
    | nil => simp [joinBytes]
    | cons second others =>
      have hrest := ih (List.cons_ne_nil second others)
      rw [joinBytes, List.map_cons, List.sum_cons, ← hrest, List.length_append, List.length_cons]
      omega

theorem joinBytes_cons {lines : List Bytes} (h : lines ≠ []) (line : Bytes) :
    joinBytes (line :: lines) = line ++ newline :: joinBytes lines :=
  joinBytes_append (List.cons_ne_nil line []) h

theorem take_ne_nil {lines : List Bytes} {index : Nat} (hne : lines ≠ []) (h : 0 < index) :
    lines.take index ≠ [] := by
  intro hnil
  rcases List.take_eq_nil_iff.1 hnil with rfl | hempty
  · exact Nat.lt_irrefl 0 h
  · exact hne hempty

theorem offset_of_pos {b : Lines} {index : Nat} (hne : b.toList ≠ []) (h : 0 < index) :
    b.offset index = (joinBytes (b.toList.take index)).length + 1 := by
  exact (length_joinBytes (take_ne_nil hne h)).symm

/-- **What an insertion does to the bytes**: it is a splice at the boundary of the index. -/
theorem join_insert {b : Lines} {index : Nat} (hne : b.toList ≠ []) (h : index ≤ b.size)
    (line : Bytes) : (b.insert index line).2.join = splice b.join (b.offset index) line := by
  rw [insert_of_le h, join, join, insertIdx_eq_append h]
  rcases Nat.eq_zero_or_pos index with rfl | hpos
  · -- in front of everything
    have hzero : b.offset 0 = 0 := rfl
    rw [hzero, splice, if_pos (Nat.zero_le _)]
    exact joinBytes_cons hne line
  · have htake : b.toList.take index ≠ [] := take_ne_nil hne hpos
    rw [offset_of_pos hne hpos, joinBytes_append htake (List.cons_ne_nil _ _)]
    rcases Nat.lt_or_eq_of_le h with hlt | rfl
    · -- between two lines: the bytes fall into what is in front of the boundary and what is behind
      have hdrop : b.toList.drop index ≠ [] := by
        intro hnil
        exact absurd (List.drop_eq_nil_iff.1 hnil) (Nat.not_le.2 hlt)
      have hjoin : joinBytes b.toList =
          (joinBytes (b.toList.take index) ++ [newline]) ++ joinBytes (b.toList.drop index) := by
        conv_lhs => rw [← List.take_append_drop index b.toList]
        rw [joinBytes_append htake hdrop, List.append_assoc, List.singleton_append]
      have hfront : (joinBytes (b.toList.take index) ++ [newline]).length =
          (joinBytes (b.toList.take index)).length + 1 := List.length_append
      have hle : (joinBytes (b.toList.take index)).length + 1 ≤ (joinBytes b.toList).length := by
        rw [hjoin, List.length_append, hfront]
        exact Nat.le_add_right _ _
      rw [splice, if_pos hle, hjoin, ← hfront, List.take_left, List.drop_left,
        joinBytes_cons hdrop]
      simp only [List.append_assoc, List.cons_append, List.nil_append]
    · -- behind the last line
      have htake : b.toList.take b.size = b.toList := List.take_length
      have hdrop : b.toList.drop b.size = [] := List.drop_length
      rw [htake, hdrop, splice, if_neg (Nat.not_succ_le_self _)]
      rfl

theorem length_splice (text : Bytes) (offset : Nat) (line : Bytes) :
    (splice text offset line).length = text.length + line.length + 1 := by
  unfold splice
  split
  · next h =>
    simp only [List.length_append, List.length_take, List.length_cons, List.length_drop]
    omega
  · simp only [List.length_append, List.length_cons]
    omega

/-! ## Whole runs -/

/-- One more insertion comes after all others. -/
theorem insertAll_concat (b : Lines) (steps : List (Nat × Bytes)) (index : Nat) (line : Bytes) :
    b.insertAll (steps ++ [(index, line)]) =
      ((b.insertAll steps).1 ++ [((b.insertAll steps).2.insert index line).1],
        ((b.insertAll steps).2.insert index line).2) := by
  induction steps generalizing b with
  | nil => rfl
  | cons step rest ih => simp only [List.cons_append, insertAll, ih]

theorem length_answers (b : Lines) (steps : List (Nat × Bytes)) :
    (b.insertAll steps).1.length = steps.length := by
  induction steps generalizing b with
  | nil => rfl
  | cons step rest ih => simp only [insertAll, List.length_cons, ih]

/-- The lines that are spliced in are those whose insertion is answered with yes. -/
theorem map_snd_splices (b : Lines) (steps : List (Nat × Bytes)) :
    (b.splices steps).map Prod.snd =
      ((steps.zip (b.insertAll steps).1).filter Prod.snd).map fun e => e.1.2 := by
  induction steps generalizing b with
  | nil => rfl
  | cons step rest ih =>
    obtain ⟨index, line⟩ := step
    rw [splices, insertAll, insert_eq]
    by_cases h : index ≤ b.size
    · simp [h, ih]
    · rw [if_neg h, ih]
      have hsame : (⟨b.toList.insertIdx index line⟩ : Lines) = b := by
        rw [List.insertIdx_of_length_lt (Nat.not_le.1 h)]
      simp [h, hsame]

/-- The bytes after a run are the bytes before it with every splice in turn. -/
theorem join_insertAll {b : Lines} (hne : b.toList ≠ []) (steps : List (Nat × Bytes)) :
    (b.insertAll steps).2.join =
      (b.splices steps).foldl (fun text e => splice text e.1 e.2) b.join := by
  induction steps generalizing b with
  | nil => rfl
  | cons step rest ih =>
    obtain ⟨index, line⟩ := step
    simp only [insertAll, splices]
    by_cases h : index ≤ b.size
    · rw [if_pos h, List.foldl_cons, ← join_insert hne h line]
      exact ih (insert_ne_nil hne index line)
    · rw [if_neg h, insert_of_lt (Nat.not_le.1 h)]
      exact ih hne

theorem length_foldl_splice (edits : List (Nat × Bytes)) (text : Bytes) :
    (edits.foldl (fun text e => splice text e.1 e.2) text).length =
      text.length + ((edits.map Prod.snd).map List.length).sum + edits.length := by
  induction edits generalizing text with
  | nil => simp
  | cons e rest ih =>
    rw [List.foldl_cons, ih, length_splice, List.map_cons, List.map_cons, List.sum_cons,
      List.length_cons]
    omega

/-! ## The main statement -/

/-- The lines of a run whose insertion was answered with yes. -/
def accepted (steps : List (Nat × Bytes)) (answers : List Bool) : List Bytes :=
  ((steps.zip answers).filter Prod.snd).map fun e => e.1.2

theorem length_accepted {steps : List (Nat × Bytes)} {answers : List Bool}
    (h : answers.length = steps.length) : (accepted steps answers).length = answers.count true := by
  have hsnd : (steps.zip answers).map Prod.snd = answers := List.map_snd_zip (Nat.le_of_eq h)
  rw [accepted, List.length_map, ← List.countP_eq_length_filter, List.count]
  conv_rhs => rw [← hsnd, List.countP_map]
  exact List.countP_congr fun e _ => by simp

/-- **Lines lose nothing, and insertions are splices.** A source has a line more than it has line
    feeds, none with a line feed in it, and these lines make up the source; lines without line feeds
    are in turn what is cut from the bytes that they make up. In every run of insertions, whatever
    the indices and the lines, each is answered, and a further one is answered with whether its index
    is at most the number of lines there are: if so the line stands at its index, and if not nothing
    has changed. The bytes after the run are the source with every accepted line and a line feed
    spliced in at the boundary of its index, so that they are longer by just these. -/
theorem insertAll_splices (source : Bytes) (steps : List (Nat × Bytes)) :
    ((split source).toList ≠ [] ∧ (split source).size = 1 + source.count newline ∧
      (∀ line ∈ (split source).toList, newline ∉ line) ∧ (split source).join = source) ∧
    (∀ lines : List Bytes, lines ≠ [] → (∀ line ∈ lines, newline ∉ line) →
      split (join ⟨lines⟩) = ⟨lines⟩) ∧
    let run := (split source).insertAll steps
    let edits := (split source).splices steps
    run.1.length = steps.length ∧
    (∀ index line, (split source).insertAll (steps ++ [(index, line)]) =
      (run.1 ++ [decide (index ≤ run.2.size)],
        ⟨if index ≤ run.2.size then run.2.toList.insertIdx index line else run.2.toList⟩)) ∧
    edits.map Prod.snd = accepted steps run.1 ∧
    run.2.join = edits.foldl (fun text e => splice text e.1 e.2) source ∧
    run.2.join.length =
      source.length + ((accepted steps run.1).map List.length).sum + run.1.count true := by
  have hne : (split source).toList ≠ [] := splitBytes_ne_nil source
  refine ⟨⟨hne, size_split source, fun line hline => ?_, join_split source⟩, ?_, ?_⟩
  · exact newline_not_mem_of_mem_splitBytes hline
  · intro lines hlines hfree
    exact split_join hlines hfree
  · intro run edits
    have hanswers : run.1.length = steps.length := length_answers _ steps
    have hedits : edits.map Prod.snd = accepted steps run.1 := map_snd_splices _ steps
    have hjoin : run.2.join = edits.foldl (fun text e => splice text e.1 e.2) source := by
      conv_rhs => rw [← join_split source]
      exact join_insertAll hne steps
    refine ⟨hanswers, fun index line => ?_, hedits, hjoin, ?_⟩
    · rw [insertAll_concat]
      by_cases h : index ≤ run.2.size
      · rw [insert_of_le h, if_pos h, decide_eq_true h]
      · rw [insert_of_lt (Nat.not_le.1 h), if_neg h, decide_eq_false h]
    · have hcount : edits.length = run.1.count true := by
        rw [← length_accepted hanswers, ← hedits, List.length_map]
      rw [hjoin, length_foldl_splice, hedits, hcount]

/-- A line behind the last one, a line with a line feed of its own, and one past the end. -/
theorem insertAll_splices_sample :
    let lines := [Bytes.ofString "a", []]
    let steps := [(2, Bytes.ofString "b"), (1, Bytes.ofString "x\ny"), (9, Bytes.ofString "z")]
    let run := (split (Bytes.ofString "a\n")).insertAll steps
    split (join ⟨lines⟩) = ⟨lines⟩ ∧ run.1 = [true, true, false] ∧
      run.2.join = Bytes.ofString "a\nx\ny\n\nb" ∧
      run.2.join.length = 2 + ([1, 3].sum) + run.1.count true := by
  intro lines steps run
  obtain ⟨-, hlines, -, -, -, -, hlength⟩ := insertAll_splices (Bytes.ofString "a\n") steps
  exact ⟨hlines lines (by decide) (by decide), by decide, by decide, hlength⟩

end Lines

end SyscallGuard
