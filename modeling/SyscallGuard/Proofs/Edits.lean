import SyscallGuard.Proofs.Reinjection

set_option autoImplicit false

/-! # Runs of the injector

Nothing here assumes that sites come in the order of their lines, or that they fit the lines at all:
the running offset may point at the wrong line, at a guard of an earlier site or past the end. What
an edit preserves all the same is said with a mark for each line (`marks`) that tells the inserted
lines from those of the target and is edited along with the lines. The invariant (`Edits`) is that
the unmarked lines are the target's and the marked ones are guards; `Edits.inject` is its step and
`edits_injectAll` its run. `injectAll_edits` puts this together with what the next site does. -/

namespace SyscallGuard

open Bytes (newline)

/-! ## Guards and indentation -/

/-- A guard has the indentation that it is given. -/
theorem Guard.leadingIndent_line (target call : Bytes) :
    Bytes.leadingIndent (line (Bytes.leadingIndent target) call) = Bytes.leadingIndent target := by
  have hindent : ∀ b ∈ Bytes.leadingIndent target, Bytes.isIndent b = true :=
    fun b hb => List.all_eq_true.1 List.all_takeWhile b hb
  exact leadingIndent_line_of_indent hindent call

/-! ## Marks -/

/-- The marks after an outcome: an inserted line is marked where it stands. -/
def Outcome.mark (marks : List Bool) : Outcome → List Bool
  | .inserted index => marks.take index ++ true :: marks.drop index
  | _ => marks

/-- Which of the edited lines were inserted: at first none, then one more with each guard. -/
def marks (target : Bytes) (outcomes : List (Site × Outcome)) : List Bool :=
  outcomes.foldl (fun marks o => o.2.mark marks) (List.replicate (Lines.split target).size false)

theorem Outcome.mark_of_not_inserted {o : Outcome} (h : o.isInserted = false) (marks : List Bool) :
    o.mark marks = marks := by
  cases o with
  | inserted k => cases h
  | alreadyGuarded | outOfBounds => rfl

theorem marks_concat (target : Bytes) (outcomes : List (Site × Outcome)) (o : Site × Outcome) :
    marks target (outcomes ++ [o]) = o.2.mark (marks target outcomes) := by
  rw [marks, List.foldl_append]
  rfl

namespace Lines

/-- The lines that have the mark `m`, from top to bottom. -/
def marked (b : Lines) (marks : List Bool) (m : Bool) : List Bytes :=
  ((b.toList.zip marks).filter fun l => l.2 == m).map Prod.fst

/-- Every line has one of the two marks. -/
theorem length_marked {b : Lines} {marks : List Bool} (h : marks.length = b.size) :
    (b.marked marks false).length + (b.marked marks true).length = b.size := by
  have hsplit := List.length_eq_countP_add_countP (fun l : Bytes × Bool => l.2 == false)
    (l := b.toList.zip marks)
  have hother : (fun l : Bytes × Bool => decide ¬(l.2 == false) = true) = fun l => l.2 == true := by
    funext l
    cases l.2 <;> rfl
  have hzip : (b.toList.zip marks).length = b.size := by
    rw [List.length_zip, h, size, Nat.min_self]
  simp only [hother, List.countP_eq_length_filter, hzip] at hsplit
  simp only [marked, List.length_map]
  exact hsplit.symm

theorem zip_insert {b : Lines} {marks : List Bool} (h : marks.length = b.size) (k : Nat)
    (new : Bytes) :
    (b.toList.take k ++ new :: b.toList.drop k).zip (marks.take k ++ true :: marks.drop k) =
      (b.toList.zip marks).take k ++ (new, true) :: (b.toList.zip marks).drop k := by
  have hlen : (b.toList.take k).length = (marks.take k).length := by
    rw [List.length_take, List.length_take, h, size]
  rw [List.zip_append hlen, List.zip_cons_cons, List.zip_eq_zipWith, List.zip_eq_zipWith,
    List.zip_eq_zipWith, List.take_zipWith, List.drop_zipWith]

/-- A marked line does not show among the unmarked ones. -/
theorem marked_false_insert {b : Lines} {marks : List Bool} (h : marks.length = b.size) (k : Nat)
    (new : Bytes) :
    Lines.marked ⟨b.toList.take k ++ new :: b.toList.drop k⟩
        (marks.take k ++ true :: marks.drop k) false = b.marked marks false := by
  rw [marked, zip_insert h, List.filter_append, List.filter_cons_of_neg (by simp),
    ← List.filter_append, List.take_append_drop, marked]

/-- A marked line shows among the marked ones, and nothing else does that did not before. -/
theorem marked_true_insert {b : Lines} {marks : List Bool} (h : marks.length = b.size) (k : Nat)
    (new : Bytes) :
    List.Perm (Lines.marked ⟨b.toList.take k ++ new :: b.toList.drop k⟩
      (marks.take k ++ true :: marks.drop k) true) (new :: b.marked marks true) := by
  have hmiddle : List.Perm
      ((b.toList.zip marks).take k ++ (new, true) :: (b.toList.zip marks).drop k)
      ((new, true) :: ((b.toList.zip marks).take k ++ (b.toList.zip marks).drop k)) :=
    List.perm_middle
  rw [List.take_append_drop] at hmiddle
  have hfilter := hmiddle.filter fun l => l.2 == true
  rw [List.filter_cons_of_pos (by simp)] at hfilter
  rw [marked, zip_insert h]
  exact hfilter.map Prod.fst

end Lines

/-! ## One step -/

namespace Injector

/-- **What an insertion does**: the line at the index had no guard above it; it stands one lower
    now, and its guard, indented like it, stands in its place. -/
theorem inject_of_inserted {i : Injector} {s : Site} {k : Nat}
    (h : (i.inject s).1 = .inserted k) :
    ∃ below, i.lines.line? k = some below ∧ i.guardAbove k = false ∧
      (i.inject s).2 = i.insertAt k (i.guardFor s below) := by
  obtain ⟨hinject, -⟩ | ⟨index, below, -, hline, hinject⟩ := i.inject_cases s
  · rw [hinject] at h
    cases h
  · cases habove : i.guardAbove index with
    | true => simp [hinject, habove] at h
    | false =>
      simp only [hinject, habove, Bool.false_eq_true, if_false, Outcome.inserted.injEq] at h ⊢
      subst h
      exact ⟨below, hline, habove, rfl⟩

theorem line?_insertAt {i : Injector} {k : Nat} {below : Bytes} (h : i.lines.line? k = some below)
    (new : Bytes) :
    (i.insertAt k new).lines.line? k = some new ∧
      (i.insertAt k new).lines.line? (k + 1) = some below ∧
      ∀ j < k, (i.insertAt k new).lines.line? j = i.lines.line? j := by
  obtain ⟨hlt, -⟩ := List.getElem?_eq_some_iff.1 h
  have hlen : (i.lines.toList.take k).length = k := List.length_take_of_le (Nat.le_of_lt hlt)
  simp only [Lines.line?, insertAt] at h ⊢
  refine ⟨?_, ?_, fun j hj => ?_⟩
  · rw [List.getElem?_append_right (by omega), hlen, Nat.sub_self, List.getElem?_cons_zero]
  · rw [List.getElem?_append_right (by omega), hlen, Nat.add_sub_cancel_left,
      List.getElem?_cons_succ, List.getElem?_drop, Nat.add_zero, h]
  · rw [List.getElem?_append_left (by omega), List.getElem?_take_of_lt hj]

theorem eraseIdx_insertAt {i : Injector} {k : Nat} {below : Bytes}
    (h : i.lines.line? k = some below) (new : Bytes) :
    (i.insertAt k new).lines.toList.eraseIdx k = i.lines.toList := by
  obtain ⟨hlt, -⟩ := List.getElem?_eq_some_iff.1 h
  have hlen : (i.lines.toList.take k).length = k := List.length_take_of_le (Nat.le_of_lt hlt)
  rw [insertAt, List.eraseIdx_append_of_length_le (by omega), hlen, Nat.sub_self,
    List.eraseIdx_cons_zero, List.take_append_drop]

/-- One more site is dealt with after all others. -/
theorem injectAll_concat (i : Injector) (sites : List Site) (s : Site) :
    i.injectAll (sites ++ [s]) =
      ((i.injectAll sites).1 ++ [(s, ((i.injectAll sites).2.inject s).1)],
        ((i.injectAll sites).2.inject s).2) := by
  induction sites generalizing i with
  | nil => rfl
  | cons t rest ih => simp only [List.cons_append, injectAll, ih]

end Injector

/-! ## Every run -/

/-- The lines of an injector are those of the target with the guards of its outcomes between. -/
structure Edits (target : Bytes) (outcomes : List (Site × Outcome)) (i : Injector) : Prop where
  source_eq : i.source = target
  insertions_eq : i.insertions = outcomes.countP fun o => o.2.isInserted
  length_marks : (marks target outcomes).length = i.lines.size
  unmarked : i.lines.marked (marks target outcomes) false = (Lines.split target).toList
  length_marked : (i.lines.marked (marks target outcomes) true).length = i.insertions
  guards : ∀ l ∈ i.lines.marked (marks target outcomes) true,
    newline ∉ l ∧ Guard.isGuard l = true

namespace Edits

theorem start (target : Bytes) : Edits target [] (Injector.start target) := by
  have hzip : ((Lines.split target).toList.zip (marks target [])) =
      (Lines.split target).toList.map fun l => (l, false) := by
    rw [marks, List.foldl_nil, Lines.size, List.zip_eq_zipWith, ← List.map_const',
      List.zipWith_map_right, List.zipWith_self]
  have hmarked : (Injector.start target).lines.marked (marks target []) true = [] := by
    rw [Lines.marked, Injector.start, hzip, List.filter_map, List.filter_eq_nil_iff.2 (by simp)]
    rfl
  refine ⟨rfl, rfl, List.length_replicate, ?_, ?_, ?_⟩
  · rw [Lines.marked, Injector.start, hzip, List.filter_map, List.filter_eq_self.2 (by simp),
      List.map_map]
    exact List.map_id _
  · rw [hmarked]
    rfl
  · rw [hmarked]
    exact fun l hl => absurd hl List.not_mem_nil

variable {target : Bytes} {outcomes : List (Site × Outcome)} {i : Injector}

theorem insertAt (h : Edits target outcomes i) (s : Site) {k : Nat} {below : Bytes}
    (hline : i.lines.line? k = some below) :
    Edits target (outcomes ++ [(s, .inserted k)]) (i.insertAt k (i.guardFor s below)) := by
  obtain ⟨hlt, -⟩ := List.getElem?_eq_some_iff.1 hline
  have hperm := Lines.marked_true_insert h.length_marks k (i.guardFor s below)
  have hmarks : marks target (outcomes ++ [(s, .inserted k)]) =
      (marks target outcomes).take k ++ true :: (marks target outcomes).drop k :=
    marks_concat target outcomes _
  refine ⟨h.source_eq, ?_, ?_, ?_, ?_, ?_⟩
  · rw [List.countP_append, ← h.insertions_eq]
    rfl
  · have hlen := h.length_marks
    simp only [hmarks, Injector.insertAt, Lines.size, List.length_append, List.length_take,
      List.length_cons, List.length_drop] at hlen ⊢
    omega
  · rw [hmarks]
    exact (Lines.marked_false_insert h.length_marks k _).trans h.unmarked
  · rw [hmarks]
    exact hperm.length_eq.trans (congrArg (· + 1) h.length_marked)
  · rw [hmarks]
    intro l hl
    rcases List.mem_cons.1 (hperm.mem_iff.1 hl) with rfl | hl
    · exact ⟨Guard.newline_not_mem_line (Bytes.newline_not_mem_leadingIndent _) _,
        Guard.isGuard_line _ _⟩
    · exact h.guards l hl

theorem skip (h : Edits target outcomes i) (s : Site) {o : Outcome} (ho : o.isInserted = false) :
    Edits target (outcomes ++ [(s, o)]) i := by
  have hmarks : marks target (outcomes ++ [(s, o)]) = marks target outcomes :=
    (marks_concat target outcomes (s, o)).trans (Outcome.mark_of_not_inserted ho _)
  have hcount : ((outcomes ++ [(s, o)]).countP fun o => o.2.isInserted) =
      outcomes.countP fun o => o.2.isInserted := by
    rw [List.countP_append, List.countP_singleton, ho]
    rfl
  exact ⟨h.source_eq, h.insertions_eq.trans hcount.symm, hmarks ▸ h.length_marks,
    hmarks ▸ h.unmarked, hmarks ▸ h.length_marked, hmarks ▸ h.guards⟩

/-- One site keeps the invariant, whatever the site. -/
theorem inject (h : Edits target outcomes i) (s : Site) :
    Edits target (outcomes ++ [(s, (i.inject s).1)]) (i.inject s).2 := by
  cases houtcome : (i.inject s).1 with
  | inserted k =>
    obtain ⟨below, hline, -, hnext⟩ := Injector.inject_of_inserted houtcome
    rw [hnext]
    exact h.insertAt s hline
  | alreadyGuarded | outOfBounds =>
    rw [Injector.inject_of_not_inserted (by rw [houtcome]; rfl)]
    exact h.skip s rfl

/-- Each insertion makes the lines one more. -/
theorem size_eq (h : Edits target outcomes i) :
    i.lines.size = (Lines.split target).size + i.insertions := by
  have hsum := Lines.length_marked h.length_marks
  rw [h.unmarked, h.length_marked] at hsum
  exact hsum.symm

theorem newline_not_mem (h : Edits target outcomes i) {l : Bytes} (hl : l ∈ i.lines.toList) :
    newline ∉ l := by
  have hlen : i.lines.toList.length ≤ (marks target outcomes).length :=
    Nat.le_of_eq h.length_marks.symm
  rw [← List.map_fst_zip hlen, List.mem_map] at hl
  obtain ⟨⟨l, m⟩, hmem, rfl⟩ := hl
  have hmarked : l ∈ i.lines.marked (marks target outcomes) m :=
    List.mem_map.2 ⟨(l, m), List.mem_filter.2 ⟨hmem, beq_self_eq_true m⟩, rfl⟩
  cases m with
  | true => exact (h.guards l hmarked).1
  | false =>
    rw [h.unmarked] at hmarked
    exact Lines.newline_not_mem_of_mem_splitBytes hmarked

/-- The output is the target only if nothing was inserted: the lines can be read off the output, and
    every insertion makes them more. -/
theorem output_eq_iff (h : Edits target outcomes i) : i.output = target ↔ i.insertions = 0 := by
  constructor
  · intro houtput
    have hne : i.lines.toList ≠ [] := by
      have hpos := Lines.size_split_pos target
      have hsize := h.size_eq
      intro hnil
      rw [Lines.size, hnil, List.length_nil] at hsize
      omega
    have hlines : Lines.split target = i.lines := by
      rw [← houtput]
      exact Lines.split_join hne fun l hl => h.newline_not_mem hl
    have hsize := h.size_eq
    rw [hlines] at hsize
    omega
  · intro hzero
    have hnone : i.lines.marked (marks target outcomes) true = [] :=
      List.eq_nil_of_length_eq_zero (h.length_marked.trans hzero)
    have hall : i.lines.marked (marks target outcomes) false = i.lines.toList := by
      have hmarks : (i.lines.toList.zip (marks target outcomes)).filter (fun l => l.2 == false) =
          i.lines.toList.zip (marks target outcomes) := by
        refine List.filter_eq_self.2 fun l hl => ?_
        cases hm : l.2 with
        | false => rfl
        | true =>
          have := List.filter_eq_nil_iff.1 (List.map_eq_nil_iff.1 hnone) l hl
          simp [hm] at this
      rw [Lines.marked, hmarks, List.map_fst_zip (Nat.le_of_eq h.length_marks.symm)]
    rw [Injector.output, Lines.join, ← hall, h.unmarked]
    exact Lines.join_split target

end Edits

/-- A whole run keeps the invariant. -/
theorem edits_injectAll (target : Bytes) (sites : List Site) :
    Edits target ((Injector.start target).injectAll sites).1
      ((Injector.start target).injectAll sites).2 := by
  induction sites using List.reverseRecOn with
  | nil => exact Edits.start target
  | append_singleton sites s ih =>
    rw [Injector.injectAll_concat]
    exact ih.inject s

/-! ## The main statement -/

/-- A run of the injector deals with every site once, in the order given. -/
theorem Injector.map_fst_injectAll (i : Injector) (sites : List Site) :
    (i.injectAll sites).1.map Prod.fst = sites := by
  induction sites generalizing i with
  | nil => rfl
  | cons s rest ih => simp only [injectAll, List.map_cons, ih]

/-- **What every run of the injector preserves**, for any target and any sites. After the sites of a
    run there is one outcome for each; insertions are counted by the outcomes and by the lines; the
    lines without those inserted are the target's, and those inserted are guards of one line; the
    output is the target if and only if nothing was inserted. A further site answered with an index
    has put its guard there, indented like the line that it now stands above, and the line above the
    guard is none itself; a site answered otherwise has changed nothing. -/
theorem injectAll_edits (target : Bytes) (sites : List Site) :
    let run := (Injector.start target).injectAll sites
    run.1.map Prod.fst = sites ∧
    run.2.insertions = (run.1.countP fun o => o.2.isInserted) ∧
    run.2.lines.size = (Lines.split target).size + run.2.insertions ∧
    (marks target run.1).length = run.2.lines.size ∧
    run.2.lines.marked (marks target run.1) false = (Lines.split target).toList ∧
    (run.2.lines.marked (marks target run.1) true).length = run.2.insertions ∧
    (∀ l ∈ run.2.lines.marked (marks target run.1) true, newline ∉ l ∧ Guard.isGuard l = true) ∧
    (run.2.output = target ↔ run.2.insertions = 0) ∧
    ∀ s : Site,
      let step := run.2.inject s
      (Injector.start target).injectAll (sites ++ [s]) = (run.1 ++ [(s, step.1)], step.2) ∧
      match step.1 with
      | .inserted k => ∃ below guard,
          run.2.lines.line? k = some below ∧
          step.2.lines.line? k = some guard ∧
          step.2.lines.line? (k + 1) = some below ∧
          guard = Guard.line (Bytes.leadingIndent below) (target.slice s.start s.stop) ∧
          Bytes.leadingIndent guard = Bytes.leadingIndent below ∧
          (∀ above, 1 ≤ k → step.2.lines.line? (k - 1) = some above →
            Guard.isGuard above = false) ∧
          step.2.lines.toList.eraseIdx k = run.2.lines.toList ∧
          step.2.insertions = run.2.insertions + 1
      | .alreadyGuarded | .outOfBounds => step.2 = run.2 := by
  intro run
  have hrun : Edits target run.1 run.2 := edits_injectAll target sites
  refine ⟨Injector.map_fst_injectAll _ _, hrun.insertions_eq, hrun.size_eq, hrun.length_marks,
    hrun.unmarked, hrun.length_marked, hrun.guards, hrun.output_eq_iff, ?_⟩
  intro s step
  refine ⟨Injector.injectAll_concat _ sites s, ?_⟩
  cases houtcome : step.1 with
  | inserted k =>
    obtain ⟨below, hline, habove, hnext⟩ := Injector.inject_of_inserted houtcome
    obtain ⟨hguard, hbelow, hbefore⟩ := Injector.line?_insertAt hline (run.2.guardFor s below)
    have hfor : run.2.guardFor s below =
        Guard.line (Bytes.leadingIndent below) (target.slice s.start s.stop) := by
      rw [Injector.guardFor, hrun.source_eq]
    refine ⟨below, run.2.guardFor s below, hline, ?_, ?_, hfor, ?_, ?_, ?_, ?_⟩
    · exact (congrArg (fun i => i.lines.line? k) hnext).trans hguard
    · exact (congrArg (fun i => i.lines.line? (k + 1)) hnext).trans hbelow
    · exact Guard.leadingIndent_line below _
    · intro above hk hab
      obtain ⟨j, rfl⟩ : ∃ j, k = j + 1 := ⟨k - 1, by omega⟩
      rw [show step.2 = _ from hnext, Nat.add_sub_cancel, hbefore j (Nat.lt_succ_self j)] at hab
      rw [Injector.guardAbove, hab] at habove
      exact habove
    · exact (congrArg (fun i => i.lines.toList.eraseIdx k) hnext).trans
        (Injector.eraseIdx_insertAt hline _)
    · exact congrArg Injector.insertions hnext
  | alreadyGuarded | outOfBounds =>
    exact Injector.inject_of_not_inserted (by rw [show (run.2.inject s).1 = _ from houtcome]; rfl)

-- the second site is above the first, so its offset is one too large and it guards the guard
example : ((Injector.start (Bytes.ofString "a\nb")).injectAll
    [⟨⟨2, 1⟩, 2, 3, .syscall⟩, ⟨⟨1, 1⟩, 0, 1, .syscall⟩]).1.map Prod.snd =
      [.inserted 1, .inserted 1] := by decide

end SyscallGuard
