import SyscallGuard.Detect
import SyscallGuard.Proofs.Run
import SyscallGuard.Proofs.Text

set_option autoImplicit false

/-! # Sites in the order of their lines

The injector relies on sites that come in the order of their lines. They do: the nodes of a tree in
order are in order as well (`Tree.root_ordered`), a walk that visits each node before its children
then meets the starts of the nodes in ascending order (`Node.preorder_sorted`), and the line of an
offset never decreases with the offset. Every such line is a line of the source
(`Position.line_mem`). -/

namespace SyscallGuard

open Bytes (newline)

/-! ## Positions -/

/-- The line that an offset is on, counted from one. -/
def lineOf (source : Bytes) (offset : Nat) : Nat := 1 + (source.take offset).count newline

theorem Position.line_after (p : Position) (n : Nat) (bytes : Bytes) :
    (p.after n bytes).line = p.line + (bytes.take n).count newline := by
  induction bytes generalizing p n with
  | nil => cases n <;> simp [Position.after]
  | cons b rest ih =>
    cases n with
    | zero => simp [Position.after]
    | succ n =>
      rw [Position.after, ih, List.take_succ_cons, List.count_cons, Position.next]
      by_cases hb : b = newline
      · simp [hb]
        omega
      · simp [hb]

/-- The line of a position is the line of its offset, up to the largest line that is reported. -/
theorem Position.line_ofOffset (source : Bytes) (offset : Nat) :
    (Position.ofOffset source offset).line = min Position.limit (lineOf source offset) := by
  rw [Position.ofOffset, Position.line_after, lineOf]

theorem lineOf_mono (source : Bytes) {a b : Nat} (h : a ≤ b) : lineOf source a ≤ lineOf source b := by
  have htake : source.take a <+: source.take b := List.take_prefix_take_left h
  exact Nat.add_le_add_left (htake.sublist.count_le _) 1

theorem Lines.size_split (source : Bytes) : (Lines.split source).size = 1 + source.count newline := by
  show (Lines.splitBytes source).length = _
  induction source with
  | nil => rfl
  | cons b rest ih =>
    rw [Lines.splitBytes, List.count_cons]
    split
    · next hb => simp [hb, ih]; omega
    · next hb =>
      cases hs : Lines.splitBytes rest with
      | nil => exact absurd hs (Lines.splitBytes_ne_nil rest)
      | cons first others =>
        rw [hs] at ih
        simpa [hb] using ih

theorem lineOf_le_size (source : Bytes) (offset : Nat) :
    lineOf source offset ≤ (Lines.split source).size := by
  rw [lineOf, Lines.size_split]
  exact Nat.add_le_add_left ((List.take_sublist _ _).count_le _) 1

/-- The line of a position is a line of the source. -/
theorem Position.line_mem (source : Bytes) (offset : Nat) :
    1 ≤ (Position.ofOffset source offset).line ∧
      (Position.ofOffset source offset).line ≤ (Lines.split source).size := by
  have hle := lineOf_le_size source offset
  have hpos : 1 ≤ lineOf source offset := Nat.le_add_right 1 _
  rw [Position.line_ofOffset, Position.limit]
  omega

/-! ## Columns -/

/-- The part of a text behind its last line feed. -/
def lastLine (text : Bytes) : Bytes := (text.reverse.takeWhile (· != newline)).reverse

/-- The column of an offset: its line up to there, counted from one. -/
def columnOf (source : Bytes) (offset : Nat) : Nat := 1 + (lastLine (source.take offset)).length

theorem lastLine_append {more : Bytes} (h : newline ∉ more) (text : Bytes) :
    lastLine (text ++ more) = lastLine text ++ more := by
  have hmore : ∀ b ∈ more.reverse, (b != newline) = true := by
    intro b hb
    rw [bne_iff_ne]
    rintro rfl
    exact h (List.mem_reverse.1 hb)
  rw [lastLine, List.reverse_append, List.takeWhile_append_of_pos hmore, List.reverse_append,
    List.reverse_reverse, lastLine]

theorem lastLine_concat_newline (text : Bytes) : lastLine (text ++ [newline]) = [] := by
  simp [lastLine]

theorem newline_not_mem_lastLine (text : Bytes) : newline ∉ lastLine text := by
  rw [lastLine, List.mem_reverse]
  intro h
  have hall := List.all_takeWhile (p := fun b => b != newline) (l := text.reverse)
  exact absurd (List.all_eq_true.1 hall newline h) (by decide)

theorem Position.after_eq_foldl (p : Position) (n : Nat) (bytes : Bytes) :
    p.after n bytes = (bytes.take n).foldl next p := by
  induction bytes generalizing p n with
  | nil => cases n <;> rfl
  | cons b rest ih =>
    cases n with
    | zero => rfl
    | succ n => rw [Position.after, ih, List.take_succ_cons, List.foldl_cons]

theorem Position.column_foldl_next (text : Bytes) :
    (text.foldl next ⟨1, 1⟩).column = 1 + (lastLine text).length := by
  induction text using List.reverseRecOn with
  | nil => rfl
  | append_singleton text b ih =>
    rw [List.foldl_append, List.foldl_cons, List.foldl_nil, Position.next]
    split
    · next hb => rw [hb, lastLine_concat_newline]; rfl
    · next hb =>
      have hmem : newline ∉ [b] := fun h => hb (List.mem_singleton.1 h).symm
      rw [lastLine_append hmem, List.length_append, List.length_singleton, ih, Nat.add_assoc]

/-- The column of a position is the column of its offset, up to the largest that is reported. -/
theorem Position.column_ofOffset (source : Bytes) (offset : Nat) :
    (Position.ofOffset source offset).column = min Position.limit (columnOf source offset) := by
  rw [Position.ofOffset, Position.after_eq_foldl, Position.column_foldl_next, columnOf]

/-- Within a line columns ascend with the offset. -/
theorem columnOf_mono (source : Bytes) {a b : Nat} (h : a ≤ b)
    (hline : lineOf source a = lineOf source b) : columnOf source a ≤ columnOf source b := by
  obtain ⟨more, hmore⟩ := List.take_prefix_take_left (l := source) h
  have hnone : newline ∉ more := by
    rw [lineOf, lineOf, ← hmore, List.count_append] at hline
    exact List.count_eq_zero.1 (by omega)
  rw [columnOf, columnOf, ← hmore, lastLine_append hnone, List.length_append]
  omega

/-! ## Nodes in order -/

namespace Node

mutual

/-- A node ends behind its start, and its children follow each other in between. -/
def Ordered : Node → Prop
  | mk info children => info.start ≤ info.stop ∧ Fits info.stop info.start children

/-- Nodes in order follow each other between two offsets. -/
def Fits (stop : Nat) : Nat → List Node → Prop
  | start, [] => start ≤ stop
  | start, n :: rest => start ≤ n.start ∧ Ordered n ∧ Fits stop n.stop rest

end

theorem Ordered.start_le {n : Node} (h : n.Ordered) : n.start ≤ n.stop := by
  obtain ⟨info, children⟩ := n
  rw [Ordered] at h
  exact h.1

theorem Fits.le {start stop : Nat} {nodes : List Node} (h : Fits stop start nodes) :
    start ≤ stop := by
  induction nodes generalizing start with
  | nil => exact h
  | cons n rest ih =>
    rw [Fits] at h
    exact Nat.le_trans h.1 (Nat.le_trans h.2.1.start_le (ih h.2.2))

theorem Fits.mono {start stop first last : Nat} {nodes : List Node} (h : Fits stop start nodes)
    (hfirst : first ≤ start) (hlast : stop ≤ last) : Fits last first nodes := by
  induction nodes generalizing start first with
  | nil =>
    rw [Fits] at h ⊢
    omega
  | cons n rest ih =>
    rw [Fits] at h ⊢
    exact ⟨Nat.le_trans hfirst h.1, h.2.1, ih h.2.2 (Nat.le_refl _)⟩

theorem Fits.append {start middle stop : Nat} {nodes others : List Node}
    (h : Fits middle start nodes) (hothers : Fits stop middle others) :
    Fits stop start (nodes ++ others) := by
  induction nodes generalizing start with
  | nil => exact hothers.mono h (Nat.le_refl _)
  | cons n rest ih =>
    rw [Fits] at h
    rw [List.cons_append, Fits]
    exact ⟨h.1, h.2.1, ih h.2.2⟩

/-- A node below another lies between two offsets. -/
def Between (start stop : Nat) (n : Node) : Prop := start ≤ n.start ∧ n.stop ≤ stop ∧ n.start ≤ n.stop

mutual

theorem preorder_between : ∀ {n : Node}, n.Ordered → ∀ k ∈ n.preorder, k.Between n.start n.stop
  | mk info children, h, k, hk => by
    rw [Ordered] at h
    rw [preorder] at hk
    rcases List.mem_cons.1 hk with rfl | hk
    · exact ⟨Nat.le_refl _, Nat.le_refl _, h.1⟩
    · exact preorderAll_between h.2 k hk

theorem preorderAll_between : ∀ {nodes : List Node} {start stop : Nat}, Fits stop start nodes →
    ∀ k ∈ preorderAll nodes, k.Between start stop
  | [], _, _, _, k, hk => by cases hk
  | n :: rest, start, stop, h, k, hk => by
    rw [Fits] at h
    obtain ⟨hstart, hn, hrest⟩ := h
    rw [preorderAll] at hk
    rcases List.mem_append.1 hk with hk | hk
    · obtain ⟨hlow, hhigh, hle⟩ := preorder_between hn k hk
      exact ⟨Nat.le_trans hstart hlow, Nat.le_trans hhigh hrest.le, hle⟩
    · obtain ⟨hlow, hhigh, hle⟩ := preorderAll_between hrest k hk
      exact ⟨Nat.le_trans hstart (Nat.le_trans hn.start_le hlow), hhigh, hle⟩

end

mutual

/-- A walk through a node in order meets the starts of the nodes in ascending order. -/
theorem preorder_sorted : ∀ {n : Node}, n.Ordered →
    n.preorder.Pairwise fun a b => a.start ≤ b.start
  | mk info children, h => by
    rw [Ordered] at h
    rw [preorder, List.pairwise_cons]
    exact ⟨fun k hk => (preorderAll_between h.2 k hk).1, preorderAll_sorted h.2⟩

theorem preorderAll_sorted : ∀ {nodes : List Node} {start stop : Nat}, Fits stop start nodes →
    (preorderAll nodes).Pairwise fun a b => a.start ≤ b.start
  | [], _, _, _ => by simp [preorderAll]
  | n :: rest, start, stop, h => by
    rw [Fits] at h
    obtain ⟨-, hn, hrest⟩ := h
    rw [preorderAll, List.pairwise_append]
    refine ⟨preorder_sorted hn, preorderAll_sorted hrest, fun a ha b hb => ?_⟩
    obtain ⟨-, hstop, hle⟩ := preorder_between hn a ha
    exact Nat.le_trans hle (Nat.le_trans hstop (preorderAll_between hrest b hb).1)

end

end Node

/-! ## From trees to nodes -/

namespace Tree

mutual

theorem toNodes_fits : ∀ {t : Tree} (role : Role), t.Ordered →
    Node.Fits t.stop t.start (t.toNodes role)
  | mk info kids, role, h => by
    rw [Ordered] at h
    rw [toNodes]
    split
    · exact ⟨Nat.le_refl _, ⟨h.1, kidNodes_fits _ _ h.2⟩, Nat.le_refl _⟩
    · split
      · exact ⟨Nat.le_refl _, ⟨h.1, kidNodes_fits _ _ h.2⟩, Nat.le_refl _⟩
      · exact kidNodes_fits _ _ h.2

theorem kidNodes_fits : ∀ {kids : List Tree} {start stop : Nat} (inherited : Role)
    (roles : List Role), Fits stop start kids → Node.Fits stop start (kidNodes inherited roles kids)
  | [], _, _, _, _, h => by simpa [kidNodes, Node.Fits, Fits] using h
  | mk info kids :: rest, start, stop, inherited, roles, h => by
    rw [Fits] at h
    obtain ⟨hstart, hfirst, hrest⟩ := h
    have hnodes := fun role => (toNodes_fits role hfirst).mono hstart (Nat.le_refl _)
    rw [kidNodes]
    split
    · exact (hnodes _).append (kidNodes_fits _ _ hrest)
    · exact (hnodes _).append (kidNodes_fits _ _ hrest)

end

/-- The node of a tree in order is in order. -/
theorem root_ordered {t : Tree} (h : t.Ordered) : t.root.Ordered :=
  ⟨h.start_le, kidNodes_fits _ _ h.kids⟩

end Tree

/-! ## Parsed sources -/

namespace Parsed

variable {source : Bytes} {p : Parsed}

theorem exists_of_strict (h : strict source = .ok p) :
    ∃ t, Tree.parse? source = some t ∧ p = ⟨source, t.root, 0 < t.cost⟩ ∧ t.cost = 0 := by
  unfold strict tolerant at h
  cases ht : Tree.parse? source with
  | none => simp [ht] at h
  | some t =>
    rw [ht] at h
    simp only at h
    split at h
    · split at h <;> cases h
    · next hcost =>
      obtain rfl := Except.ok.inj h
      exact ⟨t, rfl, rfl, by simpa using hcost⟩

theorem source_of_strict (h : strict source = .ok p) : p.source = source := by
  obtain ⟨t, -, rfl, -⟩ := exists_of_strict h
  rfl

/-- **The nodes of a parsed source are in order** and lie within the source. -/
theorem root_ordered_of_strict (h : strict source = .ok p) :
    p.root.Ordered ∧ p.root.stop ≤ source.length := by
  obtain ⟨t, hparse, rfl, -⟩ := exists_of_strict h
  obtain ⟨hordered, hstop⟩ := Tree.ordered_of_parse? hparse
  exact ⟨Tree.root_ordered hordered, hstop⟩

end Parsed

/-! ## Sites -/

/-- A site is where its statement starts. -/
theorem Site.position_of_mem_ofStatement {source : Bytes} {n : Node} {s : Site}
    (h : s ∈ Site.ofStatement source n) : s.position = .ofOffset source n.start := by
  obtain ⟨call, -, hcall⟩ := List.mem_filterMap.1 h
  obtain ⟨primitive, -, rfl⟩ := Option.map_eq_some_iff.1 hcall
  rfl

/-- The sites of a tree in order come in the order of their lines. -/
theorem Site.ofTree_sorted {source : Bytes} {root : Node} (h : root.Ordered) :
    (Site.ofTree source root).Pairwise fun a b => a.position.line ≤ b.position.line := by
  rw [Site.ofTree, List.pairwise_flatMap]
  refine ⟨fun n _ => ?_, (Node.preorder_sorted h).imp fun {a b} hab s hs r hr => ?_⟩
  · refine List.pairwise_of_forall_mem_list fun s hs r hr => ?_
    rw [Site.position_of_mem_ofStatement hs, Site.position_of_mem_ofStatement hr]
  · rw [Site.position_of_mem_ofStatement hs, Site.position_of_mem_ofStatement hr,
      Position.line_ofOffset, Position.line_ofOffset]
    have hle := lineOf_mono source hab
    omega

/-- **The sites of a valid source** are on lines of the source and come in the order of these. -/
theorem Parsed.sites_of_strict {source : Bytes} {p : Parsed} (h : Parsed.strict source = .ok p) :
    (∀ s ∈ p.sites, 1 ≤ s.position.line ∧ s.position.line ≤ (Lines.split source).size) ∧
      p.sites.Pairwise fun a b => a.position.line ≤ b.position.line := by
  rw [Parsed.sites, Parsed.source_of_strict h]
  refine ⟨fun s hs => ?_, Site.ofTree_sorted (Parsed.root_ordered_of_strict h).1⟩
  obtain ⟨n, -, hs⟩ := List.mem_flatMap.1 hs
  rw [Site.position_of_mem_ofStatement hs]
  exact Position.line_mem source n.start

end SyscallGuard
