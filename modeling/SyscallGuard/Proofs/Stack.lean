import SyscallGuard.Parse.Stack
import SyscallGuard.Proofs.Formed
import Mathlib.Data.List.Basic

set_option autoImplicit false

/-! # The order of the stack

Every tree on the stack lies between the offsets of the two vertices it links, and in a tree the
children follow each other from its start to its end (`Tree.Ordered`). Where the parser has not left
the grammar, a tree is also a move of the automaton between the states of the two vertices
(`LinkReads`). What the parser does to the stack keeps it so (`Graph.Sound`): vertices never move, a
vertex is only merged with one at the same offset and in the same state, and the trees on a way down,
put next to each other, fill the source between the two ends of the way and, if they are without
faults, are a way through the automaton (`Graph.Above`). -/

namespace SyscallGuard

open Automaton (State Edge faultState)

/-! ## Trees in order -/

namespace Tree

mutual

/-- A tree ends behind its start, and its children follow each other in between. -/
def Ordered : Tree → Prop
  | mk info kids => info.start ≤ info.stop ∧ Fits info.stop info.start kids

/-- Trees in order follow each other between two offsets. -/
def Fits (stop : Nat) : Nat → List Tree → Prop
  | start, [] => start ≤ stop
  | start, t :: rest => start ≤ t.start ∧ Ordered t ∧ Fits stop t.stop rest

end

/-- Where trees end that follow an offset. -/
def stopAfter (offset : Nat) (trees : List Tree) : Nat := (trees.getLast?.map stop).getD offset

theorem Ordered.start_le {t : Tree} (h : t.Ordered) : t.start ≤ t.stop := by
  obtain ⟨info, kids⟩ := t
  rw [Ordered] at h
  exact h.1

theorem Ordered.kids {t : Tree} (h : t.Ordered) : Fits t.stop t.start t.kids := by
  obtain ⟨info, kids⟩ := t
  rw [Ordered] at h
  exact h.2

theorem Fits.le {start stop : Nat} {trees : List Tree} (h : Fits stop start trees) :
    start ≤ stop := by
  induction trees generalizing start with
  | nil => exact h
  | cons t rest ih =>
    rw [Fits] at h
    exact Nat.le_trans h.1 (Nat.le_trans h.2.1.start_le (ih h.2.2))

theorem Fits.mono {start stop first last : Nat} {trees : List Tree} (h : Fits stop start trees)
    (hfirst : first ≤ start) (hlast : stop ≤ last) : Fits last first trees := by
  induction trees generalizing start first with
  | nil =>
    rw [Fits] at h ⊢
    omega
  | cons t rest ih =>
    rw [Fits] at h ⊢
    exact ⟨Nat.le_trans hfirst h.1, h.2.1, ih h.2.2 (Nat.le_refl _)⟩

theorem Fits.append {start middle stop : Nat} {trees others : List Tree}
    (h : Fits middle start trees) (hothers : Fits stop middle others) :
    Fits stop start (trees ++ others) := by
  induction trees generalizing start with
  | nil => exact hothers.mono h (Nat.le_refl _)
  | cons t rest ih =>
    rw [Fits] at h
    rw [List.cons_append, Fits]
    exact ⟨h.1, h.2.1, ih h.2.2⟩

@[simp] theorem stopAfter_nil (offset : Nat) : stopAfter offset [] = offset := rfl

@[simp] theorem stopAfter_cons (offset : Nat) (t : Tree) (rest : List Tree) :
    stopAfter offset (t :: rest) = stopAfter t.stop rest := by
  cases rest with
  | nil => rfl
  | cons u rest =>
    obtain ⟨last, hlast⟩ :=
      Option.isSome_iff_exists.1 (List.getLast?_isSome.2 (List.cons_ne_nil u rest))
    rw [stopAfter, stopAfter, List.getLast?_cons_cons, hlast]
    rfl

theorem stopAfter_append (offset : Nat) (trees others : List Tree) :
    stopAfter offset (trees ++ others) = stopAfter (stopAfter offset trees) others := by
  induction trees generalizing offset with
  | nil => rfl
  | cons t rest ih => rw [List.cons_append, stopAfter_cons, stopAfter_cons, ih]

/-- Trees that follow each other fall into two groups that do. -/
theorem Fits.split {start stop : Nat} {trees others : List Tree}
    (h : Fits stop start (trees ++ others)) :
    Fits (stopAfter start trees) start trees ∧ Fits stop (stopAfter start trees) others := by
  induction trees generalizing start with
  | nil => exact ⟨Nat.le_refl _, h⟩
  | cons t rest ih =>
    rw [List.cons_append, Fits] at h
    obtain ⟨hrest, hothers⟩ := ih h.2.2
    rw [Fits, stopAfter_cons]
    exact ⟨⟨h.1, h.2.1, hrest⟩, hothers⟩

theorem Fits.tight {start stop : Nat} {trees : List Tree} (h : Fits stop start trees) :
    Fits (stopAfter start trees) start trees ∧ stopAfter start trees ≤ stop := by
  rw [← List.append_nil trees] at h
  exact h.split

/-- The tree over children in order is in order and ends where they end. -/
theorem branch_fits {source : Input} {label : Label} {roles : List Role} {kids : List Tree}
    {offset stop : Nat} (h : Fits stop offset kids) :
    (branch source label roles kids offset).Ordered ∧
      offset ≤ (branch source label roles kids offset).start ∧
      (branch source label roles kids offset).stop = stopAfter offset kids := by
  have htight := h.tight.1
  cases kids with
  | nil => exact ⟨⟨Nat.le_refl _, Nat.le_refl _⟩, Nat.le_refl _, rfl⟩
  | cons t rest =>
    have hstop : (branch source label roles (t :: rest) offset).stop =
      stopAfter offset (t :: rest) := rfl
    rw [Fits] at htight
    refine ⟨?_, htight.1, hstop⟩
    have hkids : Fits (stopAfter offset (t :: rest)) t.start (t :: rest) := by
      rw [Fits]
      exact ⟨Nat.le_refl _, htight.2⟩
    exact ⟨hkids.le, hkids⟩

/-- Over some children it does not matter where a tree without any would stand. -/
theorem branch_congr (source : Input) (label : Label) (roles : List Role) {kids : List Tree}
    (h : kids ≠ []) (a b : Nat) :
    branch source label roles kids a = branch source label roles kids b := by
  have hfirst : kids.head? = some (kids.head h) := List.head?_eq_some_head h
  have hlast : kids.getLast? = some (kids.getLast h) := List.getLast?_eq_some_getLast h
  simp only [branch, hfirst, hlast, Option.map_some, Option.getD_some]

@[simp] theorem start_asExtra (t : Tree) : t.asExtra.start = t.start := rfl
@[simp] theorem stop_asExtra (t : Tree) : t.asExtra.stop = t.stop := rfl
@[simp] theorem start_addWeight (w : Int) (t : Tree) : (t.addWeight w).start = t.start := rfl
@[simp] theorem stop_addWeight (w : Int) (t : Tree) : (t.addWeight w).stop = t.stop := rfl

@[simp] theorem ordered_asExtra (t : Tree) : t.asExtra.Ordered ↔ t.Ordered := by
  obtain ⟨info, kids⟩ := t
  simp only [asExtra, Tree.info, Tree.kids, Ordered]

@[simp] theorem ordered_addWeight (w : Int) (t : Tree) : (t.addWeight w).Ordered ↔ t.Ordered := by
  obtain ⟨info, kids⟩ := t
  simp only [addWeight, Tree.info, Tree.kids, Ordered]

/-- A tree over the first of some trees takes their place. -/
theorem Fits.wrap {kids extras : List Tree} {offset stop : Nat} (h : Fits stop offset (kids ++ extras))
    (source : Input) (label : Label) (roles : List Role) :
    Fits stop offset (branch source label roles kids offset :: extras) ∧
      stopAfter offset (branch source label roles kids offset :: extras) =
        stopAfter offset (kids ++ extras) := by
  obtain ⟨hkids, hextras⟩ := h.split
  obtain ⟨hordered, hstart, hstop⟩ :
    (branch source label roles kids offset).Ordered ∧ _ := branch_fits hkids
  rw [Fits, stopAfter_cons, stopAfter_append, hstop]
  exact ⟨⟨hstart, hordered, hextras⟩, rfl⟩

end Tree

/-! ## Shelves without gaps -/

namespace Shelf

variable {α : Type}

/-- A shelf that holds exactly the numbers below `size`. -/
def Filled (s : Shelf α) (size : Nat) : Prop := ∀ n, (s.get? n).isSome = true ↔ n < size

theorem Filled.odd {thing : α} {odd even : Shelf α} {size : Nat}
    (h : (node thing odd even).Filled size) : odd.Filled (size / 2) := by
  intro n
  have := h (2 * n + 1)
  rw [get?, if_neg (by omega), if_pos (by omega), show (2 * n + 1) / 2 = n by omega] at this
  rw [this]
  omega

theorem Filled.even {thing : α} {odd even : Shelf α} {size : Nat}
    (h : (node thing odd even).Filled size) : even.Filled ((size - 1) / 2) := by
  intro n
  have := h (2 * n + 2)
  rw [get?, if_neg (by omega), if_neg (by omega), show (2 * n + 2) / 2 - 1 = n by omega] at this
  rw [this]
  omega

/-- A thing put on a shelf without gaps is found under its number, and all others as before. -/
theorem Filled.get?_set {s : Shelf α} {size n : Nat} (h : s.Filled size) (hn : n ≤ size) (thing : α)
    (m : Nat) : (s.set thing n).get? m = if m = n then some thing else s.get? m := by
  induction s generalizing size n m with
  | empty =>
    have hzero : n = 0 := by
      have := (h 0).not.1 (by simp [get?])
      omega
    by_cases hm : m = 0 <;> simp [set, get?, hzero, hm]
  | node old odd even ihOdd ihEven =>
    -- Both branches are without gaps, and the number goes on into one of them by halves.
    have hodd := ihOdd h.odd (n := n / 2) (by omega)
    have heven := ihEven h.even (n := n / 2 - 1)
    by_cases hzero : n = 0
    · by_cases hm : m = 0 <;> simp [set, get?, hzero, hm]
    · rw [set, if_neg hzero]
      split
      · by_cases hm : m = 0
        · simp [get?, hm, Ne.symm hzero]
        · simp only [get?, hm, if_false]
          split
          · rw [hodd]
            grind
          · grind
      · by_cases hm : m = 0
        · simp [get?, hm, Ne.symm hzero]
        · simp only [get?, hm, if_false]
          split
          · grind
          · rw [heven (by omega)]
            grind

theorem Filled.set {s : Shelf α} {size n : Nat} (h : s.Filled size) (hn : n ≤ size) (thing : α) :
    (s.set thing n).Filled (max size (n + 1)) := by
  intro m
  rw [h.get?_set hn]
  split
  · simp; omega
  · rw [h m]; omega

end Shelf

/-! ## Trees on the stack -/

/-- What is known of a tree wherever it stands: what a phrase costs, and that a comment is one. -/
structure Tree.Tidy (source : Bytes) (t : Tree) : Prop where
  cost_eq : ∀ p, t.label = .phrase p → t.cost = Tree.owed t.kids
  extra : t.extra = true →
    t.label ≠ .skipped ∧ t.label ≠ .token .eof ∧ (t.cost = 0 → t.Formed source)

/-- A tree is tidy, and so is everything below it. -/
inductive Tree.Kept (source : Bytes) : Tree → Prop
  | mk {info : TreeInfo} {kids : List Tree} (self : (Tree.mk info kids).Tidy source)
      (all : ∀ k ∈ kids, Tree.Kept source k) : Tree.Kept source (.mk info kids)

namespace Tree

variable {source : Bytes} {t : Tree}

theorem Kept.self (h : t.Kept source) : t.Tidy source := by
  cases h with
  | mk self => exact self

theorem Kept.kids (h : t.Kept source) : ∀ k ∈ t.kids, k.Kept source := by
  cases h with
  | mk _ all => exact all

theorem Tidy.kept (h : t.Tidy source) (hkids : ∀ k ∈ t.kids, k.Kept source) : t.Kept source := by
  obtain ⟨info, kids⟩ := t
  exact .mk h hkids

/-- A tree that is no comment is tidy if its price is right. -/
theorem Tidy.of_not_extra (hextra : t.extra = false)
    (hcost : ∀ p, t.label = .phrase p → t.cost = Tree.owed t.kids) : t.Tidy source := by
  refine ⟨hcost, fun h => ?_⟩
  rw [hextra] at h
  cases h

theorem Kept.addWeight (h : t.Kept source) (hextra : t.extra = false) (w : Int) :
    (t.addWeight w).Kept source :=
  .mk (.of_not_extra hextra h.self.cost_eq) h.kids

/-- A tree counted as a comment is kept if it may be one. -/
theorem Kept.asExtra (h : t.Kept source) (hskipped : t.label ≠ .skipped)
    (heof : t.label ≠ .token .eof) (hformed : t.cost = 0 → t.Formed source) :
    t.asExtra.Kept source :=
  .mk ⟨h.self.cost_eq, fun _ => ⟨hskipped, heof, fun hcost => (hformed hcost).asExtra⟩⟩ h.kids

/-- A tree over kept children is kept. -/
theorem kept_branch {input : Input} (label : Label) (roles : List Role) {kids : List Tree}
    (offset : Nat) (hkids : ∀ k ∈ kids, k.Kept source) :
    (branch input label roles kids offset).Kept source := by
  refine (Tidy.of_not_extra rfl fun p hp => ?_).kept hkids
  obtain rfl : label = .phrase p := hp
  exact cost_branch rfl

end Tree

/-! ## The graph -/

/-- What a link carries lies between the vertices it joins; the mark of a fault takes no room. -/
def LinkFits (below above : Nat) : Option Tree → Prop
  | some t => below ≤ t.start ∧ t.Ordered ∧ t.stop = above
  | none => below = above

/-- What a link carries leads from the state below it to the one above, unless the parser is
    skipping input there; then nothing has to be in the grammar. -/
def LinkReads (source : Bytes) (below above : State) : Option Tree → Prop
  | some t => t.Kept source ∧ (above ≠ faultState →
      (if t.extra then above = below else Edge below t.label above) ∧
        (t.cost = 0 → t.Formed source))
  | none => above = faultState

/-- Whether a link carries the end of the source, or the fault that is made of the rest of it. -/
def IsEnd : Option Tree → Prop
  | some t => t.label = .token .eof ∨ t.label = .fault ∧ t.extra = false
  | none => False

/-- Trees that lead down from one state to another, with marks of faults between them. -/
inductive Leads (source : Bytes) (above : State) : State → List Tree → Prop
  | nil : Leads source above above []
  | cons {next below : State} {t : Tree} {trees : List Tree} (goes_on : ¬ IsEnd (some t))
      (move : LinkReads source below next (some t)) (rest : Leads source above next trees) :
      Leads source above below (t :: trees)
  | mark {trees : List Tree} (rest : Leads source above faultState trees) (below : State) :
      Leads source above below trees

/-- Trees without faults; what skipped input costs is counted elsewhere, and comments lead nowhere. -/
def Clean (trees : List Tree) : Prop :=
  ∀ t ∈ trees, t.extra = false → t.label = .skipped ∨ t.cost = 0

namespace Leads

variable {source : Bytes} {above below : State} {trees : List Tree}

theorem kept (h : Leads source above below trees) :
    ∀ t ∈ trees, t.Kept source ∧ ¬ IsEnd (some t) := by
  induction h with
  | nil => simp
  | cons goes_on move _ ih =>
    intro u hu
    rcases List.mem_cons.1 hu with rfl | hu
    · exact ⟨move.1, goes_on⟩
    · exact ih u hu
  | mark _ _ ih => exact ih

/-- Clean trees below a state of the grammar are a way through the automaton, and formed. -/
theorem clean (h : Leads source above below trees) (habove : above ≠ faultState)
    (hclean : Clean trees) :
    below ≠ faultState ∧ Automaton.Walk below (Tree.labels trees) above ∧
      ∀ t ∈ trees, t.label = .skipped ∨ t.cost = 0 → t.Formed source := by
  induction h with
  | nil => exact ⟨habove, .nil _, by simp⟩
  | @cons next below t trees goes_on move _ ih =>
    obtain ⟨hnext, hwalk, hformed⟩ := ih fun u hu => hclean u (List.mem_cons_of_mem t hu)
    obtain ⟨hkept, hmove⟩ : t.Kept source ∧ _ := move
    obtain ⟨hedge, hcost⟩ := hmove hnext
    by_cases hextra : t.extra = true
    · rw [if_pos hextra] at hedge
      rw [Tree.labels_cons_of_extra hextra]
      exact ⟨hedge ▸ hnext, hedge ▸ hwalk, List.forall_mem_cons.2 ⟨fun hzero =>
        hcost (hzero.resolve_left (hkept.self.extra hextra).1), hformed⟩⟩
    · rw [if_neg hextra] at hedge
      have hskipped : t.label ≠ .skipped := fun hskipped => by
        rw [hskipped] at hedge
        exact hedge
      rw [Tree.labels_cons (Bool.eq_false_iff.2 hextra)]
      exact ⟨hedge.checked.ne_fault, .cons hedge hwalk,
        List.forall_mem_cons.2 ⟨fun hzero => hcost (hzero.resolve_left hskipped), hformed⟩⟩
  | mark _ _ ih => exact absurd rfl (ih hclean).1

/-- Comments lead nowhere. -/
theorem extras (h : Leads source above below trees) (habove : above ≠ faultState)
    (hextra : ∀ t ∈ trees, t.extra = true) : below = above := by
  induction h with
  | nil => rfl
  | @cons next below t trees _ move _ ih =>
    have hnext := ih fun u hu => hextra u (List.mem_cons_of_mem t hu)
    have hedge := (move.2 (hnext ▸ habove)).1
    rw [if_pos (hextra t List.mem_cons_self)] at hedge
    exact hedge.symm.trans hnext
  | mark _ _ ih => exact absurd (ih hextra).symm habove

/-- The last tree that is no comment is a move into the state above. -/
theorem last (h : Leads source above below trees) (habove : above ≠ faultState) {front : List Tree}
    {t : Tree} {extras : List Tree} (heq : trees = front ++ t :: extras) (ht : t.extra = false)
    (hextras : ∀ e ∈ extras, e.extra = true) : ∃ s, Edge s t.label above := by
  induction h generalizing front with
  | nil => simp at heq
  | @cons next below u trees _ move rest ih =>
    cases front with
    | nil =>
      obtain ⟨rfl, rfl⟩ := List.cons.inj heq
      have hnext := rest.extras habove hextras
      have hedge := (move.2 (hnext ▸ habove)).1
      rw [if_neg (by simp [ht]), hnext] at hedge
      exact ⟨_, hedge⟩
    | cons _ front => exact ih (List.cons.inj heq).2
  | mark _ _ ih => exact ih heq

end Leads

namespace Graph

/-- Where in the source the stack ends at a vertex. -/
def offset (g : Graph) (n : Nat) : Nat := (g.get n).offset

/-- The state of a vertex. -/
def state (g : Graph) (n : Nat) : State := (g.get n).state

/-- Whether the source goes on behind a vertex. -/
def Open (g : Graph) (n : Nat) : Prop := ∀ l ∈ (g.get n).links, ¬ IsEnd l.1

/-- What a link down from a vertex has to be: it leads to a vertex that there is, what it carries
    fits, and before the end of the source it leads from state to state. -/
structure LinkSound (source : Input) (g : Graph) (offset : Nat) (state : State) (l : Link) :
    Prop where
  below_lt : l.2 < g.size
  fits : LinkFits (g.offset l.2) offset l.1
  reads : ¬ IsEnd l.1 → g.Open l.2 ∧ LinkReads source.bytes (g.state l.2) state l.1

/-- A stack over a source, all of whose links are sound. -/
structure Sound (source : Input) (g : Graph) : Prop where
  filled : g.vertices.Filled g.size
  offset_le : ∀ n, g.offset n ≤ source.length
  links : ∀ n, ∀ l ∈ (g.get n).links, g.LinkSound source (g.offset n) (g.state n) l

/-- A later graph: the vertices that there were have stayed where they were, in their states, and
    the source goes on behind them if it did. -/
structure Extends (g later : Graph) : Prop where
  size_le : g.size ≤ later.size
  offset_eq : ∀ n, n < g.size → later.offset n = g.offset n
  state_eq : ∀ n, n < g.size → later.state n = g.state n
  opens : ∀ n, n < g.size → g.Open n → later.Open n

theorem Extends.refl (g : Graph) : g.Extends g :=
  ⟨Nat.le_refl _, fun _ _ => rfl, fun _ _ => rfl, fun _ _ h => h⟩

theorem Extends.trans {g h k : Graph} (hgh : g.Extends h) (hhk : h.Extends k) : g.Extends k :=
  have hlt := fun n (hn : n < g.size) => Nat.lt_of_lt_of_le hn hgh.size_le
  ⟨Nat.le_trans hgh.size_le hhk.size_le,
    fun n hn => (hhk.offset_eq n (hlt n hn)).trans (hgh.offset_eq n hn),
    fun n hn => (hhk.state_eq n (hlt n hn)).trans (hgh.state_eq n hn),
    fun n hn h => hhk.opens n (hlt n hn) (hgh.opens n hn h)⟩

variable {source : Input} {g : Graph}

theorem LinkSound.later {next : Graph} {offset : Nat} {state : State} {l : Link}
    (h : g.LinkSound source offset state l) (hext : g.Extends next) :
    next.LinkSound source offset state l where
  below_lt := Nat.lt_of_lt_of_le h.below_lt hext.size_le
  fits := hext.offset_eq _ h.below_lt ▸ h.fits
  reads hend := by
    obtain ⟨hopen, hreads⟩ := h.reads hend
    exact ⟨hext.opens _ h.below_lt hopen, hext.state_eq _ h.below_lt ▸ hreads⟩

theorem sound_initial (source : Input) : initial.Sound source := by
  have hfilled : (Shelf.empty.set Vertex.bottom 0).Filled 1 := by
    intro n
    by_cases hn : n = 0 <;> simp [Shelf.set, Shelf.get?, hn]
  have hget : ∀ n, initial.get n = Vertex.bottom := by
    intro n
    by_cases hn : n = 0 <;> simp [get, initial, Shelf.set, Shelf.get?, hn]
  refine ⟨hfilled, fun n => ?_, fun n l hl => ?_⟩
  · rw [offset, hget]
    exact Nat.zero_le _
  · rw [hget] at hl
    cases hl

/-! ### Adding and changing vertices -/

theorem Sound.get_add (hg : g.Sound source) (v : Vertex) (n : Nat) :
    (g.add v).get n = if n = g.size then v else g.get n := by
  rw [get, add, hg.filled.get?_set (Nat.le_refl _)]
  split <;> rfl

theorem Sound.get_modify (hg : g.Sound source) {n : Nat} (hn : n < g.size) (f : Vertex → Vertex)
    (k : Nat) : (g.modify n f).get k = if k = n then f (g.get n) else g.get k := by
  rw [get, modify, hg.filled.get?_set (Nat.le_of_lt hn)]
  split <;> rfl

theorem Sound.extends_add (hg : g.Sound source) (v : Vertex) : g.Extends (g.add v) := by
  have hget : ∀ n, n < g.size → (g.add v).get n = g.get n := fun n hn => by
    rw [hg.get_add, if_neg (by omega)]
  exact ⟨Nat.le_succ _, fun n hn => by rw [offset, hget n hn, offset],
    fun n hn => by rw [state, hget n hn, state], fun n hn h => by rwa [Open, hget n hn]⟩

/-- A change of a vertex that keeps its place, its state and its openness. -/
structure Keeps (g : Graph) (n : Nat) (f : Vertex → Vertex) : Prop where
  offset_eq : (f (g.get n)).offset = g.offset n
  state_eq : (f (g.get n)).state = g.state n
  opens : g.Open n → ∀ l ∈ (f (g.get n)).links, ¬ IsEnd l.1

theorem Sound.extends_modify (hg : g.Sound source) {n : Nat} (hn : n < g.size)
    {f : Vertex → Vertex} (hf : g.Keeps n f) : g.Extends (g.modify n f) := by
  refine ⟨Nat.le_refl _, fun k _ => ?_, fun k _ => ?_, fun k _ h => ?_⟩
  · rw [offset, hg.get_modify hn]
    split
    · next hk => rw [hf.offset_eq, hk]
    · rfl
  · rw [state, hg.get_modify hn]
    split
    · next hk => rw [hf.state_eq, hk]
    · rfl
  · rw [Open, hg.get_modify hn]
    split
    · next hk => exact hf.opens (hk ▸ h)
    · exact h

/-- A new vertex whose links are sound. -/
theorem Sound.add (hg : g.Sound source) {v : Vertex} (hoffset : v.offset ≤ source.length)
    (hlinks : ∀ l ∈ v.links, g.LinkSound source v.offset v.state l) :
    (g.add v).Sound source := by
  have hext := hg.extends_add v
  refine ⟨?_, fun n => ?_, fun n l hl => ?_⟩
  · have hfilled := hg.filled.set (Nat.le_refl _) v
    rwa [Nat.max_eq_right (Nat.le_succ _)] at hfilled
  · rw [offset, hg.get_add]
    split
    · exact hoffset
    · exact hg.offset_le n
  · rw [hg.get_add] at hl
    rw [offset, state, hg.get_add]
    split at hl
    · next hn =>
      rw [if_pos hn]
      exact (hlinks l hl).later hext
    · next hn =>
      rw [if_neg hn]
      exact (hg.links n l hl).later hext

/-- A vertex that keeps its place and has sound links. -/
theorem Sound.modify (hg : g.Sound source) {n : Nat} (hn : n < g.size) {f : Vertex → Vertex}
    (hf : g.Keeps n f)
    (hlinks : ∀ l ∈ (f (g.get n)).links, g.LinkSound source (g.offset n) (g.state n) l) :
    (g.modify n f).Sound source := by
  have hext := hg.extends_modify hn hf
  have hplace : ∀ k, (g.modify n f).offset k = g.offset k ∧ (g.modify n f).state k = g.state k := by
    intro k
    rw [offset, state, hg.get_modify hn]
    split
    · next h => rw [hf.offset_eq, hf.state_eq, h]; exact ⟨rfl, rfl⟩
    · exact ⟨rfl, rfl⟩
  refine ⟨?_, fun k => (hplace k).1 ▸ hg.offset_le k, fun k l hl => ?_⟩
  · have hfilled := hg.filled.set (Nat.le_of_lt hn) (f (g.get n))
    rwa [Nat.max_eq_left hn] at hfilled
  · rw [hg.get_modify hn] at hl
    rw [(hplace k).1, (hplace k).2]
    split at hl
    · next h => exact h ▸ (hlinks l hl).later hext
    · exact (hg.links k l hl).later hext

/-! ### Merging -/

theorem samePlace_of_mergeable {g : Graph} {n k : Nat}
    (h : (g.get n).mergeable (g.get k) = true) :
    g.offset n = g.offset k ∧ g.state n = g.state k := by
  simp only [Vertex.mergeable, Bool.and_eq_true, beq_iff_eq] at h
  exact ⟨h.1.2, h.1.1⟩

/-- A link that stands in for another leads to a vertex at the same place. -/
theorem samePlace_of_standIn? {g : Graph} {tree old : Option Tree} {below m i : Nat}
    {links : List Link} (h : g.standIn? tree below links = some i) (hi : links[i]? = some (old, m)) :
    g.offset m = g.offset below ∧ g.state m = g.state below := by
  obtain ⟨hlt, hfound, -⟩ := List.findIdx?_eq_some_iff_getElem.1 h
  obtain ⟨_, hlink⟩ := List.getElem?_eq_some_iff.1 hi
  rw [hlink] at hfound
  simp only [Bool.and_eq_true, Bool.or_eq_true, beq_iff_eq] at hfound
  rcases hfound.2 with rfl | hmerge
  · exact ⟨rfl, rfl⟩
  · exact samePlace_of_mergeable hmerge

/-- Adding sound links one after the other, each by a step that keeps the stack sound. -/
theorem Sound.foldl (hg : g.Sound source) (step : Graph → Link → Graph) {offset : Nat}
    {state : State} {links : List Link}
    (hlinks : ∀ l ∈ links, g.LinkSound source offset state l ∧ ¬ IsEnd l.1)
    (hstep : ∀ (h : Graph) (l : Link), h.Sound source → g.Extends h →
      h.LinkSound source offset state l → ¬ IsEnd l.1 →
      (step h l).Sound source ∧ h.Extends (step h l)) :
    (links.foldl step g).Sound source ∧ g.Extends (links.foldl step g) := by
  suffices ∀ h : Graph, h.Sound source → g.Extends h →
      (links.foldl step h).Sound source ∧ g.Extends (links.foldl step h) from this g hg (.refl g)
  induction links with
  | nil => exact fun h hh hext => ⟨hh, hext⟩
  | cons l rest ih =>
    intro h hh hext
    obtain ⟨hlink, hend⟩ := hlinks l List.mem_cons_self
    obtain ⟨hnext, hlater⟩ := hstep h l hh hext (hlink.later hext) hend
    exact ih (fun k hk => hlinks k (List.mem_cons_of_mem _ hk)) _ hnext (hext.trans hlater)

/-- A change that leaves a vertex no other links than it had, but for one that is sound. -/
theorem Sound.modifyLink (hg : g.Sound source) {n : Nat} (hn : n < g.size) {l : Link}
    (hlink : g.LinkSound source (g.offset n) (g.state n) l) (hend : ¬ IsEnd l.1)
    {f : Vertex → Vertex} (hoffset : (f (g.get n)).offset = g.offset n)
    (hstate : (f (g.get n)).state = g.state n)
    (hlinks : ∀ k ∈ (f (g.get n)).links, k ∈ (g.get n).links ∨ k = l) :
    (g.modify n f).Sound source ∧ g.Extends (g.modify n f) := by
  have hkeeps : g.Keeps n f := by
    refine ⟨hoffset, hstate, fun hopen k hk => ?_⟩
    rcases hlinks k hk with hk | rfl
    · exact hopen k hk
    · exact hend
  refine ⟨hg.modify hn hkeeps fun k hk => ?_, hg.extends_modify hn hkeeps⟩
  rcases hlinks k hk with hk | rfl
  · exact hg.links n k hk
  · exact hlink

/-- Adding a sound link. -/
theorem Sound.addLink (hg : g.Sound source) {n : Nat} (hn : n < g.size) {l : Link}
    (hlink : g.LinkSound source (g.offset n) (g.state n) l) (hend : ¬ IsEnd l.1) (fuel : Nat) :
    (Graph.addLink fuel n g l).Sound source ∧ g.Extends (Graph.addLink fuel n g l) := by
  induction fuel generalizing g n l with
  | zero => exact ⟨hg, .refl g⟩
  | succ fuel ih =>
    -- In turn: the link leads back to its own vertex, another stands in for it (with the same vertex
    -- below or one that can be merged with it), there is no room for it, or it is added.
    obtain ⟨tree, below⟩ := l
    rw [Graph.addLink]
    simp only
    split
    · exact ⟨hg, .refl g⟩
    · split
      · next i hstand =>
        split
        · exact ⟨hg, .refl g⟩
        · next old m hi =>
          split
          · next hsame =>
            subst hsame
            split
            · exact hg.modifyLink hn hlink hend rfl rfl fun k hk => List.mem_or_eq_of_mem_set hk
            · exact ⟨hg, .refl g⟩
          · have hm := (hg.links n _ (List.mem_of_getElem? hi)).below_lt
            -- The two vertices below are at the same place, so the links of one fit the other.
            have hbelow : ∀ k ∈ (g.get below).links,
                g.LinkSound source (g.offset m) (g.state m) k ∧ ¬ IsEnd k.1 := by
              obtain ⟨hoffset, hstate⟩ := samePlace_of_standIn? hstand hi
              rw [hoffset, hstate]
              exact fun k hk => ⟨hg.links below k hk, (hlink.reads hend).1 k hk⟩
            obtain ⟨hmerged, hlater⟩ := hg.foldl (Graph.addLink fuel m) hbelow
              fun h k hh hext hk hkend => ih hh (Nat.lt_of_lt_of_le hm hext.size_le)
                (hext.offset_eq m hm ▸ hext.state_eq m hm ▸ hk) hkend
            have hn' := Nat.lt_of_lt_of_le hn hlater.size_le
            refine ⟨hmerged.modify hn' ⟨rfl, rfl, fun hopen => hopen⟩ (hmerged.links n),
              hlater.trans (hmerged.extends_modify hn' ⟨rfl, rfl, fun hopen => hopen⟩)⟩
      · split
        · exact ⟨hg, .refl g⟩
        · exact hg.modifyLink hn hlink hend rfl rfl fun k hk =>
            (List.mem_append.1 hk).imp_right List.mem_singleton.1

/-- Merging vertices at the same place, behind which the source goes on. -/
theorem Sound.merge (hg : g.Sound source) {n k : Nat} (hn : n < g.size)
    (hoffset : g.offset n = g.offset k) (hstate : g.state n = g.state k) (hopen : g.Open k) :
    (g.merge n k).Sound source ∧ g.Extends (g.merge n k) := by
  have hlinks : ∀ l ∈ (g.get k).links,
      g.LinkSound source (g.offset n) (g.state n) l ∧ ¬ IsEnd l.1 := fun l hl =>
    ⟨hoffset ▸ hstate ▸ hg.links k l hl, hopen l hl⟩
  refine hg.foldl _ hlinks fun h l hh hext hl hend => ?_
  exact hh.addLink (Nat.lt_of_lt_of_le hn hext.size_le)
    (hext.offset_eq n hn ▸ hext.state_eq n hn ▸ hl) hend _

/-! ### Ways down -/

/-- Whatever holds of a way down as long as it goes on holds of all of them. -/
theorem descend_induct {Q : Path → Prop} {ends : Path → Bool}
    (hstep : ∀ p, Q p → ends p = false → ∀ l ∈ (g.get p.bottom).links, Q (p.extend l)) {kept : Nat}
    {queue paths : List Path} (hqueue : ∀ p ∈ queue, Q p) (hpaths : ∀ p ∈ paths, Q p) :
    (∀ p ∈ (g.descend ends kept queue paths).1, Q p) ∧
      ∀ p ∈ (g.descend ends kept queue paths).2, Q p := by
  induction paths generalizing kept queue with
  | nil => exact ⟨by simp [descend], hqueue⟩
  | cons p rest ih =>
    have hp := hpaths p List.mem_cons_self
    have hrest := fun q hq => hpaths q (List.mem_cons_of_mem p hq)
    rw [descend]
    split
    · exact ih hqueue hrest
    · next first others hlinks =>
      split
      · exact ih hqueue hrest
      · next hends =>
        have hends := Bool.eq_false_iff.2 hends
        have hothers : ∀ q ∈ queue ++ (others.take (maxPaths - (kept + 1 + rest.length
            + queue.length))).map p.extend, Q q := by
          intro q hq
          rcases List.mem_append.1 hq with hq | hq
          · exact hqueue q hq
          · obtain ⟨l, hl, rfl⟩ := List.mem_map.1 hq
            exact hstep p hp hends l (hlinks ▸ List.mem_cons_of_mem _ (List.mem_of_mem_take hl))
        obtain ⟨hfirsts, hlast⟩ := ih hothers hrest
        refine ⟨fun q hq => ?_, hlast⟩
        rcases List.mem_cons.1 hq with rfl | hq
        · exact hstep p hp hends first (hlinks ▸ List.mem_cons_self)
        · exact hfirsts q hq

theorem follow_induct {Q : Path → Prop} {wanted ends : Path → Bool}
    (hstep : ∀ p, Q p → ends p = false → ∀ l ∈ (g.get p.bottom).links, Q (p.extend l)) {fuel : Nat}
    {paths : List Path} (hpaths : ∀ p ∈ paths, Q p) :
    ∀ p ∈ g.follow wanted ends fuel paths, Q p ∧ wanted p = true := by
  induction fuel generalizing paths with
  | zero => simp [follow]
  | succ fuel ih =>
    rw [follow]
    split
    · simp
    · intro p hp
      obtain ⟨hfirsts, hqueue⟩ : _ ∧ ∀ p ∈ (g.descend ends 0 [] paths).2, Q p :=
        descend_induct hstep (by simp) hpaths
      rcases List.mem_append.1 hp with hp | hp
      · obtain ⟨hmem, hwanted⟩ := List.mem_filter.1 hp
        exact ⟨hpaths p hmem, hwanted⟩
      · exact ih (fun q hq => (List.mem_append.1 hq).elim (hfirsts q) (hqueue q)) p hp

theorem paths_induct {Q : Path → Prop} {n : Nat} {wanted ends : Path → Bool} (hstart : Q ⟨n, [], 0⟩)
    (hstep : ∀ p, Q p → ends p = false → ∀ l ∈ (g.get p.bottom).links, Q (p.extend l)) :
    ∀ p ∈ g.paths n wanted ends, Q p ∧ wanted p = true :=
  follow_induct hstep fun _ hp => List.mem_singleton.1 hp ▸ hstart

/-- The trees of a group are those of a way down. -/
theorem mem_gather {paths : List Path} {group : Nat × List (List Tree)}
    (hgroup : group ∈ gather paths) {trees : List Tree} (htrees : trees ∈ group.2) :
    ∃ p ∈ paths, p.bottom = group.1 ∧ p.trees = trees := by
  -- The induction is on the paths, for any groups that have been collected from earlier ones.
  suffices ∀ groups : List (Nat × List (List Tree)),
      (∀ group ∈ groups, ∀ trees ∈ group.2, ∃ p ∈ paths, p.bottom = group.1 ∧ p.trees = trees) →
      ∀ later, later ⊆ paths →
      ∀ group ∈ later.foldl (fun groups p =>
          if groups.any fun g => g.1 == p.bottom then
            groups.map fun g => if g.1 == p.bottom then (g.1, g.2 ++ [p.trees]) else g
          else groups ++ [(p.bottom, [p.trees])]) groups,
        ∀ trees ∈ group.2, ∃ p ∈ paths, p.bottom = group.1 ∧ p.trees = trees from
    this [] (by simp) paths (List.Subset.refl _) group hgroup trees htrees
  intro groups hgroups later hlater
  induction later generalizing groups with
  | nil => exact hgroups
  | cons p rest ih =>
    have hp := hlater List.mem_cons_self
    refine ih _ (fun group hgroup trees htrees => ?_) (List.subset_of_cons_subset hlater)
    simp only at hgroup
    split at hgroup
    · obtain ⟨old, hold, rfl⟩ := List.mem_map.1 hgroup
      split at htrees
      · next hsame =>
        rw [if_pos hsame]
        rcases List.mem_append.1 htrees with htrees | htrees
        · exact hgroups old hold trees htrees
        · exact ⟨p, hp, (beq_iff_eq.1 hsame).symm, (List.mem_singleton.1 htrees).symm⟩
      · next hsame =>
        rw [if_neg hsame]
        exact hgroups old hold trees htrees
    · rcases List.mem_append.1 hgroup with hgroup | hgroup
      · exact hgroups group hgroup trees htrees
      · obtain rfl := List.mem_singleton.1 hgroup
        exact ⟨p, hp, rfl, (List.mem_singleton.1 htrees).symm⟩

/-- The trees on a way down from vertex `n` to vertex `bottom`: they fill the source in between, and
    lead from state to state if the source goes on behind `n`. -/
structure Above (source : Input) (g : Graph) (n bottom : Nat) (trees : List Tree) : Prop where
  bottom_lt : bottom < g.size
  fits : Tree.Fits (g.offset n) (g.offset bottom) trees
  stopAfter_eq : Tree.stopAfter (g.offset bottom) trees = g.offset n
  leads : g.Open n → g.Open bottom ∧ Leads source.bytes (g.state n) (g.state bottom) trees

theorem above_nil (source : Input) {n : Nat} (hn : n < g.size) : g.Above source n n [] :=
  ⟨hn, Nat.le_refl _, rfl, fun hopen => ⟨hopen, .nil⟩⟩

theorem Above.extend (hg : g.Sound source) {n bottom : Nat} {trees : List Tree}
    (h : g.Above source n bottom trees) {l : Link} (hl : l ∈ (g.get bottom).links) :
    g.Above source n l.2 (l.1.toList ++ trees) := by
  obtain ⟨hlt, hfits, hreads⟩ := hg.links _ l hl
  match l with
  | (none, below) =>
    have hsame : g.offset below = g.offset bottom := hfits
    refine ⟨hlt, hsame ▸ h.fits, hsame ▸ h.stopAfter_eq, fun hopen => ?_⟩
    obtain ⟨hbelow, hfault⟩ := hreads ((h.leads hopen).1 _ hl)
    exact ⟨hbelow, (show g.state bottom = faultState from hfault) ▸ (h.leads hopen).2 |>.mark _⟩
  | (some t, below) =>
    obtain ⟨hstart, hordered, hstop⟩ : _ ≤ t.start ∧ t.Ordered ∧ t.stop = _ := hfits
    rw [Option.toList_some, List.singleton_append]
    refine ⟨hlt, ?_, ?_, fun hopen => ?_⟩
    · rw [Tree.Fits, hstop]
      exact ⟨hstart, hordered, h.fits⟩
    · rw [Tree.stopAfter_cons, hstop]
      exact h.stopAfter_eq
    · obtain ⟨hbottom, hleads⟩ := h.leads hopen
      obtain ⟨hbelow, hmove⟩ := hreads (hbottom _ hl)
      exact ⟨hbelow, .cons (hbottom _ hl) hmove hleads⟩

/-- A vertex that is reached by following links down from vertex `n`, with the trees on the way. -/
inductive Reached (g : Graph) (n : Nat) : Nat → List Tree → Prop
  | here : Reached g n n []
  | down {bottom : Nat} {trees : List Tree} (way : Reached g n bottom trees) {l : Link}
      (mem : l ∈ (g.get bottom).links) : Reached g n l.2 (l.1.toList ++ trees)

theorem Reached.above (hg : g.Sound source) {n bottom : Nat} (hn : n < g.size) {trees : List Tree}
    (h : g.Reached n bottom trees) : g.Above source n bottom trees := by
  induction h with
  | here => exact above_nil source hn
  | down _ mem ih => exact ih.extend hg mem

/-- A way down begins with one of the links of the vertex on top. -/
theorem Reached.top {n bottom : Nat} {trees : List Tree} (h : g.Reached n bottom trees) :
    bottom = n ∧ trees = [] ∨ ∃ l ∈ (g.get n).links, ∃ front, trees = front ++ l.1.toList ∧
      g.Reached l.2 bottom front := by
  induction h with
  | here => exact .inl ⟨rfl, rfl⟩
  | @down bottom trees _ k mem ih =>
    rcases ih with ⟨rfl, rfl⟩ | ⟨l, hl, front, rfl, hfront⟩
    · exact .inr ⟨k, mem, [], by simp, .here⟩
    · exact .inr ⟨l, hl, k.1.toList ++ front, by simp, hfront.down mem⟩

theorem Path.extend_eq (p : Path) (l : Link) :
    (p.extend l).bottom = l.2 ∧ (p.extend l).trees = l.1.toList ++ p.trees := by
  obtain ⟨tree, below⟩ := l
  cases tree <;> exact ⟨rfl, rfl⟩

/-- Every way down that is found is one. -/
theorem reached_paths {n : Nat} {wanted ends : Path → Bool} :
    ∀ p ∈ g.paths n wanted ends, g.Reached n p.bottom p.trees := fun p hp =>
  (paths_induct (Q := fun p => g.Reached n p.bottom p.trees) .here (fun q hq _ l hl => by
    obtain ⟨hbottom, htrees⟩ := q.extend_eq l
    rw [hbottom, htrees]
    exact hq.down hl) p hp).1

/-- The trees that are taken off: if they are clean, they are so many, comments not counted, and the
    first of them is no comment. -/
structure Taken (source : Input) (g : Graph) (n count bottom : Nat) (trees : List Tree) : Prop
    extends Above source g n bottom trees where
  counted : g.state n ≠ faultState → Clean trees →
    (Tree.labels trees).length = count ∧ ∀ t, trees.head? = some t → t.extra = false

/-- Whatever is taken off fills the source. -/
theorem Sound.pop (hg : g.Sound source) {n : Nat} (hn : n < g.size) (hopen : g.Open n)
    (count : Nat) :
    ∀ group ∈ g.pop n count, ∀ trees ∈ group.2, g.Taken source n count group.1 trees := by
  intro group hgroup trees htrees
  obtain ⟨p, hp, hbottom, rfl⟩ := mem_gather hgroup htrees
  -- A way goes on only as long as too few trees were counted, so it does not end with a comment.
  let Q : Path → Prop := fun p => g.Above source n p.bottom p.trees ∧
    (g.state n ≠ faultState → Clean p.trees → (Tree.labels p.trees).length = p.count ∧
      ∀ t, p.trees.head? = some t → t.extra = true → p.count ≠ count)
  have hstep : ∀ p, Q p → (p.count == count) = false → ∀ l ∈ (g.get p.bottom).links,
      Q (p.extend l) := by
    rintro p ⟨habove, hcount⟩ hends ⟨tree, below⟩ hl
    refine ⟨?_, fun hstate hclean => ?_⟩
    · obtain ⟨hbottom, htrees⟩ := p.extend_eq (tree, below)
      rw [hbottom, htrees]
      exact habove.extend hg hl
    cases tree with
    | none =>
      obtain ⟨hbottom, hleads⟩ := habove.leads hopen
      have hfault : g.state p.bottom = faultState := ((hg.links _ _ hl).reads (hbottom _ hl)).2
      exact absurd hfault (hleads.clean hstate hclean).1
    | some t =>
      obtain ⟨hlength, -⟩ := hcount hstate fun u hu => hclean u (List.mem_cons_of_mem t hu)
      have hne : p.count ≠ count := by simpa using hends
      by_cases hextra : t.extra = true
      · simp only [Path.extend, hextra, if_true, Tree.labels_cons_of_extra]
        exact ⟨hlength, fun _ _ _ => hne⟩
      · have hextra := Bool.eq_false_iff.2 hextra
        simp only [Path.extend, hextra, Tree.labels_cons]
        refine ⟨by simp [hlength], fun u hu hu' => ?_⟩
        obtain rfl : t = u := by simpa using hu
        rw [hextra] at hu'
        cases hu'
  obtain ⟨⟨habove, hcount⟩, hwanted⟩ := paths_induct (Q := Q)
    ⟨above_nil source hn, fun _ _ => ⟨rfl, by simp⟩⟩ hstep p hp
  have hwanted : p.count = count := by simpa using hwanted
  rw [← hbottom]
  refine ⟨habove, fun hstate hclean => ?_⟩
  obtain ⟨hlength, hhead⟩ := hcount hstate hclean
  refine ⟨hlength.trans hwanted, fun t ht => ?_⟩
  by_contra hextra
  exact hhead t ht (Bool.not_eq_false _ ▸ hextra) hwanted

end Graph

end SyscallGuard
