import SyscallGuard.Parse.Reduce
import SyscallGuard.Proofs.Machine

set_option autoImplicit false

/-! # Reductions keep the order

A reduction takes trees off a head that fill the source up to where the head stands, and puts a
phrase over them back in their place, so the new heads stand where the old one did
(`Sound.reduce`). The phrase is a move of the automaton, and formed if it costs nothing. At the end of
the source the trees of a whole stack become one tree in order (`Sound.accept`). -/

namespace SyscallGuard.Machine

open Automaton (State Edge faultState)

variable {source : Input} {x : Nat} {P : Nat → Prop} {m : Machine}

/-! ## Phrases -/

theorem append_splitExtras (trees : List Tree) :
    (splitExtras trees).1 ++ (splitExtras trees).2 = trees := by
  rw [splitExtras, ← List.reverse_append, List.takeWhile_append_dropWhile, List.reverse_reverse]

theorem extra_of_mem_splitExtras {trees : List Tree} {t : Tree} (h : t ∈ (splitExtras trees).2) :
    t.extra = true := by
  rw [splitExtras, List.mem_reverse] at h
  exact List.all_eq_true.1 List.all_takeWhile t h

theorem not_extra_of_getLast? {trees : List Tree} {t : Tree}
    (h : (splitExtras trees).1.getLast? = some t) : t.extra = false := by
  rw [splitExtras, List.getLast?_reverse] at h
  have hdrop := List.head?_dropWhile_not Tree.extra trees.reverse
  rw [h] at hdrop
  simpa using hdrop

/-- The last tree that is no extra stands between those before it and the extras. -/
theorem eq_append_of_getLast? {trees : List Tree} {last : Tree}
    (h : (splitExtras trees).1.getLast? = some last) :
    trees = (splitExtras trees).1.dropLast ++ last :: (splitExtras trees).2 := by
  have hfront : (splitExtras trees).1.dropLast ++ [last] = (splitExtras trees).1 :=
    List.dropLast_append_getLast? last h
  rw [← List.singleton_append, ← List.append_assoc, hfront, append_splitExtras]

theorem splitExtras_concat (trees : List Tree) {t : Tree} (h : t.extra = true) :
    splitExtras (trees ++ [t]) = ((splitExtras trees).1, (splitExtras trees).2 ++ [t]) := by
  simp [splitExtras, h]

theorem labels_splitExtras (trees : List Tree) :
    Tree.labels (splitExtras trees).1 = Tree.labels trees := by
  have hnone : Tree.labels (splitExtras trees).2 = [] := by
    rw [Tree.labels, List.filter_eq_nil_iff.2, List.map_nil]
    intro t ht
    simp [extra_of_mem_splitExtras ht]
  rw [← append_splitExtras trees, Tree.labels_append, append_splitExtras, hnone, List.append_nil]

/-- The best phrase is the phrase over one of the lists. -/
theorem exists_of_bestPhrase {source : Input} {r : Reduction} {offset : Nat}
    {lists : List (List Tree)} {tree : Tree} {extras : List Tree}
    (h : bestPhrase source r offset lists = some (tree, extras)) :
    ∃ trees ∈ lists, tree = .branch source (.phrase r.phrase) r.roles (splitExtras trees).1 offset ∧
      extras = (splitExtras trees).2 := by
  let build (trees : List Tree) : Tree × List Tree :=
    (.branch source (.phrase r.phrase) r.roles (splitExtras trees).1 offset, (splitExtras trees).2)
  have hfold : ∀ (others : List (List Tree)) (best : Tree × List Tree),
      others.foldl (fun best trees =>
        if (build trees).1.replaces best.1 then build trees else best) best = best ∨
      ∃ trees ∈ others, others.foldl (fun best trees =>
        if (build trees).1.replaces best.1 then build trees else best) best = build trees := by
    intro others
    induction others with
    | nil => exact fun best => .inl rfl
    | cons first rest ih =>
      intro best
      rw [List.foldl_cons]
      rcases ih (if (build first).1.replaces best.1 then build first else best) with hsame | ⟨t, ht, heq⟩
      · rw [hsame]
        split
        · exact .inr ⟨first, List.mem_cons_self, rfl⟩
        · exact .inl rfl
      · exact .inr ⟨t, List.mem_cons_of_mem _ ht, heq⟩
  match lists with
  | [] => cases h
  | first :: others =>
    have hbest := Option.some.inj h
    rcases hfold others (build first) with hsame | ⟨t, ht, heq⟩
    · obtain ⟨rfl, rfl⟩ := Prod.mk.inj (hbest.symm.trans hsame)
      exact ⟨first, List.mem_cons_self, rfl, rfl⟩
    · obtain ⟨rfl, rfl⟩ := Prod.mk.inj (hbest.symm.trans heq)
      exact ⟨t, List.mem_cons_of_mem _ ht, rfl, rfl⟩

/-! ## Reducing -/

theorem ne_of_mergeTarget? {heads : List Head} {except k : Nat} {h : Head}
    (hk : m.mergeTarget? heads except h = some k) : k ≠ except := by
  rw [mergeTarget?] at hk
  have hne := List.find?_some hk
  simp only [Bool.and_eq_true, bne_iff_ne] at hne
  exact hne.1

/-- What a reduction does on one of the stacks it has reached: nothing, or it adds a head with a
    phrase over one of the lists of trees, which may at once be merged into another head. -/
theorem reduceOnto_cases (source : Input) (n mark : Nat) (r : Reduction) (m : Machine)
    (group : Nat × List (List Tree)) :
    reduceOnto source n mark r m group = m ∨ ∃ trees ∈ group.2, ∃ grown,
      grown = m.withHead group.1 mark
        ((Tree.branch source (.phrase r.phrase) r.roles (splitExtras trees).1
          (m.graph.offset group.1)).addWeight r.weight :: (splitExtras trees).2)
        (Automaton.goto (m.graph.get group.1).state r.phrase) ∧
      (reduceOnto source n mark r m group = grown ∨
        ∃ k ≠ n, grown.merge? k m.heads.length = some (reduceOnto source n mark r m group)) := by
  unfold reduceOnto
  simp only
  split
  · exact .inl rfl
  · split
    · exact .inl rfl
    · next tree extras hbest =>
      obtain ⟨trees, hmem, rfl, rfl⟩ := exists_of_bestPhrase hbest
      refine .inr ⟨trees, hmem, _, rfl, ?_⟩
      split
      · exact .inl rfl
      · split
        · next k htarget =>
          have hk := ne_of_mergeTarget? htarget
          cases hmerge : Machine.merge? _ k m.heads.length with
          | none => exact .inl rfl
          | some merged => exact .inr ⟨k, hk, hmerge⟩
        · exact .inl rfl

/-- Where a phrase can stand, it is a move of the automaton. -/
theorem edge_of_goto {s : State} {p : Phrase} (h : Automaton.goto s p ≠ faultState) :
    ((Automaton.row s).gotos.lookup p.code).isSome = true ∧
      Edge s (.phrase p) (Automaton.goto s p) := by
  unfold Automaton.goto at h ⊢
  cases hlookup : (Automaton.row s).gotos.lookup p.code with
  | none =>
    rw [hlookup] at h
    exact absurd rfl h
  | some target => exact ⟨rfl, hlookup⟩

/-- The phrase over trees that are taken off is formed if it costs nothing. -/
theorem formed_of_taken {g : Graph} {top bottom : Nat} {r : Reduction} {trees : List Tree}
    (htaken : g.Taken source top r.arity bottom trees) (hopen : g.Open top)
    (hr : ∃ t, .reduce r ∈ Automaton.actions (g.state top) t)
    (hgoto : ((Automaton.row (g.state bottom)).gotos.lookup r.phrase.code).isSome = true)
    (offset : Nat)
    (hcost : (Tree.branch source (.phrase r.phrase) r.roles (splitExtras trees).1 offset).cost = 0) :
    (Tree.branch source (.phrase r.phrase) r.roles (splitExtras trees).1 offset).Formed
      source.bytes := by
  obtain ⟨token, haction⟩ := hr
  have hstate := (Automaton.reducible_of_mem haction).ne_fault
  rw [Tree.cost_branch rfl] at hcost
  have hkids : ∀ k ∈ (splitExtras trees).1, k.label = .skipped ∨ k.cost = 0 :=
    fun k hk => Tree.cost_of_owed hcost hk
  have hclean : Clean trees := by
    intro t ht hextra
    rw [← append_splitExtras trees] at ht
    rcases List.mem_append.1 ht with ht | ht
    · exact hkids t ht
    · rw [extra_of_mem_splitExtras ht] at hextra
      cases hextra
  obtain ⟨-, hwalk, hformed⟩ := (htaken.leads hopen).2.clean hstate hclean
  obtain ⟨hlength, hhead⟩ := htaken.counted hstate hclean
  refine Tree.formed_branch ⟨?_, _, _, ?_, hgoto, token, haction⟩ (fun t ht => hhead t ?_)
    (fun t ht => not_extra_of_getLast? ht) fun k hk => hformed k ?_ (hkids k hk)
  · rw [labels_splitExtras]
    exact hlength
  · rw [labels_splitExtras]
    exact hwalk
  · rw [← append_splitExtras trees, List.head?_append, ht]
    rfl
  · rw [← append_splitExtras trees]
    exact List.mem_append_left _ hk

/-- A phrase and the comments behind it can be put where its parts were. -/
theorem stackable_of_taken {g : Graph} {top bottom : Nat} {r : Reduction} {trees : List Tree}
    (htaken : g.Taken source top r.arity bottom trees) (hopen : g.Open top)
    (hr : ∃ t, .reduce r ∈ Automaton.actions (g.state top) t) (offset : Nat) :
    Stackable source.bytes (Automaton.goto (g.state bottom) r.phrase) (g.state bottom)
      ((Tree.branch source (.phrase r.phrase) r.roles (splitExtras trees).1 offset).addWeight r.weight
        :: (splitExtras trees).2) := by
  have hmem := append_splitExtras trees
  have hkept := (htaken.leads hopen).2.kept
  have hbranch : (Tree.branch source (.phrase r.phrase) r.roles (splitExtras trees).1 offset).Kept
      source.bytes := Tree.kept_branch _ _ _ fun k hk =>
    (hkept k (hmem ▸ List.mem_append_left _ hk)).1
  refine ⟨by simp [IsEnd, Tree.branch, Tree.addWeight, Tree.label, Tree.info],
    ⟨hbranch.addWeight rfl r.weight, fun hgoto => ?_⟩, stackable_extras fun t ht =>
      ⟨(hkept t (hmem ▸ List.mem_append_right _ ht)).1, extra_of_mem_splitExtras ht⟩⟩
  obtain ⟨hsome, hedge⟩ := edge_of_goto hgoto
  exact ⟨hedge, fun hcost =>
    (formed_of_taken htaken hopen hr hsome offset hcost).addWeight r.weight⟩

/-- A reduction onto one of the stacks it has reached adds at most one head, which stands where the
    reduced head does. -/
theorem Sound.reduceOnto (hm : m.Sound source P x) (n mark : Nat) {r : Reduction} {top : Nat}
    (hopen : m.graph.Open top) (hr : ∃ t, .reduce r ∈ Automaton.actions (m.graph.state top) t)
    {group : Nat × List (List Tree)}
    (hgroup : ∀ trees ∈ group.2, m.graph.Taken source top r.arity group.1 trees)
    (hn : n < m.heads.length) (hnew : P m.heads.length → m.graph.offset top = x) :
    (Machine.reduceOnto source n mark r m group).Sound source P x ∧
      m.graph.Extends (Machine.reduceOnto source n mark r m group).graph ∧
      m.heads.length ≤ (Machine.reduceOnto source n mark r m group).heads.length ∧
      (Machine.reduceOnto source n mark r m group).heads[n]? = m.heads[n]? := by
  obtain hsame | ⟨trees, hmem, grown, hgrown, hcases⟩ := reduceOnto_cases source n mark r m group
  · rw [hsame]
    exact ⟨hm, .refl _, Nat.le_refl _, rfl⟩
  · have htaken := hgroup trees hmem
    have hfits := htaken.fits
    have hstop := htaken.stopAfter_eq
    -- The phrase takes the place of its children; comments behind them stay outside of it.
    rw [← append_splitExtras trees] at hfits hstop
    obtain ⟨hwrap, hend⟩ := hfits.wrap source (.phrase r.phrase) r.roles
    have htrees : Tree.Fits (m.graph.offset top) (m.graph.offset group.1)
        ((Tree.branch source (.phrase r.phrase) r.roles (splitExtras trees).1
          (m.graph.offset group.1)).addWeight r.weight :: (splitExtras trees).2) := by
      simpa [Tree.Fits] using hwrap
    obtain ⟨hsound, hext⟩ := hm.withHead htaken.bottom_lt (htaken.leads hopen).1 mark htrees
      (hm.graph.offset_le _) (stackable_of_taken htaken hopen hr _) fun hP => by
        rw [← hnew hP, ← hstop, ← hend, Tree.stopAfter_cons, Tree.stopAfter_cons]
        rfl
    have hlength : grown.heads.length = m.heads.length + 1 := by rw [hgrown, length_withHead]
    have hsame : grown.heads[n]? = m.heads[n]? := by rw [hgrown, getElem?_withHead m hn]
    rw [show m.graph.state group.1 = (m.graph.get group.1).state from rfl, ← hgrown] at hsound hext
    rcases hcases with heq | ⟨k, hk, hmerge⟩
    · rw [heq]
      exact ⟨hsound, hext, by omega, hsame⟩
    · obtain ⟨hmerged, hlater, -, hless⟩ := hsound.merge? hmerge fun i hi hlt => by omega
      exact ⟨hmerged, hext.trans hlater, by omega,
        (getElem?_merge? hmerge hk.symm hn).trans hsame⟩

/-- Head `n` can make a reduction on some token. -/
def Reduces (m : Machine) (n : Nat) (r : Reduction) : Prop :=
  ∃ s t, m.InState n s ∧ .reduce r ∈ Automaton.actions s t

/-- What a reduction does to a machine: it adds heads, the first of which is `new`, and leaves the
    head it reduces as it is. -/
structure Grows (m : Machine) (n : Nat) (next : Machine) (new : Option Nat) : Prop where
  extends_graph : m.graph.Extends next.graph
  length_le : m.heads.length ≤ next.heads.length
  getElem?_eq : next.heads[n]? = m.heads[n]?
  new_lt : ∀ k, new = some k → m.heads.length ≤ k ∧ k < next.heads.length

theorem Grows.refl (m : Machine) (n : Nat) : m.Grows n m none :=
  ⟨.refl _, Nat.le_refl _, rfl, nofun⟩

theorem Grows.trans {n : Nat} {next last : Machine} {old new : Option Nat} (h : m.Grows n next old)
    (hlast : next.Grows n last new) : m.Grows n last new where
  extends_graph := h.extends_graph.trans hlast.extends_graph
  length_le := Nat.le_trans h.length_le hlast.length_le
  getElem?_eq := hlast.getElem?_eq.trans h.getElem?_eq
  new_lt k hk := ⟨Nat.le_trans h.length_le (hlast.new_lt k hk).1, (hlast.new_lt k hk).2⟩

theorem InState.later (hm : m.Sound source P x) {n : Nat} {s : State} (hs : m.InState n s)
    {next : Machine} {new : Option Nat} (hnext : m.Grows n next new) : next.InState n s := by
  intro h hh
  rw [hnext.getElem?_eq] at hh
  rw [hnext.extends_graph.state_eq _ (hm.head hh).top_lt]
  exact hs h hh

/-- What a head can do it can still do later. -/
theorem Reduces.later (hm : m.Sound source P x) {n : Nat} {r : Reduction} (hr : m.Reduces n r)
    {next : Machine} {new : Option Nat} (hnext : m.Grows n next new) : next.Reduces n r := by
  obtain ⟨s, t, hs, ht⟩ := hr
  exact ⟨s, t, hs.later hm hnext, ht⟩

/-- A reduction only adds heads, and they stand where the reduced head does. -/
theorem Sound.reduce (hm : m.Sound source P x) {n : Nat} (hgoing : m.Going n) {r : Reduction}
    (hr : m.Reduces n r) (hnew : ∀ k, m.heads.length ≤ k → P k → P n) :
    (Machine.reduce source m n r).1.Sound source P x ∧
      m.Grows n (Machine.reduce source m n r).1 (Machine.reduce source m n r).2 := by
  unfold Machine.reduce
  split
  · exact ⟨hm, .refl m n⟩
  · next h hhead =>
    have htop := (hm.head hhead).top_lt
    have hopen := (hm.head hhead).top_open (hgoing h hhead)
    obtain ⟨s, t, hs, hr⟩ := hr
    obtain ⟨hn, -⟩ := List.getElem?_eq_some_iff.1 hhead
    -- The ways down were found in the graph as it was, which the later ones extend.
    have hfold : ∀ (groups : List (Nat × List (List Tree))) (now : Machine),
        (∀ group ∈ groups, ∀ trees ∈ group.2, m.graph.Taken source h.top r.arity group.1 trees) →
        now.Sound source P x → m.Grows n now none →
        (groups.foldl (Machine.reduceOnto source n h.mark r) now).Sound source P x ∧
          m.Grows n (groups.foldl (Machine.reduceOnto source n h.mark r) now) none := by
      intro groups
      induction groups with
      | nil => exact fun now _ hnow hgrows => ⟨hnow, hgrows⟩
      | cons group rest ih =>
        intro now hgroups hnow hgrows
        have hext := hgrows.extends_graph
        have hready : P now.heads.length → now.graph.offset h.top = x := by
          intro hP
          rw [hext.offset_eq _ htop]
          exact (hm.ready n (hnew _ hgrows.length_le hP) h hhead).offset_eq
        obtain ⟨hnext, hlater, hmore, hsame⟩ := hnow.reduceOnto n h.mark (hext.opens _ htop hopen)
          ⟨t, ((hext.state_eq _ htop).trans (hs h hhead)).symm ▸ hr⟩
          (fun trees ht => (hgroups group List.mem_cons_self trees ht).later htop hopen hext)
          (Nat.lt_of_lt_of_le hn hgrows.length_le) hready
        exact ih _ (fun g hg => hgroups g (List.mem_cons_of_mem _ hg)) hnext
          ⟨hext.trans hlater, Nat.le_trans hgrows.length_le hmore, hsame.trans hgrows.getElem?_eq,
            nofun⟩
    obtain ⟨hsound, hgrows⟩ := hfold (m.graph.pop h.top r.arity) m (hm.graph.pop htop hopen _) hm
      (.refl m n)
    refine ⟨hsound, { hgrows with new_lt := fun k hk => ?_ }⟩
    simp only at hk ⊢
    split at hk
    · next hlt =>
      obtain rfl := Option.some.inj hk
      exact ⟨Nat.le_refl _, hlt⟩
    · cases hk

/-! ## Accepting -/

/-- The finished tree over trees that follow each other is in order. -/
theorem root?_fits {trees : List Tree} {start stop : Nat} {t : Tree}
    (h : Tree.Fits stop start trees) (ht : root? source trees = some t) :
    t.Ordered ∧ t.stop ≤ stop := by
  unfold root? at ht
  simp only at ht
  split at ht
  · cases ht
  · next last hlast =>
    obtain rfl := Option.some.inj ht
    -- The last tree that is no comment is replaced by its children.
    have htrees := eq_append_of_getLast? hlast
    rw [htrees] at h
    obtain ⟨hbefore, hrest⟩ := h.split
    rw [Tree.Fits] at hrest
    obtain ⟨hstart, hordered, hextras⟩ := hrest
    have hkids : Tree.Fits last.stop (Tree.stopAfter start (splitExtras trees).1.dropLast) last.kids :=
      hordered.kids.mono hstart (Nat.le_refl _)
    have hall : Tree.Fits stop 0 ((splitExtras trees).1.dropLast ++ last.kids
        ++ (splitExtras trees).2) :=
      ((hbefore.append hkids).append hextras).mono (Nat.zero_le _) (Nat.le_refl _)
    obtain ⟨hroot, -, hend⟩ := Tree.branch_fits hall
    exact ⟨hroot, hend ▸ hall.tight.2⟩

/-- The finished tree over trees behind which the source is complete, and the end of the source. -/
theorem root?_whole {trees : List Tree} {below : State} {eof t : Tree}
    (h : Leads source.bytes Automaton.acceptState below trees) (heof : eof.extra = true)
    (hformed : eof.Formed source.bytes) (ht : root? source (trees ++ [eof]) = some t)
    (hcost : t.cost = 0) : t.Whole source.bytes := by
  unfold root? at ht
  rw [splitExtras_concat _ heof] at ht
  simp only at ht
  split at ht
  · cases ht
  · next last hlast =>
    obtain rfl := Option.some.inj ht
    have htrees := eq_append_of_getLast? hlast
    have hextras : ∀ e ∈ (splitExtras trees).2, e.extra = true :=
      fun e he => extra_of_mem_splitExtras he
    have hnotExtra := not_extra_of_getLast? hlast
    generalize (splitExtras trees).1.dropLast = front at hcost htrees
    generalize (splitExtras trees).2 = extras at hcost htrees hextras
    have haccept : Automaton.acceptState ≠ faultState := by decide
    -- Only a whole source leads to where the source is complete.
    obtain ⟨s, hedge⟩ := h.last haccept htrees hnotExtra hextras
    have hlabel : last.label = .phrase .sourceFile := hedge.checked.closing (.inl rfl)
    rw [Tree.cost_branch (by rw [hlabel]; rfl), Tree.owed_append, Tree.owed_append,
      Nat.add_eq_zero_iff, Nat.add_eq_zero_iff] at hcost
    obtain ⟨⟨hbefore, hkids⟩, hafter⟩ := hcost
    have hmem : last ∈ trees := by simp [htrees]
    have hzero : last.cost = 0 := ((h.kept last hmem).1.self.cost_eq _ hlabel).trans hkids
    have hclean : Clean trees := by
      intro u hu hextra
      rw [htrees, List.mem_append, List.mem_cons] at hu
      rcases hu with hu | rfl | hu
      · exact Tree.cost_of_owed hbefore hu
      · exact .inr hzero
      · rw [hextras u hu] at hextra
        cases hextra
    obtain ⟨-, -, hall⟩ := h.clean haccept hclean
    refine ⟨hlabel, fun k hk => ?_⟩
    have hk : k ∈ front ++ last.kids ++ (extras ++ [eof]) := hk
    simp only [List.mem_append, List.mem_singleton] at hk
    rcases hk with (hk | hk) | hk | rfl
    · exact hall k (by simp [htrees, hk]) (Tree.cost_of_owed hbefore hk)
    · exact (hall last hmem (.inr hzero)).kids k hk
    · exact hall k (by simp [htrees, hk]) (Tree.cost_of_owed hafter (by simp [hk]))
    · exact hformed

/-- The finished tree over a fault that is made of the rest of the source costs something. -/
theorem root?_rest {trees : List Tree} {rest eof t : Tree} (hrest : rest.extra = false)
    (hlabel : rest.label = .fault) (heof : eof.extra = true)
    (ht : root? source (trees ++ [rest] ++ [eof]) = some t) : 0 < t.cost := by
  have hsplit : (splitExtras (trees ++ [rest])).1.getLast? = some rest := by
    simp [splitExtras, hrest]
  unfold root? at ht
  rw [splitExtras_concat _ heof] at ht
  simp only [hsplit] at ht
  obtain rfl := Option.some.inj ht
  exact Tree.cost_branch_pos (by rw [hlabel]; rfl)

theorem Sound.finish (hm : m.Sound source P x) {t : Tree}
    (ht : t.Ordered ∧ t.stop ≤ source.length ∧ (t.cost = 0 → t.Whole source.bytes)) :
    (m.finish t).Sound source P x := by
  refine { hm with finished := fun u hu => ?_, ready := fun k hP => hm.ready k hP }
  obtain rfl := Option.some.inj hu
  split
  · exact ht
  · next old hold =>
    split
    · exact ht
    · exact hm.finished old hold

theorem finish_modify (m : Machine) (trees : List Tree) (n : Nat) (f : Head → Head) :
    (trees.foldl finish m).modify n f = trees.foldl finish (m.modify n f) := by
  induction trees generalizing m with
  | nil => rfl
  | cons t rest ih => exact ih (m.finish t)

/-- It is the same whether a head gives up before or after something is pushed on it. -/
theorem pushOn_halt (m : Machine) (n : Nat) (tree : Option Tree) (state : State) :
    (m.pushOn n tree state).modify n Head.halt = (m.modify n Head.halt).pushOn n tree state := by
  cases hhead : m.heads[n]? with
  | none =>
    have hnone : (m.modify n Head.halt).heads[n]? = none := by
      simpa [Machine.modify] using hhead
    rw [pushOn_of_none hhead, pushOn_of_none hnone]
  | some h =>
    have hsome : (m.modify n Head.halt).heads[n]? = some h.halt := by
      rw [Machine.modify, List.getElem?_modify_eq, hhead]
      rfl
    simp only [Machine.pushOn, hhead, hsome]
    rw [Machine.modify]
    congr 1
    refine List.ext_getElem? fun i => ?_
    by_cases hi : n = i <;> simp [Machine.modify, List.getElem?_set, hi, Head.halt, topOf]

/-- Ending a head that has given up already. -/
theorem accept_eq (source : Input) {n : Nat} {h : Head} (hhead : m.heads[n]? = some h) (eof : Tree) :
    Machine.accept source m n eof =
      let closed := (m.modify n Head.halt).pushOn n (some eof) Automaton.startState
      ((closed.graph.popAll m.graph.size).filterMap fun p => root? source p.trees).foldl finish
        closed := by
  obtain ⟨hlt, -⟩ := List.getElem?_eq_some_iff.1 hhead
  have hgraph : ((m.modify n Head.halt).pushOn n (some eof) Automaton.startState).graph =
      (m.pushOn n (some eof) Automaton.startState).graph := by
    rw [← pushOn_halt]
    rfl
  have htop : ∃ k, (m.pushOn n (some eof) Automaton.startState).heads[n]? = some k ∧
      k.top = m.graph.size := by
    simp [Machine.pushOn, hlt]
  obtain ⟨k, hk, hsize⟩ := htop
  simp only [hgraph]
  rw [Machine.accept]
  simp only [hk]
  rw [finish_modify, pushOn_halt, hsize]

/-- Where a head may end: the source is complete there, or the rest of it is a fault. -/
def Complete (g : Graph) (n : Nat) : Prop :=
  g.Open n ∧ g.state n = Automaton.acceptState ∨
    ∃ rest below, (g.get n).links = [(some rest, below)] ∧ rest.label = .fault ∧ rest.extra = false

/-- What is made of the trees below the end of the source is the tree of all of it. -/
theorem root?_of_reached {g : Graph} (hg : g.Sound source) {n top bottom : Nat} (hn : n < g.size)
    {eof : Tree} (hlinks : (g.get n).links = [(some eof, top)]) (hcomplete : Complete g top)
    (hlook : eof.Lookahead source.bytes) (heof : eof.label = .token .eof) {trees : List Tree}
    (hreached : g.Reached n bottom trees) {t : Tree} (hroot : root? source trees = some t) :
    t.Ordered ∧ t.stop ≤ source.length ∧ (t.cost = 0 → t.Whole source.bytes) := by
  have hextra : eof.extra = true := hlook.extra.2 heof
  obtain ⟨hordered, hstop⟩ := root?_fits (hreached.above hg hn).fits hroot
  refine ⟨hordered, Nat.le_trans hstop (hg.offset_le _), fun hcost => ?_⟩
  rcases hreached.top with ⟨-, rfl⟩ | ⟨l, hl, front, rfl, hfront⟩
  · cases hroot
  · have htop := (hg.links _ _ hl).below_lt
    rw [hlinks] at hl
    obtain rfl := List.mem_singleton.1 hl
    -- Below the end of the source the source is complete, or all that is left of it is a fault.
    rcases hcomplete with ⟨hopen, hstate⟩ | ⟨rest, below, hlinks, hfault, hrest⟩
    · have hleads := ((hfront.above hg htop).leads hopen).2
      rw [hstate] at hleads
      exact root?_whole hleads hextra (hlook.formed heof) hroot hcost
    · rcases hfront.top with ⟨-, rfl⟩ | ⟨l, hl, earlier, rfl, -⟩
      · simp [root?, splitExtras, hextra] at hroot
      · rw [hlinks] at hl
        obtain rfl := List.mem_singleton.1 hl
        exact absurd hcost (root?_rest hrest hfault hextra hroot).ne'

/-- Ending a head at the end of the source. -/
theorem Sound.accept {n : Nat} {h : Head} (hhead : m.heads[n]? = some h)
    (hm : (m.modify n Head.halt).Sound source P x) (hP : ∀ k, P k → k ≠ n)
    (hcomplete : Complete m.graph h.top) {eof : Tree}
    (hfollows : eof.Follows source (m.graph.offset h.top)) (hlook : eof.Lookahead source.bytes)
    (heof : eof.label = .token .eof) : (Machine.accept source m n eof).Sound source P x := by
  have hhalted : (m.modify n Head.halt).heads[n]? = some h.halt := by
    rw [Machine.modify, List.getElem?_modify_eq, hhead]
    rfl
  have hend : IsEnd (some eof) := .inl heof
  obtain ⟨hclosed, -, hold, k, hk, -, hsize, hget⟩ := hm.pushHead hP hhalted Automaton.startState
    (fun t ht => Option.some.inj ht ▸ hfollows) (fun _ => rfl) fun hgoing => absurd hend hgoing
  have htop := (hclosed.head hk).top_lt
  have hbelow : h.top < m.graph.size := (hm.head hhalted).top_lt
  have hcomplete : Complete ((m.modify n Head.halt).pushOn n (some eof) Automaton.startState).graph
      h.top := by
    rwa [Complete, Graph.Open, Graph.state, hold _ hbelow]
  rw [accept_eq source hhead]
  simp only
  generalize (m.modify n Head.halt).pushOn n (some eof) Automaton.startState = closed at *
  have htrees : ∀ t ∈ (closed.graph.popAll m.graph.size).filterMap fun p => root? source p.trees,
      t.Ordered ∧ t.stop ≤ source.length ∧ (t.cost = 0 → t.Whole source.bytes) := by
    intro t ht
    obtain ⟨p, hp, hroot⟩ := List.mem_filterMap.1 ht
    have hreached := Graph.reached_paths p hp
    rw [show m.graph.size = k.top from hsize.symm] at hreached
    exact root?_of_reached hclosed.graph htop (hget ▸ rfl) hcomplete hlook heof hreached hroot
  generalize (closed.graph.popAll m.graph.size).filterMap (fun p => root? source p.trees) = trees
    at htrees
  clear hget hk hcomplete hold htop
  induction trees generalizing closed with
  | nil => exact hclosed
  | cons t rest ih =>
    exact ih _ (hclosed.finish (htrees t List.mem_cons_self))
      fun u hu => htrees u (List.mem_cons_of_mem _ hu)

/-! ## Comparing heads -/

/-- Comparing heads only changes marks. -/
theorem Sound.outdone (hm : m.Sound source P x) (n : Nat) (mine : Standing) (offset count k : Nat) :
    (Machine.outdone n mine offset count k m).1.Sound source P x ∧
      (Machine.outdone n mine offset count k m).1.heads.length = m.heads.length := by
  induction count generalizing k m with
  | zero => exact ⟨hm, rfl⟩
  | succ count ih =>
    rw [Machine.outdone]
    split
    · split
      · exact ih hm _
      · have hsettled := hm.settle k
        have hlength : (m.modify k fun h => h.settle m.graph).heads.length = m.heads.length := by
          simp [Machine.modify]
        have hboth : ∀ beaten : Bool,
            (if beaten then (m.modify k fun h => h.settle m.graph, true) else
              Machine.outdone n mine offset count (k + 1)
                (m.modify k fun h => h.settle m.graph)).1.Sound source P x ∧
            (if beaten then (m.modify k fun h => h.settle m.graph, true) else
              Machine.outdone n mine offset count (k + 1)
                (m.modify k fun h => h.settle m.graph)).1.heads.length = m.heads.length := by
          intro beaten
          cases beaten with
          | true => exact ⟨hsettled, hlength⟩
          | false =>
            obtain ⟨hrest, hsame⟩ := ih hsettled (k + 1)
            exact ⟨hrest, hsame.trans hlength⟩
        exact hboth _
    · exact ⟨hm, rfl⟩

theorem Sound.isHopeless (hm : m.Sound source P x) (n cost : Nat) :
    (m.isHopeless n cost).1.Sound source P x ∧
      (m.isHopeless n cost).1.heads.length = m.heads.length := by
  unfold Machine.isHopeless
  split
  · exact ⟨hm, rfl⟩
  · split
    · exact ⟨hm, rfl⟩
    · have hlength : (m.modify n fun h => h.settle m.graph).heads.length = m.heads.length := by
        simp [Machine.modify]
      obtain ⟨hrest, hsame⟩ := (hm.settle n).outdone n _ _ _ _
      exact ⟨hrest, hsame.trans hlength⟩

end SyscallGuard.Machine
