import SyscallGuard.Parse.Recovery
import SyscallGuard.Proofs.Reduce

set_option autoImplicit false

/-! # Recovery keeps the order

While a parser recovers from a fault it assumes tokens, leaves out input and returns to earlier
states. All of this keeps the stack in order as well: an assumed token takes no room, left out input
becomes a tree over what was taken off, and a fault that is joined to an earlier one continues where
that one ended. None of these trees is without cost, so nothing has to be known of what they are made
of. -/

namespace SyscallGuard.Machine

open Automaton (State Edge faultState)

variable {source : Input} {x : Nat} {P : Nat → Prop} {m : Machine}

/-! ## Reducing regardless of the token -/

theorem length_le_moveTo (m : Machine) (a b : Nat) :
    m.heads.length ≤ (m.moveTo a b).heads.length + 1 := by
  unfold Machine.moveTo
  split
  · simp only [List.length_set, List.length_eraseIdx]
    split <;> omega
  · omega

theorem length_le_remove (m : Machine) (n : Nat) :
    m.heads.length ≤ (m.remove n).heads.length + 1 := by
  simp only [Machine.remove, List.length_eraseIdx]
  split <;> omega

/-- What is to be reduced can be reduced on some token. -/
theorem exists_of_mem_outlook {s : State} {tokens : List Token} {r : Reduction}
    (h : r ∈ (outlook s tokens).2) : ∃ t, .reduce r ∈ Automaton.actions s t := by
  refine List.foldlRecOn (motive := fun acc : Bool × List Reduction =>
    ∀ r ∈ acc.2, ∃ t, .reduce r ∈ Automaton.actions s t) tokens _ (by simp) ?_ r h
  intro acc hacc t _
  refine List.foldlRecOn (motive := fun acc : Bool × List Reduction =>
    ∀ r ∈ acc.2, ∃ t, .reduce r ∈ Automaton.actions s t) _ _ hacc ?_
  rintro ⟨takes, reductions⟩ hacc action haction
  cases action with
  | reduce q =>
    simp only
    split
    · exact hacc
    · intro r hr
      rcases List.mem_append.1 hr with hr | hr
      · exact hacc r hr
      · exact ⟨t, List.mem_singleton.1 hr ▸ haction⟩
  | shift | shiftExtra | accept | recover => exact hacc

theorem inState_of_head {n : Nat} {h : Head} (hhead : m.heads[n]? = some h) :
    m.InState n (m.graph.state h.top) := fun g hg => by
  rw [Option.some.inj (hhead.symm.trans hg)]

/-- A head that is followed has not given up. -/
theorem Sound.going (hm : m.Sound source P x) {n : Nat} (hn : P n) : m.Going n := fun h hh =>
  Head.isHalted_of_isActive (hm.ready n hn h hh).going

/-- Several reductions of one head. -/
theorem Sound.reduceEach (hm : m.Sound source P x) {n : Nat} (hgoing : m.Going n)
    (hnew : ∀ k, m.heads.length ≤ k → P k → P n) {reductions : List Reduction}
    (hr : ∀ r ∈ reductions, m.Reduces n r) {last : Machine} {new : Option Nat}
    (h : reductions.foldl (fun (m, _) r => Machine.reduce source m n r) (m, none) = (last, new)) :
    last.Sound source P x ∧ m.Grows n last new := by
  suffices ∀ (now : Machine) (found : Option Nat), now.Sound source P x → m.Grows n now found →
      reductions.foldl (fun (m, _) r => Machine.reduce source m n r) (now, found) = (last, new) →
      last.Sound source P x ∧ m.Grows n last new from this m none hm (.refl m n) h
  clear h
  induction reductions with
  | nil =>
    rintro now found hnow hgrows ⟨⟩
    exact ⟨hnow, hgrows⟩
  | cons r rest ih =>
    intro now found hnow hgrows h
    obtain ⟨hsound, hmore⟩ := hnow.reduce
      (fun g hg => hgoing g (hgrows.getElem?_eq ▸ hg))
      ((hr r List.mem_cons_self).later hm hgrows)
      fun k hk => hnew k (Nat.le_trans hgrows.length_le hk)
    exact ih (fun q hq => hr q (List.mem_cons_of_mem r hq)) _ _ hsound (hgrows.trans hmore) h

/-- All reductions from head `start` on. They touch that head and those from `base` on, which are all
    followed. Heads are removed only if there is a token, and no more than those from `start` on. -/
theorem Sound.reduceAll {start base floor : Nat} {token : Option Token}
    (hfloor : floor = start ∧ base = start + 1 ∨ floor = base ∧ token = none)
    (hP : ∀ k, k = start ∨ base ≤ k → P k)
    (fuel turn n : Nat) (can : Bool) (hm : m.Sound source P x) (hn : n = start ∨ base ≤ n)
    (hlength : floor ≤ m.heads.length) :
    (Machine.reduceAll source start base token fuel turn n can m).1.Sound source P x ∧
      floor ≤ (Machine.reduceAll source start base token fuel turn n can m).1.heads.length := by
  have hbeyond : ∀ k, floor ≤ k → k = start ∨ base ≤ k := by omega
  induction fuel generalizing turn n can m with
  | zero => exact ⟨hm, hlength⟩
  | succ fuel ih =>
    unfold Machine.reduceAll
    split
    · exact ⟨hm, hlength⟩
    · next h hhead =>
      obtain ⟨hlt, -⟩ := List.getElem?_eq_some_iff.1 hhead
      simp only
      split
      -- The head is merged into an earlier one.
      · next merged hmerged =>
        obtain ⟨j, hj, hmerge⟩ := List.exists_of_findSome?_eq_some hmerged
        split at hmerge
        · cases hmerge
        · next hbelow =>
          have hjn := List.mem_range.1 hj
          obtain ⟨hsound, -, -, hless⟩ :=
            hm.merge? hmerge fun i hi _ _ => hP (i + 1) (.inr (by omega))
          exact ih _ _ _ hsound hn (by omega)
      · generalize hfold :
          List.foldl (fun (m, _) r => Machine.reduce source m n r) (m, none) _ = result
        obtain ⟨last, new⟩ := result
        obtain ⟨hsound, hgrows⟩ := hm.reduceEach (hm.going (hP n hn)) (fun _ _ _ => hP n hn)
          (fun r hr => ⟨_, (exists_of_mem_outlook hr).imp fun _ ht => ⟨inState_of_head hhead, ht⟩⟩)
          hfold
        have hmore := hgrows.length_le
        have hlast := Nat.le_trans hlength hmore
        have honward : (if n = start then m.heads.length else n + 1) = start ∨
            base ≤ (if n = start then m.heads.length else n + 1) := by
          split
          · exact hbeyond _ hlength
          · omega
        -- A head that cannot take the token is dropped; then nothing below `start` can be.
        have hremoved : token.isSome = true → (last.remove n).Sound source P x ∧
            floor ≤ (last.remove n).heads.length := by
          intro htoken
          obtain ⟨hstart, hbase⟩ : floor = start ∧ base = start + 1 :=
            hfloor.resolve_right fun h => by simp [h.2] at htoken
          have hless := length_le_remove last n
          exact ⟨hsound.remove fun i hi _ _ => hP (i + 1) (by omega), by omega⟩
        simp only
        split
        · exact ih _ _ _ hsound honward hlast
        · next k _ =>
          obtain ⟨hk, hklt⟩ := hgrows.new_lt k rfl
          split
          · have hmoved := length_le_moveTo last k n
            refine ih _ _ _ (hsound.moveTo (fun _ => hP k (hbeyond k (by omega)))
              fun i hi _ _ => hP (i + 1) (hbeyond (i + 1) (by omega))) hn (by omega)
          · split
            · next htoken => exact ih _ _ _ (hremoved htoken).1 honward (hremoved htoken).2
            · exact ih _ _ _ hsound honward hlast
        · split
          · next htoken => exact ih _ _ _ (hremoved htoken).1 honward (hremoved htoken).2
          · exact ih _ _ _ hsound honward hlast

/-- All reductions from the last head on leave those in front of it alone. -/
theorem Sound.reduceFrom_last (hm : m.Sound source P x) (token : Option Token)
    {last : Nat} (hlast : m.heads.length = last + 1) (hready : m.ReadyAt last x) :
    (Machine.reduceFrom source m last token).1.Sound source P x ∧
      last ≤ (Machine.reduceFrom source m last token).1.heads.length := by
  -- The new heads stand where the last one does, so they can all be followed.
  have hall : m.Sound source (fun k => P k ∨ last ≤ k) x := by
    refine hm.follow fun k hk h hh => ?_
    rcases hk with hk | hk
    · exact hm.ready k hk h hh
    · obtain ⟨hlt, -⟩ := List.getElem?_eq_some_iff.1 hh
      obtain rfl : k = last := by omega
      exact hready h hh
  obtain ⟨hsound, hmore⟩ := Sound.reduceAll (.inl ⟨rfl, hlast⟩) (fun k hk => .inr (by omega))
    roundLimit 0 last false hall (.inl rfl) (by omega)
  exact ⟨hsound.weaken fun k hk => .inl hk, hmore⟩

/-- All reductions from head `n` on, whatever the token, give heads that stand where it does. -/
theorem Sound.reduceFrom_any {n : Nat} (hm : m.Sound source (· = n) x) :
    (Machine.reduceFrom source m n none).1.Sound source (fun k => k = n ∨ m.heads.length ≤ k) x ∧
      m.heads.length ≤ (Machine.reduceFrom source m n none).1.heads.length := by
  have hall : m.Sound source (fun k => k = n ∨ m.heads.length ≤ k) x := by
    refine hm.follow fun k hk => ?_
    rcases hk with hk | hk
    · exact hm.ready k hk
    · intro h hh
      obtain ⟨hlt, -⟩ := List.getElem?_eq_some_iff.1 hh
      omega
  exact Sound.reduceAll (.inr ⟨rfl, rfl⟩) (fun k hk => hk) _ _ _ _ hall (.inl rfl) (Nat.le_refl _)

/-! ## Missing tokens -/

/-- A token assumed where the stack ends. -/
theorem follows_assumed (t : Token) {offset : Nat} (h : offset ≤ source.length) :
    (Tree.assumed t offset).Follows source offset :=
  ⟨Nat.le_refl _, ⟨Nat.le_refl _, Nat.le_refl _⟩, h⟩

/-- A token that leads to another state is a move of the automaton. -/
theorem edge_of_next? {s target : State} {t : Token} (h : Automaton.next? s t = some target)
    (hne : target ≠ s) : Edge s (.token t) target := by
  unfold Automaton.next? at h
  split at h
  · exact absurd (Option.some.inj h).symm hne
  · split at h
    · cases h
    · exact h

/-- An assumed token is a move that costs something. -/
theorem linkReads_assumed (source : Bytes) {s target : State} {t : Token}
    (h : Edge s (.token t) target) (offset : Nat) :
    ¬ IsEnd (some (Tree.assumed t offset)) ∧
      LinkReads source s target (some (Tree.assumed t offset)) := by
  refine ⟨?_, .mk (.of_not_extra rfl nofun) (fun k hk => nomatch hk), fun _ => ⟨h, fun hcost => ?_⟩⟩
  · rintro (hend | ⟨hend, -⟩)
    · exact h.checked.ne_eof hend
    · cases hend
  · exact absurd hcost (show Cost.missing + Cost.recovery ≠ 0 by decide)

/-- Assuming a token in front of head `n` adds heads behind those that are followed. -/
theorem Sound.assumeToken (hm : m.Sound source P x) {n bound : Nat} (hn : P n)
    (hP : ∀ k, P k → k < bound) (hbound : bound ≤ m.heads.length) (lookahead : Token)
    (tokens : List Token) :
    (Machine.assumeToken source m n lookahead x tokens).1.Sound source P x ∧
      bound ≤ (Machine.assumeToken source m n lookahead x tokens).1.heads.length := by
  induction tokens generalizing m with
  | nil => exact ⟨hm, hbound⟩
  | cons t rest ih =>
    unfold Machine.assumeToken
    split
    · exact ⟨hm, hbound⟩
    · next h hhead =>
      have hs := hm.head hhead
      have hr := hm.ready n hn h hhead
      have hx : x ≤ source.length := hr.offset_eq ▸ hm.graph.offset_le _
      simp only
      split
      · exact ih hm hbound
      · next target htarget =>
        split
        · exact ih hm hbound
        · next hmove =>
          simp only [Bool.or_eq_true, decide_eq_true_eq, not_or] at hmove
          obtain ⟨hend, hreads⟩ := linkReads_assumed source.bytes
            (edge_of_next? htarget hmove.1) x
          have hgrown := hm.append (h := { h with stops := none }) (hs.congr rfl rfl)
            fun hlast => absurd (hP _ hlast) (by omega)
          have hnewest : ({ m with heads := m.heads ++ [{ h with stops := none }] } :
              Machine).heads[m.heads.length]? = some { h with stops := none } :=
            List.getElem?_concat_length
          have hlast : ({ m with heads := m.heads ++ [{ h with stops := none }] } :
              Machine).ReadyAt m.heads.length x := by
            intro k hk
            obtain rfl := Option.some.inj (hnewest.symm.trans hk)
            exact hr.congr rfl rfl
          have hne : ∀ k, P k → k ≠ m.heads.length := fun k hk => by
            have := hP k hk
            omega
          obtain ⟨htried, hready, -, -⟩ := hgrown.pushOn hne hlast (inState_of_head hnewest)
            (fun u hu => Option.some.inj hu ▸ follows_assumed t hx) hend hreads
          have hlength : (({ m with heads := m.heads ++ [{ h with stops := none }] } :
              Machine).pushOn m.heads.length (some (Tree.assumed t x)) target).heads.length =
              m.heads.length + 1 := by
            rw [length_pushOn, List.length_append, List.length_singleton]
          generalize (if lookahead = Token.eof then none else some lookahead) = goal
          obtain ⟨hsound, hless⟩ := htried.reduceFrom_last goal hlength hready
          split
          · exact ⟨hsound, Nat.le_trans hbound hless⟩
          · exact ih hsound (Nat.le_trans hbound hless)

/-! ## Leaving out -/

/-- What is known of a fault directly below a vertex of the grammar: it and its children lie between
    the vertices it joins, which are in the same state. -/
structure Rejoins (source : Input) (g : Graph) (n below : Nat) (earlier : List Tree) : Prop where
  below_lt : below < g.size
  below_open : g.Open below
  state_eq : g.state below = g.state n
  fits : Tree.Fits (g.offset n) (g.offset below) earlier
  kept : ∀ t ∈ earlier, t.Kept source.bytes

theorem rejoins_of_faultBelow? {g : Graph} (hg : g.Sound source) {n below : Nat}
    {earlier : List Tree} (hopen : g.Open n) (hstate : g.state n ≠ faultState)
    (h : faultBelow? (g.get n) = some (earlier, below)) : Rejoins source g n below earlier := by
  obtain ⟨⟨tree, bottom⟩, hmem, hlink⟩ := List.exists_of_findSome?_eq_some h
  obtain ⟨hlt, hfits, hreads⟩ := hg.links n _ hmem
  match tree with
  | none => cases hlink
  | some t =>
    simp only at hlink
    split at hlink
    · next hlabel =>
      obtain ⟨rfl, rfl⟩ := Prod.mk.inj (Option.some.inj hlink)
      obtain ⟨hstart, hordered, hstop⟩ : _ ≤ t.start ∧ t.Ordered ∧ t.stop = _ := hfits
      obtain ⟨hbelow, hkept, hmove⟩ := hreads (hopen _ hmem)
      have hextra : t.extra = true := by
        by_contra hextra
        exact hopen _ hmem (.inr ⟨hlabel, Bool.eq_false_iff.2 hextra⟩)
      have hsame := (hmove hstate).1
      rw [if_pos hextra] at hsame
      exact ⟨hlt, hbelow, hsame.symm, hordered.kids.mono hstart (Nat.le_of_eq hstop), hkept.kids⟩
    · cases hlink

/-- Trees that follow each other, all of them that are no comments at the end in one fault. -/
def inFault (source : Input) (trees : List Tree) (offset : Nat) : List Tree :=
  if (splitExtras trees).1.isEmpty then (splitExtras trees).2
  else (Tree.branch source .fault [] (splitExtras trees).1 offset).asExtra :: (splitExtras trees).2

theorem inFault_fits (source : Input) {trees : List Tree} {offset stop : Nat}
    (h : Tree.Fits stop offset trees) : Tree.Fits stop offset (inFault source trees offset) := by
  rw [← append_splitExtras trees] at h
  unfold inFault
  split
  · next hempty => rwa [List.isEmpty_iff.1 hempty] at h
  · simpa [Tree.Fits] using (h.wrap source .fault []).1

/-- A fault counts as a comment. -/
theorem inFault_kept (source : Input) {trees : List Tree} (h : ∀ t ∈ trees, t.Kept source.bytes)
    (offset : Nat) : ∀ t ∈ inFault source trees offset, t.Kept source.bytes ∧ t.extra = true := by
  have hmem := append_splitExtras trees
  have hextras : ∀ t ∈ (splitExtras trees).2, t.Kept source.bytes ∧ t.extra = true := fun t ht =>
    ⟨h t (hmem ▸ List.mem_append_right _ ht), extra_of_mem_splitExtras ht⟩
  unfold inFault
  split
  · exact hextras
  · refine List.forall_mem_cons.2 ⟨⟨?_, rfl⟩, hextras⟩
    have hbranch : (Tree.branch source .fault [] (splitExtras trees).1 offset).Kept source.bytes :=
      Tree.kept_branch _ _ _ fun k hk => h k (hmem ▸ List.mem_append_left _ hk)
    refine hbranch.asExtra nofun nofun fun hcost => ?_
    exact absurd hcost (Tree.cost_branch_pos rfl).ne'

/-- A new head with trees in a fault, behind the heads that are followed. -/
theorem Sound.withFault (hm : m.Sound source P x) {bound : Nat} (hP : ∀ k, P k → k < bound)
    (hbound : bound ≤ m.heads.length) {bottom stop : Nat} (hbottom : bottom < m.graph.size)
    (hopen : m.graph.Open bottom) {trees : List Tree}
    (htrees : Tree.Fits stop (m.graph.offset bottom) trees) (hstop : stop ≤ source.length)
    (hkept : ∀ t ∈ trees, t.Kept source.bytes) (mark : Nat) :
    let goal := m.graph.state bottom
    let grown : Machine := { m with heads := m.heads ++ [⟨bottom, mark, .active, none⟩] }
    let pushed : Machine :=
      if (splitExtras trees).1.isEmpty then grown
      else grown.pushOn m.heads.length (some (Tree.branch source .fault [] (splitExtras trees).1
        (m.graph.get bottom).offset).asExtra) goal
    let last := pushed.pushAll m.heads.length (splitExtras trees).2 goal
    last.Sound source P x ∧ m.graph.Extends last.graph ∧ bound ≤ last.heads.length := by
  intro goal grown pushed last
  have hlast : last = m.withHead bottom mark (inFault source trees (m.graph.offset bottom)) goal := by
    simp only [last, pushed, grown, inFault]
    split
    · rfl
    · rfl
  obtain ⟨hsound, hext⟩ := hm.withHead hbottom hopen mark (inFault_fits source htrees) hstop
    (stackable_extras (inFault_kept source hkept _)) fun hk => absurd (hP _ hk) (by omega)
  rw [hlast]
  exact ⟨hsound, hext, by rw [length_withHead]; omega⟩

/-- Returning to a state adds heads behind those that are followed. -/
theorem Sound.returnTo (hm : m.Sound source P x) {bound : Nat} (hP : ∀ k, P k → k < bound)
    (hbound : bound ≤ m.heads.length) {n : Nat} (hn : P n) (depth : Nat) {goal : State}
    (hgoal : goal ≠ faultState) :
    (Machine.returnTo source m n depth goal).1.Sound source P x ∧
      bound ≤ (Machine.returnTo source m n depth goal).1.heads.length := by
  unfold Machine.returnTo
  split
  · exact ⟨hm, hbound⟩
  · next h hhead =>
    have htop := (hm.head hhead).top_lt
    have hopen := (hm.head hhead).top_open (hm.going hn h hhead)
    have hgroups := hm.graph.pop htop hopen depth
    refine And.imp_right And.right (List.foldlRecOn (motive := fun acc : Machine × Bool =>
      acc.1.Sound source P x ∧ m.graph.Extends acc.1.graph ∧ bound ≤ acc.1.heads.length) _ _
      ⟨hm, .refl _, hbound⟩ ?_)
    rintro ⟨now, found⟩ ⟨hnow, hext, hle⟩ group hgroup
    simp only at hnow hext hle ⊢
    split
    · exact ⟨hnow, hext, hle⟩
    · next trees htrees =>
      have htaken := (hgroups group hgroup trees (List.mem_of_mem_head? htrees)).later htop hopen hext
      obtain ⟨hbottom, hleads⟩ := htaken.leads (hext.opens _ htop hopen)
      have hkept : ∀ t ∈ trees, t.Kept source.bytes := fun t ht => (hleads.kept t ht).1
      split
      · exact ⟨hnow, hext, hle⟩
      · next hstate =>
        rw [ne_eq, not_not] at hstate
        subst hstate
        split
        · next earlier below hfault =>
          obtain ⟨hlt, hbelow, hsame, hfits, hearlier⟩ :=
            rejoins_of_faultBelow? hnow.graph hbottom hgoal hfault
          obtain ⟨hsound, hlater, hlength⟩ := hnow.withFault hP hle hlt hbelow
            (hfits.append htaken.fits) (hnow.graph.offset_le _)
            (List.forall_mem_append.2 ⟨hearlier, hkept⟩) h.mark
          rw [hsame] at hsound hlater hlength
          exact ⟨hsound, hext.trans hlater, hlength⟩
        · obtain ⟨hsound, hlater, hlength⟩ := hnow.withFault hP hle htaken.bottom_lt hbottom
            htaken.fits (hnow.graph.offset_le _) hkept h.mark
          exact ⟨hsound, hext.trans hlater, hlength⟩

theorem Sound.returnToStop (hm : m.Sound source P x) {bound : Nat} (hP : ∀ k, P k → k < bound)
    (hbound : bound ≤ m.heads.length) {n : Nat} (hn : P n) (lookahead : Token)
    (offset cost progress : Nat) (stops : List Stop) :
    (Machine.returnToStop source m n lookahead offset cost progress stops).1.Sound source P x ∧
      bound ≤
        (Machine.returnToStop source m n lookahead offset cost progress stops).1.heads.length := by
  induction stops generalizing m with
  | nil => exact ⟨hm, hbound⟩
  | cons s rest ih =>
    unfold Machine.returnToStop
    split
    · exact ih hm hbound
    · next hstop =>
      have hgoal : s.state ≠ faultState := by
        simp only [Bool.or_eq_true, decide_eq_true_eq, not_or] at hstop
        exact hstop.1.1
      simp only
      generalize cost + s.depth * Cost.skippedTree + (offset - s.offset) * Cost.skippedByte
        + source.newlinesIn s.offset offset * Cost.skippedLine = price
      obtain ⟨hsettled, hlength⟩ := hm.isHopeless n price
      have hless : bound ≤ (m.isHopeless n price).1.heads.length := hlength ▸ hbound
      split
      · exact ⟨hsettled, hless⟩
      · split
        · exact ih hsettled hless
        · generalize (if progress > 0 then s.depth + 1 else s.depth) = depth
          obtain ⟨hreturned, hmore⟩ := hsettled.returnTo hP hless hn depth hgoal
          split
          · exact ⟨hreturned, hmore⟩
          · exact ih hreturned hmore

/-- Skipped input can be put on top of any head. -/
theorem Sound.pushSkipped (hm : m.Sound source P x) {n y : Nat} (hP : ∀ k, P k → k ≠ n)
    (hn : m.ReadyAt n y) {h : Head} (hhead : m.heads[n]? = some h) {kids : List Tree} {stop : Nat}
    (hfits : Tree.Fits stop y kids) (hstop : Tree.stopAfter y kids ≤ source.length)
    (hkept : ∀ k ∈ kids, k.Kept source.bytes) :
    (m.pushOn n (some (Tree.branch source .skipped [] kids y)) faultState).Sound source P x := by
  obtain ⟨hordered, hstart, hlast⟩ : (Tree.branch source .skipped [] kids y).Ordered ∧ _ :=
    Tree.branch_fits hfits
  have hend : ¬ IsEnd (some (Tree.branch source .skipped [] kids y)) := by
    rintro (hend | ⟨hend, -⟩) <;> cases hend
  exact (hm.pushOn hP hn (inState_of_head hhead)
    (fun t ht => Option.some.inj ht ▸ ⟨hstart, hordered, hlast ▸ hstop⟩) hend
    ⟨Tree.kept_branch _ _ _ hkept, fun h => absurd rfl h⟩).1

/-- A fault on top of a head is continued: what it left out so far and the new tree become one. -/
theorem Sound.continueFault (hm : m.Sound source P x) {n y : Nat} (hP : ∀ k, P k → k ≠ n)
    (hn : m.ReadyAt n y) {h : Head} (hhead : m.heads[n]? = some h) {below : Nat} {trees : List Tree}
    (htaken : m.graph.Taken source h.top 1 below trees) {skipped : Tree}
    (hfits : Tree.Fits skipped.stop y [skipped]) (hstop : skipped.stop ≤ source.length)
    (hkept : skipped.Kept source.bytes) :
    ((m.modify n fun h => { h with top := below }).pushOn n
      (some (Tree.branch source .skipped [] (trees ++ [skipped]) y)) faultState).Sound source P x := by
  obtain ⟨hgoing, hoffset⟩ := hn h hhead
  obtain ⟨hopen, hleads⟩ := htaken.leads ((hm.head hhead).opens hgoing)
  have htrees := htaken.fits
  rw [hoffset] at htrees
  have hmoved : (m.modify n fun h => { h with top := below }).Sound source P x :=
    hm.modify n (fun k hk => .of_active htaken.bottom_lt hopen (hn k hk).going)
      fun _ _ hPn => absurd rfl (hP n hPn)
  have hhead' : (m.modify n fun h => { h with top := below }).heads[n]? =
      some { h with top := below } := by
    rw [Machine.modify, List.getElem?_modify_eq, hhead]
    rfl
  have hready : (m.modify n fun h => { h with top := below }).ReadyAt n (m.graph.offset below) := by
    intro k hk
    obtain rfl := Option.some.inj (hhead'.symm.trans hk)
    exact ⟨hgoing, rfl⟩
  rw [Tree.branch_congr source .skipped [] (by simp) y (m.graph.offset below)]
  refine hmoved.pushSkipped hP hready hhead' (htrees.append hfits) ?_ ?_
  · rw [Tree.stopAfter_append, Tree.stopAfter_cons, Tree.stopAfter_nil]
    exact hstop
  · refine List.forall_mem_append.2 ⟨fun k hk => (hleads.kept k hk).1, fun k hk => ?_⟩
    exact List.mem_singleton.1 hk ▸ hkept

/-- Leaving out a tree that fits on top of a head. -/
theorem Sound.skipToken (hm : m.Sound source P x) {n y : Nat} (hP : ∀ k, P k → k ≠ n)
    (hn : m.ReadyAt n y) {lookahead : Tree} (hfollows : lookahead.Follows source y)
    (hlook : lookahead.Lookahead source.bytes) (heof : lookahead.label ≠ .token .eof)
    (progress : Nat) : (Machine.skipToken source m n lookahead progress).Sound source P x := by
  unfold Machine.skipToken
  split
  · exact hm
  · next h hhead =>
    obtain ⟨hgoing, hoffset⟩ := hn h hhead
    generalize hshown : (if lookahead.label = .token .comment then lookahead.asExtra
      else lookahead) = shown
    have hfits : Tree.Fits shown.stop y [shown] ∧ shown.stop ≤ source.length := by
      obtain ⟨hstart, hordered, hstop⟩ := hfollows
      subst hshown
      split <;> simp [Tree.Fits, hstart, hordered, hstop]
    have hshownKept : ∀ k ∈ [shown], k.Kept source.bytes := by
      intro k hk
      rw [List.mem_singleton.1 hk]
      subst hshown
      split
      · next hcomment => exact hlook.kept_asExtra hcomment
      · exact hlook.kept heof
    have htop : (m.topOf h).offset = y := hoffset
    simp only [htop]
    obtain ⟨hordered, hstart, hstop⟩ : (Tree.branch source .skipped [] [shown] y).Ordered ∧ _ :=
      Tree.branch_fits hfits.1
    split
    · exact hm.pushSkipped hP hn hhead hfits.1 hfits.2 hshownKept
    · split
      · next below trees _ _ hpop =>
        have hs := hm.head hhead
        have htaken := hm.graph.pop hs.top_lt (hs.opens hgoing) 1 _ (hpop ▸ List.mem_cons_self)
          trees List.mem_cons_self
        exact hm.continueFault hP hn hhead htaken ⟨hstart, hordered, Nat.le_refl _⟩
          (hstop ▸ hfits.2) (Tree.kept_branch _ _ _ hshownKept)
      · exact hm

/-- The end of the source is accepted behind a fault that is made of the rest. -/
theorem Sound.acceptRest {n : Nat} (hm : m.Sound source (· = n) x) {h : Head}
    (hhead : m.heads[n]? = some h) {eof : Tree} (hfollows : eof.Follows source x)
    (hlook : eof.Lookahead source.bytes) (heof : eof.label = .token .eof) :
    (Machine.accept source (m.pushOn n (some (Tree.branch source .fault [] [] x))
      Automaton.startState) n eof).Orderly source := by
  have hoffset := (hm.ready n rfl h hhead).offset_eq
  have hx : x ≤ source.length := hoffset ▸ hm.graph.offset_le _
  let rest := Tree.branch source .fault [] [] x
  have hrest : ∀ t, some rest = some t → t.Follows source x := by
    rintro t ⟨⟩
    exact ⟨Nat.le_refl _, ⟨Nat.le_refl _, Nat.le_refl _⟩, hx⟩
  have hend : IsEnd (some rest) := .inr ⟨rfl, rfl⟩
  -- It does not matter that the head gives up only later.
  have hhalted : (m.modify n Head.halt).heads[n]? = some h.halt := by
    rw [Machine.modify, List.getElem?_modify_eq, hhead]
    rfl
  obtain ⟨hpushed, -, -, k, hk, -, -, hget⟩ := (hm.orderly.halt (n := n) id).pushHead
    (fun _ => False.elim) hhalted Automaton.startState (fun t ht => hoffset ▸ hrest t ht)
    (fun _ => rfl) fun hgoing => absurd hend hgoing
  rw [← pushOn_halt] at hpushed hk hget
  obtain ⟨g, hg, rfl⟩ : ∃ g, (m.pushOn n (some rest) Automaton.startState).heads[n]? = some g ∧
      g.halt = k := by
    rw [Machine.modify, List.getElem?_modify_eq] at hk
    exact Option.map_eq_some_iff.1 hk
  have hget : (m.pushOn n (some rest) Automaton.startState).graph.get g.top = _ := hget
  refine Sound.accept hg hpushed (fun _ => False.elim)
    (.inr ⟨rest, h.halt.top, by rw [hget]; rfl, rfl, rfl⟩) ?_ hlook heof
  rw [Graph.offset, hget]
  exact hfollows

/-- The end of the source is accepted behind a fault, and any other tree is left out, unless there
    is something better to do. -/
theorem Sound.leaveOut {n : Nat} (hm : m.Sound source (· = n) x) (hlt : n < m.heads.length)
    {lookahead : Tree} (hfollows : lookahead.Follows source x)
    (hlook : lookahead.Lookahead source.bytes) (returned : Bool) (price progress : Nat) :
    (if lookahead.label = .token .eof then
      Machine.accept source (m.pushOn n (some (Tree.branch source .fault [] [] x))
        Automaton.startState) n lookahead
    else if returned && m.heads.length > maxHeads then m.modify n Head.halt
    else if (m.isHopeless n price).2 then (m.isHopeless n price).1.modify n Head.halt
    else Machine.skipToken source (m.isHopeless n price).1 n lookahead progress).Orderly source := by
  split
  · next heof => exact hm.acceptRest (List.getElem?_eq_getElem hlt) hfollows hlook heof
  · next heof =>
    split
    · exact hm.orderly.halt id
    · obtain ⟨hsettled, -⟩ := hm.isHopeless n price
      split
      · exact hsettled.orderly.halt id
      · exact hsettled.orderly.skipToken (fun _ => False.elim) (hsettled.ready n rfl) hfollows hlook
          heof progress

/-- Going on from a fault with a tree that fits on top. -/
theorem Sound.recover {n : Nat} (hm : m.Sound source (· = n) x) {lookahead : Tree}
    (hfollows : lookahead.Follows source x) (hlook : lookahead.Lookahead source.bytes) :
    (Machine.recover source m n lookahead).Orderly source := by
  unfold Machine.recover
  have hsettled := hm.settle n
  simp only
  split
  · exact hsettled.orderly
  · next h hhead =>
    have hr := hsettled.ready n rfl h hhead
    obtain ⟨hlt, -⟩ := List.getElem?_eq_some_iff.1 hhead
    have htop : ((m.modify n fun h => h.settle m.graph).topOf h).offset = x := hr.offset_eq
    simp only [htop]
    generalize h.cost (m.modify n fun h => h.settle m.graph).graph = cost
    generalize h.progress (m.modify n fun h => h.settle m.graph).graph = progress
    cases h.stops with
    | none => exact hsettled.leaveOut hlt hfollows hlook _ _ _
    | some stops =>
      cases tokenOf lookahead with
      | none => exact hsettled.leaveOut hlt hfollows hlook _ _ _
      | some t =>
        have hbound : ∀ k, k = n → k < n + 1 := fun k hk => by omega
        obtain ⟨hreturned, hmore⟩ := hsettled.returnToStop hbound hlt rfl t x cost progress stops
        exact hreturned.leaveOut hmore hfollows hlook _ _ _

/-! ## Meeting a fault -/

/-- The mark of a fault does not move a head. -/
theorem Sound.mark (hm : m.Sound source P x) {n : Nat} (hn : P n) :
    (m.pushOn n none faultState).Sound source P x := by
  cases hhead : m.heads[n]? with
  | none => rwa [pushOn_of_none hhead]
  | some h =>
    let Q : Nat → Prop := fun k => P k ∧ k ≠ n
    have hnone : ∀ t, (none : Option Tree) = some t → t.Follows source x := nofun
    obtain ⟨hpushed, hready, -, -⟩ := (hm.weaken (Q := Q) fun k hk => hk.1).pushOn
      (fun k hk => hk.2) (hm.ready n hn) (inState_of_head hhead) hnone id rfl
    refine hpushed.follow fun k hk => ?_
    by_cases hsame : k = n
    · exact hsame ▸ hready
    · exact hpushed.ready k ⟨hk, hsame⟩

theorem Sound.markHeads (lookahead : Tree) {numbers : List Nat} {bound : Nat}
    (hP : ∀ k, P k → k < bound) (assumedOne : Bool) (hm : m.Sound source P x)
    (hnumbers : ∀ k ∈ numbers, P k) (hbound : bound ≤ m.heads.length) :
    (Machine.markHeads source lookahead x numbers assumedOne m).Sound source P x := by
  induction numbers generalizing assumedOne m with
  | nil => exact hm
  | cons n rest ih =>
    have hn := hnumbers n List.mem_cons_self
    have hrest := fun k hk => hnumbers k (List.mem_cons_of_mem n hk)
    unfold Machine.markHeads
    cases assumedOne with
    | true => exact ih true (hm.mark hn) hrest (by rwa [length_pushOn])
    | false =>
      cases tokenOf lookahead with
      | none => exact ih false (hm.mark hn) hrest (by rwa [length_pushOn])
      | some t =>
        obtain ⟨hsound, hmore⟩ := hm.assumeToken hn hP hbound t Token.all.tail
        exact ih _ (hsound.mark hn) hrest (by rwa [length_pushOn])

theorem Sound.mergeInto {a b : Nat} (hab : a < b) (hm : m.Sound source (· = a) x) (count : Nat) :
    (Machine.mergeInto a b count m).Sound source (· = a) x := by
  induction count generalizing m with
  | zero => exact hm
  | succ count ih =>
    rw [Machine.mergeInto]
    cases hmerge : m.merge? a b with
    | none => exact ih hm
    | some merged => exact ih (hm.merge? hmerge fun i hi _ hia => by omega).1

/-- Starting recovery at a head with a tree that fits on top. -/
theorem Sound.meetFault {n : Nat} (hm : m.Sound source (· = n) x) (hlt : n < m.heads.length)
    {lookahead : Tree} (hfollows : lookahead.Follows source x)
    (hlook : lookahead.Lookahead source.bytes) :
    (Machine.meetFault source m n lookahead).Orderly source := by
  obtain ⟨hreduced, hmore⟩ := hm.reduceFrom_any
  unfold Machine.meetFault
  generalize Machine.reduceFrom source m n none = reduced at hreduced hmore
  obtain ⟨now, _⟩ := reduced
  simp only at hreduced hmore ⊢
  have hhead : now.heads[n]? = some _ := List.getElem?_eq_getElem (Nat.lt_of_lt_of_le hlt hmore)
  have hoffset : (now.heads[n]?.map fun h => (now.topOf h).offset).getD 0 = x := by
    rw [hhead]
    exact (hreduced.ready n (.inl rfl) _ hhead).offset_eq
  rw [hoffset]
  let P : Nat → Prop := fun k => k = n ∨ m.heads.length ≤ k ∧ k < now.heads.length
  have hP : ∀ k, P k → k < now.heads.length := by
    rintro k (rfl | hk)
    · omega
    · exact hk.2
  have hnumbers : ∀ k ∈ n :: (List.range (now.heads.length - m.heads.length)).map
      (m.heads.length + ·), P k := by
    intro k hk
    rcases List.mem_cons.1 hk with rfl | hk
    · exact .inl rfl
    · obtain ⟨i, hi, rfl⟩ := List.mem_map.1 hk
      have := List.mem_range.1 hi
      exact .inr ⟨by omega, by omega⟩
  have hmarked := Sound.markHeads lookahead hP false
    (hreduced.weaken fun k hk => hk.imp_right And.left) hnumbers (Nat.le_refl _)
  have hmerged := Sound.mergeInto hlt (hmarked.weaken fun k hk => .inl hk)
    (now.heads.length - m.heads.length)
  refine (hmerged.touch n ?_ ?_).recover hfollows hlook
  · exact fun _ => rfl
  · exact fun _ => rfl

end SyscallGuard.Machine
