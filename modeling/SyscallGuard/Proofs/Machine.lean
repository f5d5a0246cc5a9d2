import SyscallGuard.Proofs.Lexing
import SyscallGuard.Proofs.Stack

set_option autoImplicit false

/-! # The order of a parse

A machine is sound (`Machine.Sound`) if its stack is, its heads stand on vertices of the stack, and
its finished tree is in order and, if it costs nothing, as the grammar forms it. Beside that the
predicate follows some heads, those whose numbers satisfy `P`, and says that they have not stopped and
stand at offset `x`. A reduction never changes where a head stands, so the heads that come out of one
that is about to take a token all stand where it stood, and the token fits on top of each of them. -/

namespace SyscallGuard

open Automaton (State Edge faultState)

/-- A tree that can stand on top of a stack that ends at `offset`. -/
structure Tree.Follows (source : Input) (offset : Nat) (t : Tree) : Prop where
  offset_le : offset ≤ t.start
  ordered : t.Ordered
  stop_le : t.stop ≤ source.length

/-- A leaf as it is read from the source: a token as it is spelled, or input that is no token. -/
structure Tree.Lookahead (source : Bytes) (t : Tree) : Prop where
  kids_eq : t.kids = []
  label : t.label = .fault ∨ ∃ token, t.label = .token token
  extra : t.extra = true ↔ t.label = .token .eof
  spelled : ∀ token, t.label = .token token → token.Spelled source t.start t.stop
  word : t.info.isWord = true →
    Token.identifier.Spelled source t.start t.stop ∧ t.label ≠ .token .eof

namespace Tree.Lookahead

variable {source : Bytes} {t : Tree}

theorem not_phrase (h : t.Lookahead source) {p : Phrase} : t.label ≠ .phrase p := by
  rcases h.label with hlabel | ⟨token, hlabel⟩ <;> simp [hlabel]

theorem formed (h : t.Lookahead source) {token : Token} (hlabel : t.label = .token token) :
    t.Formed source := by
  obtain ⟨info, kids⟩ := t
  obtain rfl : kids = [] := h.kids_eq
  exact .token hlabel (h.spelled _ hlabel)

theorem kept (h : t.Lookahead source) (heof : t.label ≠ .token .eof) : t.Kept source := by
  have hextra : t.extra = false := Bool.eq_false_iff.2 fun hextra => heof (h.extra.1 hextra)
  refine (Tidy.of_not_extra hextra fun p hp => absurd hp h.not_phrase).kept ?_
  rw [h.kids_eq]
  exact fun k hk => nomatch hk

/-- A comment. -/
theorem kept_asExtra (h : t.Lookahead source) (hcomment : t.label = .token .comment) :
    t.asExtra.Kept source :=
  (h.kept (by simp [hcomment])).asExtra (by simp [hcomment]) (by simp [hcomment])
    fun _ => h.formed hcomment

end Tree.Lookahead

/-- The finished tree over a whole source without faults. -/
structure Tree.Whole (source : Bytes) (t : Tree) : Prop where
  label_eq : t.label = .phrase .sourceFile
  kids : ∀ k ∈ t.kids, k.Formed source

namespace Graph

variable {source : Input} {g next : Graph} {n count bottom : Nat} {trees : List Tree}

theorem Taken.later (h : g.Taken source n count bottom trees) (hn : n < g.size) (hopen : g.Open n)
    (hext : g.Extends next) : next.Taken source n count bottom trees := by
  have hbottom := hext.offset_eq _ h.bottom_lt
  have htop := hext.offset_eq _ hn
  have hstate := hext.state_eq _ hn
  refine ⟨⟨Nat.lt_of_lt_of_le h.bottom_lt hext.size_le, hbottom ▸ htop ▸ h.fits,
    hbottom ▸ htop ▸ h.stopAfter_eq, fun _ => ?_⟩, hstate ▸ h.counted⟩
  obtain ⟨hbelow, hleads⟩ := h.leads hopen
  exact ⟨hext.opens _ h.bottom_lt hbelow, hext.state_eq _ h.bottom_lt ▸ hstate ▸ hleads⟩

end Graph

/-! ## Heads -/

namespace Head

/-- A head stands on a vertex, behind which the source goes on unless the head has given up, and what
    it has stopped at fits on top. -/
structure Sound (source : Input) (g : Graph) (h : Head) : Prop where
  top_lt : h.top < g.size
  top_open : h.isHalted = false → g.Open h.top
  paused : ∀ t, h.status = .paused t →
    t.Follows source (g.offset h.top) ∧ t.Lookahead source.bytes

/-- A head that has not stopped and stands at an offset. -/
structure Ready (g : Graph) (x : Nat) (h : Head) : Prop where
  going : h.isActive = true
  offset_eq : g.offset h.top = x

variable {source : Input} {x : Nat} {g next : Graph} {h : Head}

theorem isHalted_of_isActive (hactive : h.isActive = true) : h.isHalted = false := by
  unfold isActive at hactive
  unfold isHalted
  cases hs : h.status <;> simp [hs] at hactive ⊢

theorem Sound.opens (hh : h.Sound source g) (hactive : h.isActive = true) : g.Open h.top :=
  hh.top_open (isHalted_of_isActive hactive)

theorem Sound.later (hh : h.Sound source g) (hext : g.Extends next) : h.Sound source next := by
  refine ⟨Nat.lt_of_lt_of_le hh.top_lt hext.size_le,
    fun hgoing => hext.opens _ hh.top_lt (hh.top_open hgoing), fun t ht => ?_⟩
  rw [hext.offset_eq _ hh.top_lt]
  exact hh.paused t ht

theorem Ready.later (hr : h.Ready g x) (hh : h.Sound source g) (hext : g.Extends next) :
    h.Ready next x :=
  ⟨hr.going, (hext.offset_eq _ hh.top_lt).trans hr.offset_eq⟩

/-- A head that has not stopped only needs a vertex. -/
theorem Sound.of_active (hlt : h.top < g.size) (hopen : g.Open h.top) (hactive : h.isActive = true) :
    h.Sound source g := by
  refine ⟨hlt, fun _ => hopen, fun t ht => ?_⟩
  rw [isActive, ht] at hactive
  cases hactive

/-- A head that has given up stands anywhere. -/
theorem Sound.of_halted (hlt : h.top < g.size) (hhalted : h.isHalted = true) :
    h.Sound source g := by
  refine ⟨hlt, fun hgoing => ?_, fun t ht => ?_⟩
  · rw [hhalted] at hgoing
    cases hgoing
  · rw [isHalted, ht] at hhalted
    cases hhalted

/-- Soundness does not depend on marks and stops. -/
theorem Sound.congr {k : Head} (hh : h.Sound source g) (htop : k.top = h.top)
    (hstatus : k.status = h.status) : k.Sound source g := by
  refine ⟨htop ▸ hh.top_lt, fun hgoing => ?_, fun t ht => htop ▸ hh.paused t (hstatus ▸ ht)⟩
  rw [isHalted, hstatus] at hgoing
  exact htop ▸ hh.top_open hgoing

theorem Ready.congr {k : Head} (hr : h.Ready g x) (htop : k.top = h.top)
    (hstatus : k.status = h.status) : k.Ready g x :=
  ⟨by rw [isActive, hstatus]; exact hr.going, htop ▸ hr.offset_eq⟩

end Head

/-! ## Machines -/

namespace Machine

/-- Head `n`, if there is one, is ready at an offset. -/
def ReadyAt (m : Machine) (n x : Nat) : Prop := ∀ h, m.heads[n]? = some h → h.Ready m.graph x

/-- Head `n`, if there is one, has not given up. -/
def Going (m : Machine) (n : Nat) : Prop := ∀ h, m.heads[n]? = some h → h.isHalted = false

/-- Head `n`, if there is one, is in a state. -/
def InState (m : Machine) (n : Nat) (s : State) : Prop :=
  ∀ h, m.heads[n]? = some h → m.graph.state h.top = s

/-- A machine over a source in order, whose heads with a number in `P` are all ready at offset
    `x`. -/
structure Sound (source : Input) (P : Nat → Prop) (x : Nat) (m : Machine) : Prop where
  graph : m.graph.Sound source
  heads : ∀ h ∈ m.heads, h.Sound source m.graph
  finished : ∀ t, m.finished = some t →
    t.Ordered ∧ t.stop ≤ source.length ∧ (t.cost = 0 → t.Whole source.bytes)
  last : ∀ r, m.last = some r → r.lexeme.Within source.length ∧ r.lexeme.Spelled source.bytes
  ready : ∀ k, P k → m.ReadyAt k x

variable {source : Input} {x : Nat} {P : Nat → Prop} {m : Machine}

theorem Sound.weaken (hm : m.Sound source P x) {Q : Nat → Prop} (h : ∀ k, Q k → P k) :
    m.Sound source Q x :=
  { hm with ready := fun k hQ => hm.ready k (h k hQ) }

/-- A sound machine, none of whose heads is followed. -/
abbrev Orderly (source : Input) (m : Machine) : Prop := m.Sound source (fun _ => False) 0

theorem Sound.orderly (hm : m.Sound source P x) : m.Orderly source :=
  { hm with ready := fun _ => False.elim }

theorem Sound.head (hm : m.Sound source P x) {n : Nat} {h : Head} (hh : m.heads[n]? = some h) :
    h.Sound source m.graph :=
  hm.heads h (List.mem_of_getElem? hh)

/-- Follows the heads that are known to be ready at some other offset. -/
theorem Sound.follow (hm : m.Sound source P x) {Q : Nat → Prop} {y : Nat}
    (h : ∀ k, Q k → m.ReadyAt k y) : m.Sound source Q y :=
  { hm with ready := h }

/-- Whatever happens to graph and heads, as long as the heads stay sound and ready. -/
theorem Sound.update (hm : m.Sound source P x) {g : Graph} {heads : List Head} (hg : g.Sound source)
    (hheads : ∀ h ∈ heads, h.Sound source g)
    (hready : ∀ k h, heads[k]? = some h → P k → h.Ready g x) :
    ({ m with graph := g, heads := heads } : Machine).Sound source P x :=
  { graph := hg, heads := hheads, finished := hm.finished, last := hm.last
    ready := fun k hP h hk => hready k h hk hP }

/-! ### Changing, adding, removing and moving heads -/

/-- A change of one head. -/
theorem Sound.modify (hm : m.Sound source P x) (n : Nat) {f : Head → Head}
    (hsound : ∀ h, m.heads[n]? = some h → (f h).Sound source m.graph)
    (hready : ∀ h, m.heads[n]? = some h → P n → (f h).Ready m.graph x) :
    (m.modify n f).Sound source P x := by
  refine hm.update hm.graph (fun h hh => ?_) fun k h hk hP => ?_
  · obtain ⟨i, hi⟩ := List.mem_iff_getElem?.1 hh
    rw [List.getElem?_modify] at hi
    obtain ⟨old, hold, rfl⟩ := Option.map_eq_some_iff.1 hi
    split
    · next hsame => exact hsound old (hsame ▸ hold)
    · exact hm.head hold
  · rw [List.getElem?_modify] at hk
    obtain ⟨old, hold, rfl⟩ := Option.map_eq_some_iff.1 hk
    split
    · next hsame => exact hready old (hsame ▸ hold) (hsame ▸ hP)
    · exact hm.ready k hP old hold

/-- A change that keeps the place of a head. -/
theorem Sound.touch (hm : m.Sound source P x) (n : Nat) {f : Head → Head}
    (htop : ∀ h, (f h).top = h.top) (hstatus : ∀ h, (f h).status = h.status) :
    (m.modify n f).Sound source P x :=
  hm.modify n (fun h hh => (hm.head hh).congr (htop h) (hstatus h))
    fun h hh hP => (hm.ready n hP h hh).congr (htop h) (hstatus h)

theorem Sound.settle (hm : m.Sound source P x) (n : Nat) :
    (m.modify n fun h => h.settle m.graph).Sound source P x :=
  hm.touch n (fun _ => rfl) fun _ => rfl

theorem Sound.halt (hm : m.Sound source P x) {n : Nat} (hP : ¬ P n) :
    (m.modify n Head.halt).Sound source P x :=
  hm.modify n (fun _ hh => .of_halted (hm.head hh).top_lt rfl) fun _ _ hn => absurd hn hP

/-- One more head at the end. -/
theorem Sound.append (hm : m.Sound source P x) {h : Head} (hs : h.Sound source m.graph)
    (hr : P m.heads.length → h.Ready m.graph x) :
    ({ m with heads := m.heads ++ [h] } : Machine).Sound source P x := by
  refine hm.update hm.graph (fun k hk => ?_) fun k g hk hP => ?_
  · rcases List.mem_append.1 hk with hk | hk
    · exact hm.heads k hk
    · exact List.mem_singleton.1 hk ▸ hs
  · rw [List.getElem?_append] at hk
    split at hk
    · exact hm.ready k hP g hk
    · next hle =>
      obtain ⟨hlt, hlast⟩ := List.getElem?_eq_some_iff.1 hk
      have hend : k = m.heads.length := by
        rw [List.length_singleton] at hlt
        omega
      subst hend
      rw [← hlast]
      simpa using hr hP

/-- What is left after a head is removed, if `P` survives the shift of the heads behind it. -/
theorem getElem?_of_eraseIdx {heads : List Head} {n k : Nat} {h : Head}
    (hk : (heads.eraseIdx n)[k]? = some h) (hP : P k)
    (hshift : ∀ i, n ≤ i → i + 1 < heads.length → P i → P (i + 1)) :
    ∃ j, heads[j]? = some h ∧ P j := by
  rw [List.getElem?_eraseIdx] at hk
  split at hk
  · exact ⟨k, hk, hP⟩
  · obtain ⟨hlt, -⟩ := List.getElem?_eq_some_iff.1 hk
    exact ⟨k + 1, hk, hshift k (by omega) hlt hP⟩

theorem Sound.remove (hm : m.Sound source P x) {n : Nat}
    (hshift : ∀ i, n ≤ i → i + 1 < m.heads.length → P i → P (i + 1)) :
    (m.remove n).Sound source P x := by
  refine hm.update hm.graph (fun h hh => hm.heads h (List.mem_of_mem_eraseIdx hh)) ?_
  intro k h hk hP
  obtain ⟨j, hj, hPj⟩ := getElem?_of_eraseIdx hk hP hshift
  exact hm.ready j hPj h hj

/-- The head that is moved is ready, or its new number is not followed. -/
theorem Sound.moveTo (hm : m.Sound source P x) {a b : Nat} (hab : P b → P a)
    (hshift : ∀ i, a ≤ i → i + 1 < m.heads.length → P i → P (i + 1)) :
    (m.moveTo a b).Sound source P x := by
  unfold Machine.moveTo
  split
  · next h old ha hb =>
    have hs := hm.head ha
    refine hm.update hm.graph (fun k hk => ?_) fun k g hk hP => ?_
    · rcases List.mem_or_eq_of_mem_set hk with hk | rfl
      · exact hm.heads k (List.mem_of_mem_eraseIdx hk)
      · exact hs.congr rfl rfl
    · rw [List.getElem?_set] at hk
      split at hk
      · next hsame =>
        subst hsame
        split at hk
        · obtain rfl := Option.some.inj hk
          exact (hm.ready a (hab hP) h ha).congr rfl rfl
        · cases hk
      · obtain ⟨j, hj, hPj⟩ := getElem?_of_eraseIdx hk hP hshift
        exact hm.ready j hPj g hj
  · exact hm

/-! ### Pushing -/

/-- Where a stack ends after a tree, or the mark of a fault, is put on it. -/
def stopOf (x : Nat) (tree : Option Tree) : Nat := (tree.map Tree.stop).getD x

/-- Pushing on a head. The heads that are followed are others and stay. At the end of the source the
    head has to have given up, so that nobody goes on from there. -/
theorem Sound.pushHead (hm : m.Sound source P x) {n : Nat} (hP : ∀ k, P k → k ≠ n) {h : Head}
    (hhead : m.heads[n]? = some h) {tree : Option Tree} (state : State)
    (htree : ∀ t, tree = some t → t.Follows source (m.graph.offset h.top))
    (hend : IsEnd tree → h.isHalted = true)
    (hreads : ¬ IsEnd tree →
      h.isActive = true ∧ LinkReads source.bytes (m.graph.state h.top) state tree) :
    (m.pushOn n tree state).Sound source P x ∧ m.graph.Extends (m.pushOn n tree state).graph ∧
      (∀ i, i < m.graph.size → (m.pushOn n tree state).graph.get i = m.graph.get i) ∧
      ∃ k, (m.pushOn n tree state).heads[n]? = some k ∧ k.status = h.status ∧
        k.top = m.graph.size ∧
        (m.pushOn n tree state).graph.get k.top = (m.topOf h).above h.top tree state := by
  have hs := hm.head hhead
  obtain ⟨hlt, -⟩ := List.getElem?_eq_some_iff.1 hhead
  let v := (m.topOf h).above h.top tree state
  have hpush : m.pushOn n tree state = { m with
      graph := m.graph.add v
      heads := m.heads.set n
        { h with top := m.graph.size, mark := if tree.isNone then v.nodes else h.mark } } := by
    simp only [Machine.pushOn, hhead, v]
  have hv : v.offset = stopOf (m.graph.offset h.top) tree := rfl
  have hlimit : v.offset ≤ source.length := by
    rw [hv]
    cases tree with
    | none => exact hm.graph.offset_le _
    | some t => exact (htree t rfl).stop_le
  have hlink : m.graph.LinkSound source v.offset v.state (tree, h.top) := by
    refine ⟨hs.top_lt, ?_, fun hgoing => ⟨hs.opens (hreads hgoing).1, (hreads hgoing).2⟩⟩
    rw [hv]
    cases tree with
    | none => rfl
    | some t => exact ⟨(htree t rfl).offset_le, (htree t rfl).ordered, rfl⟩
  have hext := hm.graph.extends_add v
  have hget : (m.graph.add v).get m.graph.size = v := by rw [hm.graph.get_add, if_pos rfl]
  rw [hpush]
  refine ⟨hm.update (hm.graph.add hlimit fun l hl => List.mem_singleton.1 hl ▸ hlink)
    (fun k hk => ?_) fun k g hk hPk => ?_, hext, fun i hi => ?_, _, List.getElem?_set_self hlt,
      rfl, rfl, hget⟩
  · rcases List.mem_or_eq_of_mem_set hk with hk | rfl
    · exact (hm.heads k hk).later hext
    · by_cases hgoing : IsEnd tree
      · exact .of_halted (Nat.lt_succ_self _) (hend hgoing)
      · refine .of_active (Nat.lt_succ_self _) (fun l hl => ?_) (hreads hgoing).1
        rw [hget] at hl
        rw [List.mem_singleton.1 hl]
        exact hgoing
  · rw [List.getElem?_set_ne (hP k hPk).symm] at hk
    exact (hm.ready k hPk g hk).later (hm.head hk) hext
  · rw [hm.graph.get_add, if_neg (Nat.ne_of_lt hi)]

theorem pushOn_of_none {n : Nat} (h : m.heads[n]? = none) (tree : Option Tree) (state : State) :
    m.pushOn n tree state = m := by
  rw [Machine.pushOn, h]

/-- Pushing on a head that is ready. -/
theorem Sound.pushOn (hm : m.Sound source P x) {n y : Nat} (hP : ∀ k, P k → k ≠ n)
    (hn : m.ReadyAt n y) {s : State} (hs : m.InState n s) {tree : Option Tree}
    (htree : ∀ t, tree = some t → t.Follows source y) (hend : ¬ IsEnd tree) {state : State}
    (hreads : LinkReads source.bytes s state tree) :
    (m.pushOn n tree state).Sound source P x ∧ (m.pushOn n tree state).ReadyAt n (stopOf y tree) ∧
      (m.pushOn n tree state).InState n state ∧
      m.graph.Extends (m.pushOn n tree state).graph := by
  cases hhead : m.heads[n]? with
  | none =>
    have hnone : ∀ h, m.heads[n]? ≠ some h := by simp [hhead]
    rw [pushOn_of_none hhead]
    exact ⟨hm, fun h hh => absurd hh (hnone h), fun h hh => absurd hh (hnone h), .refl _⟩
  | some h =>
    obtain ⟨hactive, rfl⟩ := hn h hhead
    obtain ⟨hsound, hext, -, k, hk, hstatus, -, hget⟩ := hm.pushHead hP hhead state htree
      (fun h => absurd h hend) fun _ => ⟨hactive, hs h hhead ▸ hreads⟩
    refine ⟨hsound, fun g hg => ?_, fun g hg => ?_, hext⟩
    · obtain rfl := Option.some.inj (hk.symm.trans hg)
      refine ⟨by rw [Head.isActive, hstatus]; exact hactive, ?_⟩
      rw [Graph.offset, hget]
      rfl
    · obtain rfl := Option.some.inj (hk.symm.trans hg)
      rw [Graph.state, hget]
      rfl

@[simp] theorem length_pushOn (m : Machine) (n : Nat) (tree : Option Tree) (state : State) :
    (m.pushOn n tree state).heads.length = m.heads.length := by
  unfold Machine.pushOn
  split
  · rfl
  · simp

theorem getElem?_pushOn_ne (m : Machine) {n k : Nat} (hk : k ≠ n) (tree : Option Tree)
    (state : State) : (m.pushOn n tree state).heads[k]? = m.heads[k]? := by
  unfold Machine.pushOn
  split
  · rfl
  · exact List.getElem?_set_ne hk.symm

/-- Trees that can be put one after the other on a head in state `below`, all in one state. -/
def Stackable (source : Bytes) (state : State) : State → List Tree → Prop
  | _, [] => True
  | below, t :: rest => ¬ IsEnd (some t) ∧ LinkReads source below state (some t) ∧
    Stackable source state state rest

/-- Comments can be put anywhere. -/
theorem stackable_extras {source : Bytes} {state : State} {trees : List Tree}
    (h : ∀ t ∈ trees, t.Kept source ∧ t.extra = true) : Stackable source state state trees := by
  induction trees with
  | nil => trivial
  | cons t rest ih =>
    obtain ⟨hkept, hextra⟩ := h t List.mem_cons_self
    obtain ⟨-, heof, hformed⟩ := hkept.self.extra hextra
    refine ⟨fun hend => ?_, ⟨hkept, fun _ => ⟨by rw [if_pos hextra], hformed⟩⟩,
      ih fun u hu => h u (List.mem_cons_of_mem t hu)⟩
    rcases hend with hend | ⟨-, hend⟩
    · exact heof hend
    · rw [hextra] at hend
      cases hend

/-- Pushing several trees that follow each other. -/
theorem Sound.pushAll (hm : m.Sound source P x) {n y stop : Nat} (hP : ∀ k, P k → k ≠ n)
    (hn : m.ReadyAt n y) {s : State} (hs : m.InState n s) {trees : List Tree}
    (htrees : Tree.Fits stop y trees) (hstop : stop ≤ source.length) {state : State}
    (hstack : Stackable source.bytes state s trees) :
    (m.pushAll n trees state).Sound source P x ∧
      (m.pushAll n trees state).ReadyAt n (Tree.stopAfter y trees) ∧
      m.graph.Extends (m.pushAll n trees state).graph := by
  induction trees generalizing m y s with
  | nil => exact ⟨hm, hn, .refl _⟩
  | cons t rest ih =>
    rw [Tree.Fits] at htrees
    obtain ⟨hend, hreads, hstack⟩ := hstack
    have hfollows : ∀ u, some t = some u → u.Follows source y := by
      rintro u ⟨⟩
      exact ⟨htrees.1, htrees.2.1, Nat.le_trans htrees.2.2.le hstop⟩
    obtain ⟨hsound, hready, hstate, hext⟩ := hm.pushOn hP hn hs hfollows hend hreads
    obtain ⟨hall, hlast, hrest⟩ := ih hsound hready hstate htrees.2.2 hstack
    rw [Tree.stopAfter_cons]
    exact ⟨hall, hlast, hext.trans hrest⟩

@[simp] theorem length_pushAll (m : Machine) (n : Nat) (trees : List Tree) (state : State) :
    (m.pushAll n trees state).heads.length = m.heads.length := by
  unfold Machine.pushAll
  induction trees generalizing m with
  | nil => rfl
  | cons t rest ih => rw [List.foldl_cons, ih, length_pushOn]

theorem getElem?_pushAll_ne (m : Machine) {n k : Nat} (hk : k ≠ n) (trees : List Tree)
    (state : State) : (m.pushAll n trees state).heads[k]? = m.heads[k]? := by
  unfold Machine.pushAll
  induction trees generalizing m with
  | nil => rfl
  | cons t rest ih => rw [List.foldl_cons, ih, getElem?_pushOn_ne m hk]

/-- The machine with a new head on vertex `bottom` that holds some trees. -/
def withHead (m : Machine) (bottom mark : Nat) (trees : List Tree) (state : State) : Machine :=
  ({ m with heads := m.heads ++ [⟨bottom, mark, .active, none⟩] } : Machine).pushAll
    m.heads.length trees state

@[simp] theorem length_withHead (m : Machine) (bottom mark : Nat) (trees : List Tree)
    (state : State) :
    (m.withHead bottom mark trees state).heads.length = m.heads.length + 1 := by
  rw [withHead, length_pushAll, List.length_append, List.length_singleton]

theorem getElem?_withHead (m : Machine) {n : Nat} (hn : n < m.heads.length) (bottom mark : Nat)
    (trees : List Tree) (state : State) :
    (m.withHead bottom mark trees state).heads[n]? = m.heads[n]? := by
  rw [withHead, getElem?_pushAll_ne _ (Nat.ne_of_lt hn), List.getElem?_append_left hn]

/-- A new head with trees that follow each other. -/
theorem Sound.withHead (hm : m.Sound source P x) {bottom stop : Nat} (hbottom : bottom < m.graph.size)
    (hopen : m.graph.Open bottom) (mark : Nat) {trees : List Tree}
    (htrees : Tree.Fits stop (m.graph.offset bottom) trees) (hstop : stop ≤ source.length)
    {state : State} (hstack : Stackable source.bytes state (m.graph.state bottom) trees)
    (hnew : P m.heads.length → Tree.stopAfter (m.graph.offset bottom) trees = x) :
    (m.withHead bottom mark trees state).Sound source P x ∧
      m.graph.Extends (m.withHead bottom mark trees state).graph := by
  -- While its trees are pushed the new head moves, so it is followed only afterwards.
  let Q : Nat → Prop := fun k => P k ∧ k ≠ m.heads.length
  have hgrown := (hm.weaken (Q := Q) fun k hk => hk.1).append
    (h := ⟨bottom, mark, .active, none⟩) (.of_active hbottom hopen rfl) fun hQ => absurd rfl hQ.2
  have hnewest : ∀ h, (m.heads ++ [(⟨bottom, mark, .active, none⟩ : Head)])[m.heads.length]? =
      some h → h = ⟨bottom, mark, .active, none⟩ := by
    intro h hh
    rw [List.getElem?_concat_length] at hh
    exact (Option.some.inj hh).symm
  have hlast : ({ m with heads := m.heads ++ [⟨bottom, mark, .active, none⟩] } : Machine).ReadyAt
      m.heads.length (m.graph.offset bottom) := fun h hh => by
    rw [hnewest h hh]
    exact ⟨rfl, rfl⟩
  obtain ⟨hsound, hready, hext⟩ := hgrown.pushAll (fun k hk => hk.2) hlast
    (fun h hh => by rw [hnewest h hh]) htrees hstop hstack
  refine ⟨hsound.follow fun k hP => ?_, hext⟩
  by_cases hk : k = m.heads.length
  · subst hk
    rw [← hnew hP]
    exact hready
  · exact hsound.ready k ⟨hP, hk⟩

/-! ### Merging -/

/-- Heads that can be merged stand at the same place, and the source goes on behind both. -/
theorem merge_of_mergeable {g : Graph} (hg : g.Sound source) {h k : Head} (hh : h.Sound source g)
    (hk : k.Sound source g) (hmerge : h.mergeable g k = true) :
    (g.merge h.top k.top).Sound source ∧ g.Extends (g.merge h.top k.top) := by
  simp only [Head.mergeable, Bool.and_eq_true] at hmerge
  obtain ⟨⟨-, hactive⟩, hsame⟩ := hmerge
  obtain ⟨hoffset, hstate⟩ := Graph.samePlace_of_mergeable hsame
  exact hg.merge hh.top_lt hoffset hstate (hk.opens hactive)

theorem Sound.merge? (hm : m.Sound source P x) {a b : Nat} {merged : Machine}
    (h : m.merge? a b = some merged)
    (hshift : ∀ i, b ≤ i → i + 1 < m.heads.length → P i → P (i + 1)) :
    merged.Sound source P x ∧ m.graph.Extends merged.graph ∧
      b < m.heads.length ∧ merged.heads.length + 1 = m.heads.length := by
  unfold Machine.merge? at h
  split at h
  · next k l ha hb =>
    split at h
    · next hmerge =>
      obtain rfl := Option.some.inj h
      have hk := hm.head ha
      obtain ⟨hgraph, hext⟩ := merge_of_mergeable hm.graph hk (hm.head hb) hmerge
      obtain ⟨hlt, -⟩ := List.getElem?_eq_some_iff.1 hb
      refine ⟨hm.update hgraph (fun j hj => ?_) fun i j hi hP => ?_, hext, hlt, ?_⟩
      · rcases List.mem_or_eq_of_mem_set (List.mem_of_mem_eraseIdx hj) with hj | rfl
        · exact (hm.heads j hj).later hext
        · exact (hk.later hext).congr rfl rfl
      -- Head `b` is gone, those behind it have moved up, and head `a` stands where it stood.
      · obtain ⟨i, hi, hP⟩ := getElem?_of_eraseIdx hi hP (by simpa using hshift)
        rw [List.getElem?_set] at hi
        split at hi
        · next hsame =>
          subst hsame
          split at hi
          · obtain rfl := Option.some.inj hi
            exact ((hm.ready a hP k ha).later hk hext).congr rfl rfl
          · cases hi
        · exact (hm.ready i hP j hi).later (hm.head hi) hext
      · simp only [List.length_eraseIdx, List.length_set, if_pos hlt]
        omega
    · cases h
  · cases h

/-- Merging changes nothing of the heads in between. -/
theorem getElem?_merge? {a b n : Nat} {merged : Machine} (h : m.merge? a b = some merged)
    (ha : n ≠ a) (hb : n < b) : merged.heads[n]? = m.heads[n]? := by
  unfold Machine.merge? at h
  split at h
  · split at h
    · obtain rfl := Option.some.inj h
      rw [List.getElem?_eraseIdx_of_lt hb, List.getElem?_set_ne ha.symm]
    · cases h
  · cases h

end Machine

end SyscallGuard
