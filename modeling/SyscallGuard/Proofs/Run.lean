import SyscallGuard.Parse.Run
import SyscallGuard.Proofs.Recovery

set_option autoImplicit false

/-! # Every tree is in order

The machine starts in order and every round keeps it so, whatever the source: the lexeme that a head
reads lies behind the head, the heads that come out of its reductions stand where it stood, and
condensing only merges heads that stand at the same place. The finished tree of a source is
therefore in order, valid or not (`Tree.ordered_of_parse?`), and the tree of a valid source is formed
by the grammar (`Tree.whole_of_parse?`). -/

namespace SyscallGuard

open Automaton (State Action Edge)

namespace Tree.Lookahead

variable {source : Bytes} {t : Tree}

/-- A token that is taken. -/
theorem linkReads (h : t.Lookahead source) {s target : State} {token : Token}
    (hlabel : t.label = .token token) (hedge : Edge s (.token token) target) :
    ¬ IsEnd (some t) ∧ LinkReads source s target (some t) := by
  have heof : t.label ≠ .token .eof := fun heof => by
    rw [hlabel] at heof
    exact hedge.checked.ne_eof heof
  refine ⟨?_, h.kept heof, fun _ => ⟨?_, fun _ => h.formed hlabel⟩⟩
  · rintro (hend | ⟨hend, -⟩)
    · exact heof hend
    · rw [hlabel] at hend
      cases hend
  · rw [if_neg fun hextra => heof (h.extra.1 hextra), hlabel]
    exact hedge

/-- A comment that is taken. -/
theorem linkReads_asExtra (h : t.Lookahead source) (hlabel : t.label = .token .comment) (s : State) :
    ¬ IsEnd (some t.asExtra) ∧ LinkReads source s s (some t.asExtra) := by
  have hlabel' : t.asExtra.label = .token .comment := hlabel
  refine ⟨?_, h.kept_asExtra hlabel, fun _ => ⟨rfl, fun _ => (h.formed hlabel).asExtra⟩⟩
  rintro (hend | ⟨hend, -⟩) <;> simp [hlabel'] at hend

end Tree.Lookahead

namespace Machine

variable {source : Input} {x : Nat} {P : Nat → Prop} {m : Machine}

/-! ## Advancing a head -/

/-- What has become of a head that stood at `x` is in order. The heads that came out of it are those
    from `base` on. -/
def Turn.Sound (source : Input) (n base x : Nat) : Turn → Prop
  | done m => m.Orderly source
  | reduced m new => m.Sound source (fun k => k = n ∨ base ≤ k) x ∧ base ≤ m.heads.length ∧
      ∀ k, new = some k → base ≤ k ∧ k < m.heads.length
  | stuck => True

/-- At the end of the source a head is done, if the source is complete. -/
theorem Sound.accept_eof {n : Nat} (hm : m.Sound source P x) (hn : P n)
    (hstate : m.InState n Automaton.acceptState) {eof : Tree} (hfollows : eof.Follows source x)
    (hlook : eof.Lookahead source.bytes) (heof : eof.label = .token .eof) :
    (Machine.accept source m n eof).Orderly source := by
  cases hhead : m.heads[n]? with
  | none =>
    rw [Machine.accept, pushOn_of_none hhead]
    simp only [hhead]
    exact hm.orderly
  | some h =>
    have hopen := (hm.head hhead).top_open (hm.going hn h hhead)
    exact Sound.accept hhead (hm.orderly.halt id) (fun _ => False.elim)
      (.inl ⟨hopen, hstate h hhead⟩) ((hm.ready n hn h hhead).offset_eq ▸ hfollows) hlook heof

theorem perform_sound {state : State} {actions : List Action} {n base : Nat} {lookahead : Tree}
    (hfollows : lookahead.Follows source x) (hlook : lookahead.Lookahead source.bytes)
    (hactions : ∀ a ∈ actions, ∃ t, lookahead.label = .token t ∧ a ∈ Automaton.actions state t)
    {turn : Turn} (hm : m.Sound source (fun k => k = n ∨ base ≤ k) x) (hstate : m.InState n state)
    (hbase : base ≤ m.heads.length) (hturn : turn.Sound source n base x)
    (hsame : ∀ now new, turn = .reduced now new → now = m) :
    (perform source n state lookahead actions m turn).Sound source n base x := by
  induction actions generalizing m turn with
  | nil => exact hturn
  | cons action rest ih =>
    have hready := hm.ready n (.inl rfl)
    have hrest := fun a ha => hactions a (List.mem_cons_of_mem action ha)
    obtain ⟨t, hlabel, haction⟩ := hactions action List.mem_cons_self
    cases action with
    | shift target repeats =>
      obtain ⟨hend, hreads⟩ := hlook.linkReads hlabel (Automaton.edge_of_shift haction)
      rw [perform]
      split
      · exact ih hrest hm hstate hbase hturn hsame
      · exact (hm.orderly.pushOn (fun _ => False.elim) hready hstate
          (fun t ht => Option.some.inj ht ▸ hfollows) hend hreads).1
    | shiftExtra =>
      obtain rfl := Automaton.eq_comment_of_shiftExtra haction
      obtain ⟨hend, hreads⟩ := hlook.linkReads_asExtra hlabel state
      have hextra : lookahead.asExtra.Follows source x :=
        ⟨hfollows.offset_le, (Tree.ordered_asExtra _).2 hfollows.ordered, hfollows.stop_le⟩
      exact (hm.orderly.pushOn (fun _ => False.elim) hready hstate
        (fun t ht => Option.some.inj ht ▸ hextra) hend hreads).1
    | accept =>
      obtain ⟨rfl, rfl⟩ := Automaton.state_of_accept haction
      exact hm.accept_eof (.inl rfl) hstate hfollows hlook hlabel
    | recover => exact (hm.weaken fun k hk => .inl hk).recover hfollows hlook
    | reduce r =>
      obtain ⟨hreduced, hgrows⟩ := hm.reduce (hm.going (.inl rfl)) ⟨state, t, hstate, haction⟩
        fun k _ _ => .inl rfl
      have hmore := hgrows.length_le
      -- Only the number of the first new head depends on the earlier actions.
      have hstep : ∀ earlier : Option Nat,
          (∀ k, earlier = some k → base ≤ k ∧ k < m.heads.length) →
          (perform source n state lookahead rest (Machine.reduce source m n r).1
            (.reduced (Machine.reduce source m n r).1
              ((Machine.reduce source m n r).2.orElse fun _ => earlier))).Sound source n base x := by
        intro earlier hearlier
        have hroom := Nat.le_trans hbase hmore
        refine ih hrest hreduced (hstate.later hm hgrows) hroom
          ⟨hreduced, hroom, fun k hk => ?_⟩ (by rintro _ _ ⟨⟩; rfl)
        cases hfirst : (Machine.reduce source m n r).2 with
        | some j =>
          rw [hfirst] at hk
          obtain ⟨hle, hlt⟩ := hgrows.new_lt k (hfirst.trans hk)
          exact ⟨Nat.le_trans hbase hle, hlt⟩
        | none =>
          rw [hfirst] at hk
          obtain ⟨hle, hlt⟩ := hearlier k hk
          exact ⟨hle, Nat.lt_of_lt_of_le hlt hmore⟩
      cases turn with
      | reduced old earlier =>
        obtain rfl := hsame old earlier rfl
        exact hstep earlier hturn.2.2
      | done _ => exact hstep none (by simp)
      | stuck => exact hstep none (by simp)

theorem follows_asName {lookahead : Tree} (h : lookahead.Follows source x) :
    (asName lookahead).Follows source x := by
  obtain ⟨info, kids⟩ := lookahead
  exact ⟨h.offset_le, by simpa only [asName, Tree.Ordered, Tree.info, Tree.kids] using h.ordered,
    h.stop_le⟩

/-- A keyword is also spelled as a name. -/
theorem lookahead_asName {source : Bytes} {lookahead : Tree} (h : lookahead.Lookahead source)
    (hword : lookahead.info.isWord = true) : (asName lookahead).Lookahead source where
  kids_eq := h.kids_eq
  label := .inr ⟨_, rfl⟩
  extra := iff_of_false (fun hextra => (h.word hword).2 (h.extra.1 hextra)) nofun
  spelled _ ht := Label.token.inj ht ▸ (h.word hword).1
  word _ := ⟨(h.word hword).1, nofun⟩

theorem label_of_tokenOf {lookahead : Tree} {t : Token} (h : tokenOf lookahead = some t) :
    lookahead.label = .token t := by
  unfold tokenOf at h
  split at h
  · next hlabel => exact hlabel.trans (congrArg _ (Option.some.inj h))
  · cases h

/-- What a state does with a lookahead is what it does with its token. -/
theorem exists_of_mem_actions {lookahead : Tree} {state : State} {a : Action}
    (h : a ∈ match tokenOf lookahead with
      | some t => Automaton.actions state t
      | none => []) :
    ∃ t, lookahead.label = .token t ∧ a ∈ Automaton.actions state t := by
  split at h
  · next t ht => exact ⟨t, label_of_tokenOf ht, h⟩
  · cases h

/-- A head takes a lookahead that fits on top, or stops at it. -/
theorem consume_orderly {n base fuel : Nat} {lookahead : Tree}
    (hfollows : lookahead.Follows source x) (hlook : lookahead.Lookahead source.bytes)
    (hm : m.Sound source (fun k => k = n ∨ base ≤ k) x) (hbase : base ≤ m.heads.length) :
    (consume source n fuel lookahead m).Orderly source := by
  induction fuel generalizing lookahead m with
  | zero => exact hm.orderly.halt id
  | succ fuel ih =>
    unfold consume
    split
    · exact hm.orderly
    · next h hhead =>
      have hr := hm.ready n (.inl rfl) h hhead
      have hturn := perform_sound hfollows hlook (fun a ha => exists_of_mem_actions ha) hm
        (inState_of_head hhead) hbase
        (show Turn.Sound source n base x .stuck from trivial) (by simp)
      simp only
      split
      · next now heq => exact (heq ▸ hturn : Turn.Sound source n base x (.done now))
      · next now new heq =>
        obtain ⟨hsound, hroom, hnew⟩ : Turn.Sound source n base x (.reduced now (some new)) :=
          heq ▸ hturn
        -- The new head takes the number of the old one and reads the same lookahead.
        obtain ⟨hle, hlt⟩ := hnew new rfl
        have hmoved := length_le_moveTo now new n
        exact ih hfollows hlook (hsound.moveTo (fun _ => .inr hle) fun i hi _ _ => .inr (by omega))
          (by omega)
      · next now heq =>
        obtain ⟨hsound, -, -⟩ : Turn.Sound source n base x (.reduced now none) := heq ▸ hturn
        exact hsound.orderly.halt id
      · split
        · next hname =>
          simp only [Bool.and_eq_true] at hname
          exact ih (follows_asName hfollows) (lookahead_asName hlook hname.1.1) hm hbase
        · refine hm.orderly.modify n (fun k hk => ?_) fun _ _ => False.elim
          obtain rfl : h = k := Option.some.inj (hhead.symm.trans hk)
          have hs := hm.head hhead
          refine ⟨hs.top_lt, fun _ => hs.opens hr.going, ?_⟩
          rintro t ⟨⟩
          rw [hr.offset_eq]
          exact ⟨hfollows, hlook⟩

/-- The lexeme that a head reads lies behind the head. -/
theorem readingFor_within (hm : m.Orderly source) (state : State) {offset : Nat}
    (hoffset : offset ≤ source.length) :
    (readingFor source m state offset).lexeme.Within source.length ∧
      (readingFor source m state offset).lexeme.Spelled source.bytes ∧
      (readingFor source m state offset).lexeme.lead = offset := by
  have hnext : (Reading.next source state offset).lexeme.Within source.length ∧
      (Reading.next source state offset).lexeme.Spelled source.bytes ∧
      (Reading.next source state offset).lexeme.lead = offset :=
    ⟨Lexeme.next_within source state hoffset, Lexeme.next_spelled source state hoffset,
      Lexeme.next_lead source state offset⟩
  unfold readingFor
  split
  · next r hlast =>
    split
    · next hserves =>
      refine ⟨(hm.last r hlast).1, (hm.last r hlast).2, ?_⟩
      unfold Reading.serves at hserves
      split at hserves
      · cases hserves
      · simp only [Bool.and_eq_true, beq_iff_eq] at hserves
        exact hserves.1.1
    · exact hnext
  · exact hnext

theorem follows_ofLexeme {l : Lexeme} (h : l.Within source.length) (hlead : l.lead = x) :
    (Tree.ofLexeme l).Follows source x :=
  ⟨hlead ▸ h.lead_le, ⟨h.start_le, h.start_le⟩, h.stop_le⟩

theorem lookahead_ofLexeme {source : Bytes} {l : Lexeme} (h : l.Spelled source) :
    (Tree.ofLexeme l).Lookahead source := by
  obtain ⟨token, lead, start, stop, isWord⟩ := l
  cases token with
  | none => exact ⟨rfl, .inl rfl, iff_of_false nofun nofun, nofun, fun hw => ⟨(h.word hw).1, nofun⟩⟩
  | some t =>
    refine ⟨rfl, .inr ⟨t, rfl⟩, ?_, fun u hu => h.token u (congrArg some (Label.token.inj hu)),
      fun hw => ⟨(h.word hw).1, fun heof => (h.word hw).2 (congrArg some (Label.token.inj heof))⟩⟩
    simp [Tree.ofLexeme, Tree.extra, Tree.label, Tree.info]

theorem advance_orderly {n : Nat} (hm : m.Orderly source)
    (hactive : ∀ h, m.heads[n]? = some h → h.isActive = true) :
    (advance source m n).Orderly source := by
  unfold advance
  split
  · exact hm
  · next h hhead =>
    obtain ⟨hwithin, hspelled, hlead⟩ :=
      readingFor_within hm (m.topOf h).state (hm.graph.offset_le h.top)
    have hread : ({ m with last := some (readingFor source m (m.topOf h).state (m.topOf h).offset) } :
        Machine).Sound source (fun k => k = n ∨ m.heads.length ≤ k) (m.graph.offset h.top) := by
      refine { hm with last := ?_, ready := ?_ }
      · rintro r ⟨⟩
        exact ⟨hwithin, hspelled⟩
      · rintro k (rfl | hk) g hg
        · obtain rfl : h = g := Option.some.inj (hhead.symm.trans hg)
          exact ⟨hactive h hhead, rfl⟩
        · obtain ⟨hlt, -⟩ := List.getElem?_eq_some_iff.1 hg
          have : k < m.heads.length := hlt
          omega
    exact consume_orderly (follows_ofLexeme hwithin hlead) (lookahead_ofLexeme hspelled) hread
      (Nat.le_refl _)

theorem advanceHead_orderly (n : Nat) {fuel far : Nat} (hm : m.Orderly source) :
    (advanceHead source n fuel far m).1.Orderly source := by
  induction fuel generalizing far m with
  | zero => exact hm
  | succ fuel ih =>
    unfold advanceHead
    split
    · exact hm
    · next h hhead =>
      split
      · exact hm
      · next hactive =>
        have hadvanced := advance_orderly hm fun g hg => by
          obtain rfl : h = g := Option.some.inj (hhead.symm.trans hg)
          simpa using hactive
        simp only
        split
        · exact hadvanced
        · exact ih hadvanced

theorem advanceAll_orderly {fuel n far : Nat} (hm : m.Orderly source) :
    (advanceAll source fuel n far m).1.Orderly source := by
  induction fuel generalizing n far m with
  | zero => exact hm
  | succ fuel ih =>
    have hadvanced : (advanceHead source n (2 * source.length + 64) far m).1.Orderly source :=
      advanceHead_orderly n hm
    unfold advanceAll
    split
    · exact ih hadvanced
    · exact hm

/-! ## Condensing -/

/-- Heads in a graph after some of them were compared and merged. -/
theorem place_sound (mine : Standing) {g : Graph} {kept : List Head} {h : Head}
    (hg : g.Sound source) (hkept : ∀ k ∈ kept, k.Sound source g) (hh : h.Sound source g) :
    (place mine g kept h).1.Sound source ∧ g.Extends (place mine g kept h).1 ∧
      (∀ k ∈ (place mine g kept h).2.1, k.Sound source (place mine g kept h).1) ∧
      ∀ k, (place mine g kept h).2.2 = some k → k.Sound source (place mine g kept h).1 := by
  induction kept generalizing g h with
  | nil => exact ⟨hg, .refl g, by simp [place], by rintro k ⟨⟩; exact hh⟩
  | cons first rest ih =>
    have hfirst := hkept first List.mem_cons_self
    have hrest := fun k hk => hkept k (List.mem_cons_of_mem first hk)
    have hmerged : first.mergeable g h = true →
        (g.merge first.top h.top).Sound source ∧ g.Extends (g.merge first.top h.top) ∧
        ∀ k ∈ first.merged (g.merge first.top h.top) :: rest,
          k.Sound source (g.merge first.top h.top) := by
      intro hmerge
      obtain ⟨hsound, hext⟩ := merge_of_mergeable hg hfirst hh hmerge
      refine ⟨hsound, hext, fun k hk => ?_⟩
      rcases List.mem_cons.1 hk with rfl | hk
      · exact (hfirst.later hext).congr rfl rfl
      · exact (hrest k hk).later hext
    -- A head that is kept in front of the place found for another.
    have hbehind : ∀ front other : Head, front.Sound source g → other.Sound source g →
        (place mine g rest other).1.Sound source ∧ g.Extends (place mine g rest other).1 ∧
        (∀ k ∈ front :: (place mine g rest other).2.1, k.Sound source (place mine g rest other).1) ∧
        ∀ k, (place mine g rest other).2.2 = some k → k.Sound source (place mine g rest other).1 := by
      intro front other hfront hother
      obtain ⟨hsound, hext, hplaced, hleft⟩ := ih hg hrest hother
      refine ⟨hsound, hext, fun k hk => ?_, hleft⟩
      rcases List.mem_cons.1 hk with rfl | hk
      · exact hfront.later hext
      · exact hplaced k hk
    unfold place
    simp only
    split
    · exact ⟨hg, .refl g, hkept, by simp⟩
    · exact ih hg hrest hh
    · split
      · next hmerge =>
        obtain ⟨hsound, hext, hheads⟩ := hmerged hmerge
        exact ⟨hsound, hext, hheads, by simp⟩
      · exact hbehind h first hh hfirst
    · split
      · next hmerge =>
        obtain ⟨hsound, hext, hheads⟩ := hmerged hmerge
        exact ⟨hsound, hext, hheads, by simp⟩
      · exact hbehind first h hfirst hh

theorem sortHeads_sound (least : Option Nat) {heads kept : List Head} {g : Graph}
    (hg : g.Sound source) (hheads : ∀ h ∈ heads, h.Sound source g)
    (hkept : ∀ k ∈ kept, k.Sound source g) :
    (sortHeads heads g kept least).1.Sound source ∧
      ∀ k ∈ (sortHeads heads g kept least).2.1, k.Sound source (sortHeads heads g kept least).1 := by
  induction heads generalizing least g kept with
  | nil => exact ⟨hg, hkept⟩
  | cons h rest ih =>
    have hrest := fun k hk => hheads k (List.mem_cons_of_mem h hk)
    unfold sortHeads
    split
    · exact ih least hg hrest hkept
    · have hh : (h.settle g).Sound source g := (hheads h List.mem_cons_self).congr rfl rfl
      obtain ⟨hsound, hext, hplaced, hleft⟩ := place_sound (standing g (h.settle g)) hg hkept hh
      simp only
      refine ih _ hsound (fun k hk => (hrest k hk).later hext) fun k hk => ?_
      rcases List.mem_append.1 hk with hk | hk
      · exact hplaced k hk
      · exact hleft k (Option.mem_toList.1 hk)

theorem resume_orderly {count n : Nat} {going : Bool} {least : Option Nat}
    (hm : m.Orderly source) : (resume source count n going least m).1.Orderly source := by
  induction count generalizing n going least m with
  | zero => exact hm
  | succ count ih =>
    unfold resume
    split
    · exact hm
    · next h hhead =>
      split
      · next lookahead hstatus =>
        split
        · have hs := hm.head hhead
          obtain ⟨hlt, -⟩ := List.getElem?_eq_some_iff.1 hhead
          have hopen := hs.top_open (by rw [Head.isHalted, hstatus])
          obtain ⟨hfollows, hlook⟩ := hs.paused lookahead hstatus
          have hchanged : (m.modify n fun h => { h with status := .active }).Orderly source := by
            refine hm.modify n (fun k hk => ?_) fun _ _ => False.elim
            obtain rfl : h = k := Option.some.inj (hhead.symm.trans hk)
            exact .of_active hs.top_lt hopen rfl
          have hactive : (m.modify n fun h => { h with status := .active }).Sound source (· = n)
              (m.graph.offset h.top) := by
            refine hchanged.follow ?_
            rintro k rfl g hg
            rw [Machine.modify, List.getElem?_modify, hhead] at hg
            obtain rfl : { h with status := .active } = g := by simpa using hg
            exact ⟨rfl, rfl⟩
          refine ih (hactive.meetFault ?_ hfollows hlook)
          simpa [Machine.modify] using hlt
        · exact ih (hm.remove fun _ _ _ => False.elim)
      · exact ih hm

theorem condense_orderly (hm : m.Orderly source) :
    (condense source m).1.Orderly source := by
  have hnone : ∀ k ∈ ([] : List Head), k.Sound source m.graph := by simp
  obtain ⟨hgraph, hheads⟩ := sortHeads_sound none hm.graph hm.heads hnone
  unfold condense
  exact resume_orderly (hm.update hgraph (fun h hh => hheads h (List.mem_of_mem_take hh))
    fun _ _ _ => False.elim)

/-! ## The whole parse -/

theorem rounds_orderly {fuel far : Nat} (hm : m.Orderly source) :
    (rounds source fuel far m).Orderly source := by
  induction fuel generalizing far m with
  | zero => exact hm
  | succ fuel ih =>
    have hround : (condense source (advanceAll source (source.length + 64) 0 far m).1).1.Orderly
        source := condense_orderly (advanceAll_orderly hm)
    have hboth : ∀ settled : Bool,
        (if settled then (condense source (advanceAll source (source.length + 64) 0 far m).1).1
          else rounds source fuel (advanceAll source (source.length + 64) 0 far m).2
            (condense source (advanceAll source (source.length + 64) 0 far m).1).1).Orderly
          source := by
      intro settled
      cases settled with
      | true => exact hround
      | false => exact ih hround
    exact hboth _

theorem orderly_initial (source : Input) : initial.Orderly source where
  graph := Graph.sound_initial source
  heads h hh := by
    obtain rfl := List.mem_singleton.1 hh
    exact .of_active Nat.zero_lt_one nofun rfl
  finished t ht := by cases ht
  last r hr := by cases hr
  ready _ := False.elim

end Machine

theorem Tree.finished_of_parse? {source : Bytes} {t : Tree} (h : Tree.parse? source = some t) :
    t.Ordered ∧ t.stop ≤ source.length ∧ (t.cost = 0 → t.Whole source) := by
  unfold Tree.parse? at h
  have hrun : (Machine.rounds (Input.ofBytes source) (Machine.roundsFor (Input.ofBytes source)) 0
      Machine.initial).Orderly _ := Machine.rounds_orderly (Machine.orderly_initial _)
  have hfinished := hrun.finished t h
  rwa [Input.length_eq] at hfinished

/-- **The tree of a source is in order** and lies within the source, valid or not. -/
theorem Tree.ordered_of_parse? {source : Bytes} {t : Tree} (h : Tree.parse? source = some t) :
    t.Ordered ∧ t.stop ≤ source.length :=
  ⟨(finished_of_parse? h).1, (finished_of_parse? h).2.1⟩

/-- **The tree of a valid source is formed by the grammar.** -/
theorem Tree.whole_of_parse? {source : Bytes} {t : Tree} (h : Tree.parse? source = some t)
    (hcost : t.cost = 0) : t.Whole source :=
  (finished_of_parse? h).2.2 hcost

end SyscallGuard
