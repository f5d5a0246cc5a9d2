import SyscallGuard.Proofs.Coordinates

set_option autoImplicit false

/-! # Guards and scopes

A guard is put in front of the line that a statement begins on, whatever else stands on that line. So
it need not stand in the scope of its statement: the line may begin outside of the function body, in
another branch or in front of the condition on which the statement is run. This says exactly when
(`Parsed.guard_in_scope_iff`): the scopes differ if and only if one of the bodies of the source is
entered or left between the beginning of the line and the statement. A statement that comes first on
its line is never parted from its guard.

A *body* is a part of a node: it begins behind a certain child and lasts until the node ends. The
*scope* of an offset is the innermost body around it. Bodies are nested, since nodes in order either
stand apart or lie one above the other (`Node.Ordered.prefix_or_prefix`), so that offsets with the
same innermost body have all their bodies in common (`Node.Ordered.scopeAt?_eq_iff`). -/

namespace SyscallGuard

open Bytes (isSpace newline)

/-! ## Bodies -/

/-- The sign or keyword behind which the body of a node begins. What stands there is run on a
    condition of its own: statements in braces, the clauses of a switch or select statement, the
    statements of such a clause, what is behind `else`, and what a loop does before it starts again. -/
def Kind.opener? : Kind → Option Token
  | .phrase .block | .phrase .expressionSwitchStatement | .phrase .typeSwitchStatement
  | .phrase .selectStatement => some .lbrace
  | .phrase .expressionCase | .phrase .typeCase | .phrase .communicationCase
  | .phrase .defaultCase => some .colon
  | .phrase .ifStatement => some .kwElse
  | .phrase .forClause => some .semicolon
  | _ => none

/-- Only phrases have bodies, and they neither begin nor end with white space. -/
theorem Kind.of_opener? {k : Kind} {t : Token} (h : k.opener? = some t) :
    t.isTextual = false ∧ ∃ p, k = .phrase p ∧ p.isLoose = false := by
  unfold opener? at h
  split at h <;> first
    | exact ⟨by cases h; rfl, _, rfl, rfl⟩
    | cases h

namespace Node

/-- Where the body of a node begins: behind the last child that can open it. -/
def bodyStart? (n : Node) : Option Nat :=
  n.kind.opener?.bind fun t => (n.children.filter fun c => c.kind == .token t).getLast?.map stop

/-- Whether an offset lies in the body of a node. -/
def encloses (n : Node) (x : Nat) : Bool := n.bodyStart?.any (· ≤ x) && x < n.stop

/-- The scope of an offset: the path of the innermost node whose body it lies in. -/
def scopeAt? (root : Node) (x : Nat) : Option (List Nat) :=
  (root.walk.filter fun e => e.2.encloses x).getLast?.map Prod.fst

/-- A body is entered or left between two offsets. -/
def Parts (n : Node) (x y : Nat) : Prop :=
  ∃ start, n.bodyStart? = some start ∧
    (x < start ∧ start ≤ y ∧ y < n.stop ∨ start ≤ x ∧ x < n.stop ∧ n.stop ≤ y)

variable {root n m a b : Node} {p q : List Nat} {x y : Nat}

theorem exists_of_bodyStart? (h : n.bodyStart? = some x) :
    ∃ (t : Token) (i : Nat) (c : Node), n.kind.opener? = some t ∧ n.children[i]? = some c ∧
      c.kind = .token t ∧ c.stop = x := by
  obtain ⟨t, ht, hbody⟩ := Option.bind_eq_some_iff.1 h
  obtain ⟨c, hlast, hstop⟩ := Option.map_eq_some_iff.1 hbody
  obtain ⟨hmem, hkind⟩ := List.mem_filter.1 (List.mem_of_getLast? hlast)
  obtain ⟨i, hc⟩ := List.mem_iff_getElem?.1 hmem
  exact ⟨t, i, c, ht, hc, eq_of_beq hkind, hstop⟩

theorem encloses_iff : n.encloses x = true ↔ ∃ start, n.bodyStart? = some start ∧
    start ≤ x ∧ x < n.stop := by
  rw [encloses, Bool.and_eq_true, Option.any_eq_true, decide_eq_true_eq]
  simp only [decide_eq_true_eq]
  exact ⟨fun ⟨⟨start, h, hle⟩, hlt⟩ => ⟨start, h, hle, hlt⟩,
    fun ⟨start, h, hle, hlt⟩ => ⟨⟨start, h, hle⟩, hlt⟩⟩

/-- A body parts two offsets if and only if it encloses exactly one of them. -/
theorem encloses_eq_iff (h : x ≤ y) : n.encloses x = n.encloses y ↔ ¬n.Parts x y := by
  rw [Bool.eq_iff_iff, encloses_iff, encloses_iff, Parts]
  cases n.bodyStart? with
  | none => simp
  | some start =>
    simp only [Option.some.injEq, exists_eq_left']
    omega

/-- A body lies in its node. -/
theorem Ordered.start_le_of_encloses (hn : n.Ordered) (h : n.encloses x = true) :
    n.start ≤ x ∧ x < n.stop := by
  obtain ⟨start, hstart, hle, hlt⟩ := encloses_iff.1 h
  obtain ⟨-, i, c, -, hc, -, rfl⟩ := exists_of_bodyStart? hstart
  have hmem := preorder_subset_of_mem_children (List.mem_of_getElem? hc) c.mem_preorder_self
  obtain ⟨hlow, -, hcle⟩ := preorder_between hn c hmem
  exact ⟨Nat.le_trans hlow (Nat.le_trans hcle hle), hlt⟩

/-! ## Nested bodies -/

/-- Nodes around one offset lie one above the other. -/
theorem Ordered.prefix_or_prefix (hn : n.Ordered) (ha : n.at? p = some a) (hb : n.at? q = some b)
    (hxa : a.start ≤ x ∧ x < a.stop) (hxb : b.start ≤ x ∧ x < b.stop) : p <+: q ∨ q <+: p := by
  induction p generalizing n q with
  | nil => exact .inl List.nil_prefix
  | cons i p ih =>
    cases q with
    | nil => exact .inr List.nil_prefix
    | cons j q =>
      obtain ⟨c, hc, ha⟩ := Option.bind_eq_some_iff.1 ha
      obtain ⟨d, hd, hb⟩ := Option.bind_eq_some_iff.1 hb
      have hc' := hn.fits.ordered (List.mem_of_getElem? hc)
      have hd' := hn.fits.ordered (List.mem_of_getElem? hd)
      obtain ⟨halow, hahigh, -⟩ := preorder_between hc' a (mem_preorder_iff.2 ⟨p, ha⟩)
      obtain ⟨hblow, hbhigh, -⟩ := preorder_between hd' b (mem_preorder_iff.2 ⟨q, hb⟩)
      rcases Nat.lt_trichotomy i j with hij | rfl | hij
      · have hapart := hn.stop_le_start hc hd hij
        omega
      · obtain rfl := Option.some.inj (hc.symm.trans hd)
        simpa [List.cons_prefix_cons] using ih hc' ha hb
      · have hapart := hn.stop_le_start hd hc hij
        omega

/-- A body around an offset of a body below it is around all of that body. -/
theorem Ordered.encloses_of_encloses (ha : a.Ordered) (hb : a.at? p = some b)
    (hax : a.encloses x = true) (hbx : b.encloses x = true) (hby : b.encloses y = true) :
    a.encloses y = true := by
  cases p with
  | nil =>
    obtain rfl := Option.some.inj hb
    exact hby
  | cons i p =>
    obtain ⟨c, hc, hb⟩ := Option.bind_eq_some_iff.1 hb
    obtain ⟨start, hstart, hle, -⟩ := encloses_iff.1 hax
    obtain ⟨-, j, o, -, ho, -, rfl⟩ := exists_of_bodyStart? hstart
    have hordered := ha.fits.ordered (List.mem_of_getElem? hc)
    obtain ⟨hlow, hhigh, -⟩ := preorder_between hordered b (mem_preorder_iff.2 ⟨p, hb⟩)
    obtain ⟨hxlow, hxhigh⟩ := (hordered.at? hb).start_le_of_encloses hbx
    obtain ⟨hylow, hyhigh⟩ := (hordered.at? hb).start_le_of_encloses hby
    have hcstop := (preorder_between ha c (preorder_subset_of_mem_children
      (List.mem_of_getElem? hc) c.mem_preorder_self)).2.1
    have hostop := (ha.fits.ordered (List.mem_of_getElem? ho)).start_le
    refine encloses_iff.2 ⟨o.stop, hstart, ?_, by omega⟩
    -- The child that `b` is in ends behind `x`, so it stands behind the one that opens the body.
    rcases Nat.lt_trichotomy i j with hij | rfl | hij
    · have hapart := ha.stop_le_start hc ho hij
      omega
    · obtain rfl := Option.some.inj (hc.symm.trans ho)
      omega
    · have hapart := ha.stop_le_start ho hc hij
      omega

theorem scopeAt?_eq_some (h : root.scopeAt? x = some p) :
    ∃ m, root.at? p = some m ∧ m.encloses x = true ∧
      ∀ q n, root.at? q = some n → n.encloses x = true → ¬p < q := by
  obtain ⟨⟨p, m⟩, hlast, rfl⟩ := Option.map_eq_some_iff.1 h
  obtain ⟨front, hfilter⟩ := List.getLast?_eq_some_iff.1 hlast
  have hmem : ∀ e, e ∈ front ++ [(p, m)] ↔ root.at? e.1 = some e.2 ∧ e.2.encloses x = true := by
    intro e
    rw [← hfilter, List.mem_filter, ← mem_walk]
  have hsorted := (walk_sorted root).filter fun e => e.2.encloses x
  rw [hfilter, List.pairwise_append] at hsorted
  obtain ⟨hm, hx⟩ := (hmem (p, m)).1 (by simp)
  refine ⟨m, hm, hx, fun q n hq hn => ?_⟩
  rcases List.mem_append.1 ((hmem (q, n)).2 ⟨hq, hn⟩) with h | h
  · exact List.lt_asymm (hsorted.2.2 _ h _ List.mem_cons_self)
  · obtain ⟨rfl, -⟩ := Prod.mk.inj (List.mem_singleton.1 h)
    exact List.lt_irrefl _

/-- The innermost body is below every other body around the same offset. -/
theorem Ordered.prefix_of_scopeAt? (hroot : root.Ordered) (h : root.scopeAt? x = some p)
    (hq : root.at? q = some n) (hn : n.encloses x = true) : q <+: p := by
  obtain ⟨m, hm, hx, hlast⟩ := scopeAt?_eq_some h
  rcases hroot.prefix_or_prefix hq hm ((hroot.at? hq).start_le_of_encloses hn)
    ((hroot.at? hm).start_le_of_encloses hx) with hprefix | ⟨more, rfl⟩
  · exact hprefix
  · cases more with
    | nil => rw [List.append_nil]
    | cons i more =>
      -- A longer path comes later in the walk.
      have hlt : p < p ++ i :: more := by
        simpa using List.Lex.append_left (· < ·) (List.Lex.nil (a := i) (l := more)) p
      exact absurd hlt (hlast _ n hq hn)

theorem exists_scopeAt? (hq : root.at? q = some n) (hn : n.encloses x = true) :
    ∃ p, root.scopeAt? x = some p := by
  have hmem : (q, n) ∈ root.walk.filter fun e => e.2.encloses x :=
    List.mem_filter.2 ⟨mem_walk.2 hq, hn⟩
  exact ⟨_, by rw [scopeAt?, List.getLast?_eq_some_getLast (List.ne_nil_of_mem hmem)]; rfl⟩

theorem Ordered.encloses_of_scopeAt?_eq (hroot : root.Ordered)
    (h : root.scopeAt? x = root.scopeAt? y) (hb : b ∈ root.preorder) (hx : b.encloses x = true) :
    b.encloses y = true := by
  obtain ⟨q, hq⟩ := mem_preorder_iff.1 hb
  obtain ⟨p, hp⟩ := exists_scopeAt? hq hx
  obtain ⟨m, hm, hmx, -⟩ := scopeAt?_eq_some hp
  obtain ⟨m', hm', hmy, -⟩ := scopeAt?_eq_some (h ▸ hp)
  obtain rfl := Option.some.inj (hm.symm.trans hm')
  obtain ⟨below, rfl⟩ := hroot.prefix_of_scopeAt? hp hq hx
  rw [at?_append, hq] at hm
  exact (hroot.at? hq).encloses_of_encloses hm hx hmx hmy

/-- **One scope**: offsets have the same innermost body if and only if they lie in the same bodies. -/
theorem Ordered.scopeAt?_eq_iff (hroot : root.Ordered) :
    root.scopeAt? x = root.scopeAt? y ↔ ∀ b ∈ root.preorder, b.encloses x = b.encloses y := by
  constructor
  · intro h b hb
    rw [Bool.eq_iff_iff]
    exact ⟨hroot.encloses_of_scopeAt?_eq h hb, hroot.encloses_of_scopeAt?_eq h.symm hb⟩
  · intro h
    rw [scopeAt?, scopeAt?]
    congr 2
    refine List.filter_congr fun e he => h e.2 ?_
    rw [← map_snd_walk]
    exact List.mem_map_of_mem he

end Node

/-! ## Where a line begins -/

/-- The first offset of the line that an offset is on. -/
def lineStart (source : Bytes) (offset : Nat) : Nat :=
  offset - (lastLine (source.take offset)).length

theorem lastLine_suffix (text : Bytes) : lastLine text <:+ text := by
  have h := List.reverse_suffix.2 (List.takeWhile_prefix (l := text.reverse) (· != newline))
  rwa [List.reverse_reverse] at h

section LineStart

variable {source : Bytes} {offset i y : Nat}

/-- The text in front of an offset: the lines before, and its own line up to there. -/
theorem exists_take_eq (h : offset ≤ source.length) :
    ∃ front, source.take offset = front ++ lastLine (source.take offset) ∧
      front = source.take (lineStart source offset) ∧ front.length = lineStart source offset := by
  obtain ⟨front, hfront⟩ := lastLine_suffix (source.take offset)
  have hlength := congrArg List.length hfront
  rw [List.length_append, List.length_take_of_le h] at hlength
  have hstart : front.length = lineStart source offset := by
    rw [lineStart]
    omega
  have hprefix : front <+: source :=
    List.IsPrefix.trans ⟨_, hfront⟩ (List.take_prefix offset source)
  exact ⟨front, hfront.symm, hstart ▸ List.prefix_iff_eq_take.1 hprefix, hstart⟩

/-- A line begins in its first column. -/
theorem point_lineStart (h : offset ≤ source.length) :
    lineOf source (lineStart source offset) = lineOf source offset ∧
      columnOf source (lineStart source offset) = 1 := by
  obtain ⟨front, htake, hfront, -⟩ := exists_take_eq h
  have hnone := newline_not_mem_lastLine (source.take offset)
  have hlast := lastLine_append hnone front
  rw [← htake, List.self_eq_append_left] at hlast
  rw [lineOf, lineOf, columnOf, ← hfront, hlast, htake, List.count_append,
    List.count_eq_zero_of_not_mem hnone]
  exact ⟨rfl, rfl⟩

/-- What stands between the beginning of a line and an offset on it. -/
theorem exists_mem_lastLine (h : offset ≤ source.length) (hle : lineStart source offset ≤ i)
    (hlt : i < offset) : ∃ b ∈ lastLine (source.take offset), source[i]? = some b := by
  obtain ⟨front, htake, -, hlength⟩ := exists_take_eq h
  obtain ⟨b, hb⟩ : ∃ b, source[i]? = some b := ⟨_, List.getElem?_eq_getElem (by omega)⟩
  refine ⟨b, ?_, hb⟩
  rw [← List.getElem?_take_of_lt hlt, htake, List.getElem?_append_right (hlength ▸ hle)] at hb
  exact List.mem_of_getElem? hb

/-- Nothing ends in the white space that a line begins with. -/
theorem not_stop_of_blank (h : offset < source.length)
    (hblank : ∀ b ∈ lastLine (source.take offset), isSpace b = true)
    (hy : y = source.length ∨ ∃ b, source[y - 1]? = some b ∧ (isSpace b = false ∨ b = newline)) :
    ¬(lineStart source offset < y ∧ y ≤ offset) := by
  rintro ⟨hlow, hhigh⟩
  obtain rfl | ⟨b, hb, hends⟩ := hy
  · omega
  · obtain ⟨b', hmem, hb'⟩ := exists_mem_lastLine (Nat.le_of_lt h)
      (show lineStart source offset ≤ y - 1 by omega) (by omega)
    obtain rfl := Option.some.inj (hb.symm.trans hb')
    rcases hends with hspace | rfl
    · rw [hblank b hmem] at hspace
      cases hspace
    · exact newline_not_mem_lastLine _ hmem

end LineStart

/-! ## Guards -/

namespace Parsed

variable {source : Bytes} {p : Parsed}

/-- Bodies begin and end behind a byte that is no white space, or with a line. -/
theorem closes_of_bodyStart? (h : strict source = .ok p) {b : Node} (hb : b ∈ p.root.preorder)
    {start : Nat} (hstart : b.bodyStart? = some start) : ∀ y, y = start ∨ y = b.stop →
      y = source.length ∨ ∃ c, source[y - 1]? = some c ∧ (isSpace c = false ∨ c = newline) := by
  obtain ⟨t, i, c, ht, hc, hkind, rfl⟩ := Node.exists_of_bodyStart? hstart
  obtain ⟨htextual, phrase, hphrase, hloose⟩ := Kind.of_opener? ht
  rintro y (rfl | rfl)
  · have hmem : c ∈ p.root.preorder := by
      obtain ⟨path, hpath⟩ := Node.mem_preorder_iff.1 hb
      refine Node.mem_preorder_iff.2 ⟨path ++ [i], ?_⟩
      simp [Node.at?_append, hpath, Node.at?, hc]
    obtain ⟨u, hu⟩ := shows_of_strict h hmem (by rw [hkind]; nofun)
    exact hu.closes_token hkind htextual
  · obtain ⟨u, hu⟩ := shows_of_strict h hb (by
      rw [hphrase]
      rintro ⟨⟩
      cases hloose)
    exact hu.closes hphrase hloose

/-- **Guards and scopes**: the guard of a statement stands at the beginning of the statement's line,
    and it is in the scope of the statement if and only if no body is entered or left in between. So
    it is where nothing but white space stands in between. -/
theorem guard_in_scope_iff (h : strict source = .ok p) {n : Node} (hn : n ∈ p.root.preorder)
    {s : Site} (hs : s ∈ Site.ofStatement source n) :
    (lineOf source (lineStart source n.start) = lineOf source n.start ∧
      columnOf source (lineStart source n.start) = 1) ∧
    (p.root.scopeAt? (lineStart source n.start) = p.root.scopeAt? n.start ↔
      ∀ b ∈ p.root.preorder, ¬b.Parts (lineStart source n.start) n.start) ∧
    ((∀ c ∈ lastLine (source.take n.start), isSpace c = true) →
      p.root.scopeAt? (lineStart source n.start) = p.root.scopeAt? n.start) := by
  obtain ⟨c, hc, -⟩ := opens_of_mem_ofStatement h hn hs
  have hlength : n.start < source.length := (List.getElem?_eq_some_iff.1 hc).1
  have hiff : p.root.scopeAt? (lineStart source n.start) = p.root.scopeAt? n.start ↔
      ∀ b ∈ p.root.preorder, ¬b.Parts (lineStart source n.start) n.start := by
    rw [(root_ordered_of_strict h).1.scopeAt?_eq_iff]
    exact forall₂_congr fun b _ => Node.encloses_eq_iff (Nat.sub_le _ _)
  refine ⟨point_lineStart (Nat.le_of_lt hlength), hiff, fun hblank => hiff.2 fun b hb hparts => ?_⟩
  obtain ⟨start, hstart, hparts⟩ := hparts
  have hends := closes_of_bodyStart? h hb hstart
  rcases hparts with ⟨hlow, hhigh, -⟩ | ⟨-, hlow, hhigh⟩
  · exact not_stop_of_blank hlength hblank (hends start (.inl rfl)) ⟨hlow, hhigh⟩
  · exact not_stop_of_blank hlength hblank (hends b.stop (.inr rfl)) ⟨hlow, hhigh⟩

set_option maxRecDepth 100000 in
theorem runs?_parted :
    ((runs? (Bytes.ofString "func f()\x7bSyscall()\n\tSyscall()\x7d\n")).any fun r =>
      (r.1.root.preorder.any fun n => (Site.ofStatement r.1.source n).any fun s =>
        (s, .inserted 0) ∈ (injectGuards r.1.source r.1.sites).outcomes
          && r.1.root.scopeAt? (lineStart r.1.source n.start) ≠ r.1.root.scopeAt? n.start)
        && (r.1.root.preorder.any fun n => (Site.ofStatement r.1.source n).any fun s =>
          (s, .inserted 2) ∈ (injectGuards r.1.source r.1.sites).outcomes
            && (lastLine (r.1.source.take n.start)).all isSpace)) = true := by
  decide +kernel

/-- A function begins on a line with its first statement, and its second statement has a line of its
    own. -/
theorem guard_in_scope_iff_two_lines : ∃ (source : Bytes) (p : Parsed), strict source = .ok p ∧
    (∃ n ∈ p.root.preorder, ∃ s ∈ Site.ofStatement source n,
      (s, .inserted 0) ∈ (injectGuards source p.sites).outcomes ∧
      ∃ b ∈ p.root.preorder, b.Parts (lineStart source n.start) n.start) ∧
    ∃ n ∈ p.root.preorder, ∃ s ∈ Site.ofStatement source n,
      (s, .inserted 2) ∈ (injectGuards source p.sites).outcomes ∧
      (∀ c ∈ lastLine (source.take n.start), isSpace c = true) ∧
      p.root.scopeAt? (lineStart source n.start) = p.root.scopeAt? n.start := by
  obtain ⟨p, q, hp, -, hcheck⟩ := exists_of_runs? runs?_parted
  simp only [Bool.and_eq_true, List.any_eq_true, List.all_eq_true, decide_eq_true_eq,
    source_of_strict hp] at hcheck
  obtain ⟨⟨n, hn, s, hs, hinserted, hparted⟩, m, hm, r, hr, hinserted', hblank⟩ := hcheck
  refine ⟨_, p, hp, ⟨n, hn, s, hs, hinserted, ?_⟩, m, hm, r, hr, hinserted', hblank,
    (guard_in_scope_iff hp hm hr).2.2 hblank⟩
  by_contra hnone
  push Not at hnone
  exact hparted ((guard_in_scope_iff hp hn hs).2.1.2 hnone)

/-- The guard of a statement that stands behind the opening brace of its function is outside of every
    function. -/
theorem not_forall_guard_in_scope :
    ¬∀ (source : Bytes) (p : Parsed), strict source = .ok p → ∀ n ∈ p.root.preorder,
      ∀ s ∈ Site.ofStatement source n, ∀ i,
        (s, .inserted i) ∈ (injectGuards source p.sites).outcomes →
        p.root.scopeAt? (lineStart source n.start) = p.root.scopeAt? n.start := by
  intro h
  obtain ⟨p, q, hp, -, hcheck⟩ := exists_of_runs? runs?_parted
  simp only [Bool.and_eq_true, List.any_eq_true, List.all_eq_true, decide_eq_true_eq,
    source_of_strict hp] at hcheck
  obtain ⟨⟨n, hn, s, hs, hinserted, hparted⟩, -⟩ := hcheck
  exact hparted (h _ p hp n hn s hs 0 hinserted)

end Parsed

end SyscallGuard
