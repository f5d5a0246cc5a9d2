import SyscallGuard.Proofs.Outline
import Mathlib.Data.List.Lex

set_option autoImplicit false

/-! # What is detected

A node of a tree is named by its path, the indices of the children on the way to it. `Offers` says
without any search which calls a statement has where a guard can stand in front of it, and `Calls`
which nodes call a primitive; both are about paths and indices alone. `ofTree_detects` says that the
sites of a tree are these pairs of a statement and a call, each of them once, in the order of the
source.

The walk is repeated with paths (`walk`, `places`). Paths meet it in lexicographic order
(`walk_sorted`), so that no statement is met twice; that a call belongs to one statement only is then
a matter of the parent's kind (`Offers.unique`). -/

namespace SyscallGuard

/-! ## Paths -/

namespace Node

/-- The node at the end of a path. -/
def at? : Node → List Nat → Option Node
  | n, [] => some n
  | n, i :: path => n.children[i]?.bind fun c => at? c path

theorem at?_append (n : Node) (path more : List Nat) :
    n.at? (path ++ more) = (n.at? path).bind fun c => c.at? more := by
  induction path generalizing n with
  | nil => rfl
  | cons i path ih =>
    simp only [List.cons_append, at?]
    cases n.children[i]? with
    | none => rfl
    | some c => exact ih c

mutual

/-- A node and everything below it with their paths, in the order of `preorder`. -/
def walk : Node → List (List Nat × Node)
  | mk info children => ([], mk info children) :: walkAll 0 children

/-- The nodes of several trees, which are children from index `i` on. -/
def walkAll (i : Nat) : List Node → List (List Nat × Node)
  | [] => []
  | n :: rest => (walk n).map (fun e => (i :: e.1, e.2)) ++ walkAll (i + 1) rest

end

mutual

theorem map_snd_walk : ∀ n : Node, n.walk.map Prod.snd = n.preorder
  | mk info children => by
    rw [walk, preorder, List.map_cons, map_snd_walkAll 0 children]

theorem map_snd_walkAll : ∀ (i : Nat) (nodes : List Node),
    (walkAll i nodes).map Prod.snd = preorderAll nodes
  | _, [] => rfl
  | i, n :: rest => by
    rw [walkAll, preorderAll, List.map_append, List.map_map, map_snd_walkAll (i + 1) rest]
    exact congrArg (· ++ preorderAll rest) (map_snd_walk n)

end

mutual

/-- The walk meets every path of the node, and no other. -/
theorem mem_walk : ∀ {n : Node} {path : List Nat} {m : Node},
    (path, m) ∈ n.walk ↔ n.at? path = some m
  | mk info kids, path, m => by
    rw [walk, List.mem_cons, mem_walkAll]
    cases path with
    | nil => simp [at?, eq_comm]
    | cons i path =>
      simp only [Prod.mk.injEq, reduceCtorEq, false_and, false_or, at?, Nat.zero_add, children,
        Option.bind_eq_some_iff]
      constructor
      · rintro ⟨j, rest, c, h, hc, hm⟩
        obtain ⟨rfl, rfl⟩ := List.cons.inj h
        exact ⟨c, hc, hm⟩
      · rintro ⟨c, hc, hm⟩
        exact ⟨i, path, c, rfl, hc, hm⟩

theorem mem_walkAll : ∀ {i : Nat} {nodes : List Node} {path : List Nat} {m : Node},
    (path, m) ∈ walkAll i nodes ↔
      ∃ j rest c, path = (i + j) :: rest ∧ nodes[j]? = some c ∧ c.at? rest = some m
  | i, [], path, m => by simp [walkAll]
  | i, n :: others, path, m => by
    rw [walkAll, List.mem_append, List.mem_map, mem_walkAll]
    constructor
    · rintro (⟨⟨rest, m'⟩, hm, h⟩ | ⟨j, rest, c, rfl, hc, hm⟩)
      · obtain ⟨rfl, rfl⟩ := Prod.mk.inj h
        exact ⟨0, rest, n, rfl, rfl, mem_walk.1 hm⟩
      · exact ⟨j + 1, rest, c, by rw [Nat.add_assoc, Nat.add_comm 1 j], hc, hm⟩
    · rintro ⟨j, rest, c, rfl, hc, hm⟩
      cases j with
      | zero =>
        obtain rfl := Option.some.inj hc
        exact .inl ⟨(rest, m), mem_walk.2 hm, rfl⟩
      | succ j => exact .inr ⟨j, rest, c, by rw [Nat.add_assoc, Nat.add_comm 1 j], hc, hm⟩

end

mutual

/-- The walk meets the paths in lexicographic order. -/
theorem walk_sorted : ∀ n : Node, n.walk.Pairwise fun a b => a.1 < b.1
  | mk info children => by
    rw [walk, List.pairwise_cons]
    refine ⟨?_, walkAll_sorted 0 children⟩
    rintro ⟨path, m⟩ h
    obtain ⟨j, rest, -, rfl, -⟩ := mem_walkAll.1 h
    exact List.nil_lt_cons _ _

theorem walkAll_sorted : ∀ (i : Nat) (nodes : List Node),
    (walkAll i nodes).Pairwise fun a b => a.1 < b.1
  | _, [] => by simp [walkAll]
  | i, n :: others => by
    rw [walkAll, List.pairwise_append, List.pairwise_map]
    refine ⟨(walk_sorted n).imp fun h => List.cons_lt_cons_iff.2 (.inr ⟨rfl, h⟩),
      walkAll_sorted (i + 1) others, ?_⟩
    rintro a ha ⟨path, m⟩ hb
    obtain ⟨e, -, rfl⟩ := List.mem_map.1 ha
    obtain ⟨j, rest, -, rfl, -⟩ := mem_walkAll.1 hb
    exact List.cons_lt_cons_iff.2 (.inl (by omega))

end

theorem mem_preorder_iff {n m : Node} : m ∈ n.preorder ↔ ∃ path, n.at? path = some m := by
  rw [← map_snd_walk, List.mem_map]
  constructor
  · rintro ⟨⟨path, m'⟩, h, rfl⟩
    exact ⟨path, mem_walk.1 h⟩
  · rintro ⟨path, h⟩
    exact ⟨(path, m), mem_walk.2 h, rfl⟩

/-! ## Statements and their calls -/

/-- The child at index `i` is the first in a role. -/
def FirstIn (n : Node) (role : Role) (i : Nat) (c : Node) : Prop :=
  n.children[i]? = some c ∧ c.role = role ∧
    ∀ j < i, ∀ d, n.children[j]? = some d → d.role ≠ role

/-- A statement has a call that a guard can stand in front of, at a path below it. -/
inductive Offers (n : Node) : List Nat → Node → Prop
  /-- The call is all that an expression statement has, apart from signs and comments. -/
  | bare {i : Nat} {call : Node} (kind : n.kind = .phrase .expressionStatement)
      (child : n.children[i]? = some call) (named : call.isNamed = true)
      (extra : call.extra = false)
      (only : ∀ j c, n.children[j]? = some c → c.isNamed = true → c.extra = false → j = i) :
      Offers n [i] call
  /-- The call is an element on the right of a declaration or an assignment. -/
  | assigned {i j : Nat} {values call : Node}
      (kind : n.kind = .phrase .shortVarDeclaration ∨ n.kind = .phrase .assignmentStatement)
      (right : n.FirstIn .right i values) (child : values.children[j]? = some call)
      (named : call.isNamed = true) : Offers n [i, j] call

/-- A node calls a primitive: it is a call of a name, and the name is the primitive's. -/
def Calls (source : Bytes) (n : Node) (p : Primitive) : Prop :=
  n.kind = .phrase .callExpression ∧ ∃ i name, n.FirstIn .function i name ∧
    name.kind = .token .identifier ∧ source.slice name.start name.stop = Bytes.ofString p.name

theorem child?_eq_some_iff {n c : Node} {role : Role} :
    n.child? role = some c ↔ ∃ i, n.FirstIn role i c := by
  rw [child?, List.find?_eq_some_iff_getElem]
  simp only [beq_iff_eq, Bool.not_eq_eq_eq_not, Bool.not_true, beq_eq_false_iff_ne]
  constructor
  · rintro ⟨hrole, i, hi, rfl, hbefore⟩
    refine ⟨i, List.getElem?_eq_getElem hi, hrole, fun j hj d hd => ?_⟩
    obtain ⟨hlt, rfl⟩ := List.getElem?_eq_some_iff.1 hd
    exact hbefore j hj
  · rintro ⟨i, hc, hrole, hbefore⟩
    obtain ⟨hi, rfl⟩ := List.getElem?_eq_some_iff.1 hc
    exact ⟨hrole, i, hi, rfl, fun j hj => hbefore j hj _ (List.getElem?_eq_getElem _)⟩

/-- There is one first child in a role. -/
theorem FirstIn.unique {n c d : Node} {role : Role} {i j : Nat} (h : n.FirstIn role i c)
    (h' : n.FirstIn role j d) : i = j := by
  rcases Nat.lt_trichotomy i j with hlt | heq | hgt
  · exact absurd h.2.1 (h'.2.2 i hlt c h.1)
  · exact heq
  · exact absurd h'.2.1 (h.2.2 j hgt d h'.1)

end Node

/-- Names of primitives differ. -/
theorem Primitive.ofName?_eq_some_iff {name : Bytes} {p : Primitive} :
    ofName? name = some p ↔ name = Bytes.ofString p.name := by
  constructor
  · intro h
    have hname := List.find?_some (p := fun q : Primitive => Bytes.ofString q.name == name) h
    exact (eq_of_beq hname).symm
  · rintro rfl
    cases p <;> decide

theorem Site.calls?_eq_some_iff {source : Bytes} {n : Node} {p : Primitive} :
    Site.calls? source n = some p ↔ n.Calls source p := by
  rw [Site.calls?_eq, Option.bind_eq_some_iff, Node.Calls]
  constructor
  · rintro ⟨name, hcallee, hname⟩
    obtain ⟨hkind, hident⟩ := Node.kind_of_callee? hcallee
    rw [Node.callee?, if_pos hkind] at hcallee
    obtain ⟨i, hfirst⟩ := Node.child?_eq_some_iff.1 (Option.filter_eq_some_iff.1 hcallee).1
    exact ⟨hkind, i, name, hfirst, hident, Primitive.ofName?_eq_some_iff.1 hname⟩
  · rintro ⟨hkind, i, name, hfirst, hident, hname⟩
    refine ⟨name, ?_, Primitive.ofName?_eq_some_iff.2 hname⟩
    rw [Node.callee?, if_pos hkind, Option.filter_eq_some_iff]
    exact ⟨Node.child?_eq_some_iff.2 ⟨i, hfirst⟩, by rw [hident]; rfl⟩

/-! ## Candidates with their paths -/

namespace Site

/-- The candidates of a statement with their paths below it. -/
def places (n : Node) : List (List Nat × Node) :=
  if n.kind = .phrase .expressionStatement then
    match n.children.zipIdx.filter fun c => c.1.isNamed && !c.1.extra with
    | [(call, i)] => [([i], call)]
    | _ => []
  else if n.kind = .phrase .shortVarDeclaration ∨ n.kind = .phrase .assignmentStatement then
    match n.children.zipIdx.find? fun c => c.1.role == .right with
    | some (values, i) =>
      (values.children.zipIdx.filter fun c => c.1.isNamed).map fun c => ([i, c.2], c.1)
    | none => []
  else []

theorem filter_map_fst_zipIdx (nodes : List Node) (f : Node → Bool) :
    (nodes.zipIdx.filter fun c => f c.1).map Prod.fst = nodes.filter f := by
  have h := List.filter_map (f := Prod.fst) (p := f) (l := nodes.zipIdx)
  rw [List.zipIdx_map_fst] at h
  exact h.symm

theorem find?_map_fst_zipIdx (nodes : List Node) (f : Node → Bool) :
    (nodes.zipIdx.find? fun c => f c.1).map Prod.fst = nodes.find? f := by
  have h := List.find?_map (f := Prod.fst) (p := f) (l := nodes.zipIdx)
  rw [List.zipIdx_map_fst] at h
  exact h.symm

theorem zipIdx_sorted (nodes : List Node) : nodes.zipIdx.Pairwise fun a b => a.2 < b.2 := by
  have h : (nodes.zipIdx.map Prod.snd).Pairwise (· < ·) := by
    rw [List.zipIdx_map_snd]
    exact List.pairwise_lt_range' 1
  exact List.pairwise_map.1 h

theorem map_snd_places (n : Node) : (places n).map Prod.snd = candidates n := by
  rw [candidates_eq, places]
  split
  · have hfilter : (n.children.zipIdx.filter fun c => c.1.isNamed && !c.1.extra).map Prod.fst =
        n.namedChildren.filter fun c => !c.extra := by
      rw [filter_map_fst_zipIdx n.children fun c => c.isNamed && !c.extra, Node.namedChildren,
        List.filter_filter]
      exact List.filter_congr fun c _ => Bool.and_comm _ _
    rw [← hfilter, List.length_map]
    split
    · next hone => rw [hone]; rfl
    · next hmany =>
      rw [if_neg]
      · rfl
      · intro hlen
        obtain ⟨c, hc⟩ := List.length_eq_one_iff.1 hlen
        exact hmany c.1 c.2 hc
  · split
    · rw [Node.child?, ← find?_map_fst_zipIdx n.children fun c => c.role == .right]
      cases n.children.zipIdx.find? fun c => c.1.role == .right with
      | none => rfl
      | some c =>
        rw [List.map_map]
        exact filter_map_fst_zipIdx c.1.children Node.isNamed
    · rfl

theorem filter_zipIdx_eq_singleton {nodes : List Node} {f : Node → Bool} {c : Node} {i : Nat} :
    (nodes.zipIdx.filter fun e => f e.1) = [(c, i)] ↔
      nodes[i]? = some c ∧ f c = true ∧ ∀ j d, nodes[j]? = some d → f d = true → j = i := by
  have hmem : ∀ d j, (d, j) ∈ (nodes.zipIdx.filter fun e => f e.1) ↔
      nodes[j]? = some d ∧ f d = true := by
    intro d j
    rw [List.mem_filter, List.mk_mem_zipIdx_iff_getElem?]
  constructor
  · intro h
    rw [h] at hmem
    obtain ⟨hc, hf⟩ := (hmem c i).1 (List.mem_singleton_self _)
    refine ⟨hc, hf, fun j d hd hfd => ?_⟩
    have heq : (d, j) = (c, i) := List.mem_singleton.1 ((hmem d j).2 ⟨hd, hfd⟩)
    exact congrArg Prod.snd heq
  · rintro ⟨hc, hf, honly⟩
    have hsorted := (zipIdx_sorted nodes).filter fun e => f e.1
    have hin := (hmem c i).2 ⟨hc, hf⟩
    have hindex : ∀ e ∈ (nodes.zipIdx.filter fun e => f e.1), e.2 = i := by
      rintro ⟨d, j⟩ he
      obtain ⟨hd, hfd⟩ := (hmem d j).1 he
      exact honly j d hd hfd
    -- two entries would have different indices
    match hl : nodes.zipIdx.filter fun e => f e.1 with
    | [] => rw [hl] at hin; cases hin
    | [e] => rw [hl] at hin; rw [List.mem_singleton.1 hin, hl]
    | e :: e' :: rest =>
      rw [hl] at hsorted hindex
      have hlt : e.2 < e'.2 := List.rel_of_pairwise_cons hsorted List.mem_cons_self
      have he := hindex e List.mem_cons_self
      have he' := hindex e' (List.mem_cons_of_mem _ List.mem_cons_self)
      omega

theorem find?_zipIdx_eq_some_iff {n c : Node} {i : Nat} {role : Role} :
    (n.children.zipIdx.find? fun e => e.1.role == role) = some (c, i) ↔ n.FirstIn role i c := by
  rw [List.find?_eq_some_iff_getElem]
  simp only [beq_iff_eq, Bool.not_eq_eq_eq_not, Bool.not_true, beq_eq_false_iff_ne,
    List.getElem_zipIdx, Nat.zero_add, Prod.mk.injEq, List.length_zipIdx]
  constructor
  · rintro ⟨hrole, k, hk, ⟨rfl, rfl⟩, hbefore⟩
    refine ⟨List.getElem?_eq_getElem hk, hrole, fun j hj d hd => ?_⟩
    obtain ⟨hlt, rfl⟩ := List.getElem?_eq_some_iff.1 hd
    exact hbefore j hj
  · rintro ⟨hc, hrole, hbefore⟩
    obtain ⟨hi, rfl⟩ := List.getElem?_eq_some_iff.1 hc
    exact ⟨hrole, i, hi, ⟨rfl, rfl⟩, fun j hj => hbefore j hj _ (List.getElem?_eq_getElem _)⟩

/-- The places of a statement are what it offers. -/
theorem mem_places {n call : Node} {path : List Nat} :
    (path, call) ∈ places n ↔ n.Offers path call := by
  constructor
  · intro h
    rw [places] at h
    split at h
    · next hkind =>
      split at h
      · next c i hone =>
        obtain ⟨rfl, rfl⟩ := Prod.mk.inj (List.mem_singleton.1 h)
        obtain ⟨hchild, hnamed, honly⟩ :=
          (filter_zipIdx_eq_singleton (f := fun c => c.isNamed && !c.extra)).1 hone
        simp only [Bool.and_eq_true, Bool.not_eq_true'] at hnamed honly
        exact .bare hkind hchild hnamed.1 hnamed.2 fun j d hd hn he => honly j d hd ⟨hn, he⟩
      · cases h
    · split at h
      · next hkind =>
        split at h
        · next values i hfind =>
          obtain ⟨⟨c, j⟩, hmem, heq⟩ := List.mem_map.1 h
          obtain ⟨rfl, rfl⟩ := Prod.mk.inj heq
          obtain ⟨hc, hnamed⟩ := List.mem_filter.1 hmem
          exact .assigned hkind (find?_zipIdx_eq_some_iff.1 hfind)
            (List.mk_mem_zipIdx_iff_getElem?.1 hc) hnamed
        · cases h
      · cases h
  · intro h
    rw [places]
    cases h with
    | @bare i _ kind child named extra only =>
      have hone : (n.children.zipIdx.filter fun c => c.1.isNamed && !c.1.extra) = [(call, i)] := by
        refine (filter_zipIdx_eq_singleton (f := fun c => c.isNamed && !c.extra)).2
          ⟨child, by simp [named, extra], fun j d hd hnd => ?_⟩
        simp only [Bool.and_eq_true, Bool.not_eq_true'] at hnd
        exact only j d hd hnd.1 hnd.2
      rw [if_pos kind, hone]
      exact List.mem_singleton_self _
    | @assigned i j values _ kind right child named =>
      rw [if_neg (by rcases kind with kind | kind <;> simp [kind]), if_pos kind,
        find?_zipIdx_eq_some_iff.2 right]
      exact List.mem_map.2 ⟨(call, j),
        List.mem_filter.2 ⟨List.mk_mem_zipIdx_iff_getElem?.2 child, named⟩, rfl⟩

/-- Elements of a right-hand side stand one after the other. -/
theorem places_sorted (n : Node) : (places n).Pairwise fun a b => a.1 < b.1 := by
  rw [places]
  split
  · split <;> simp
  · split
    · split
      · next values i _ =>
        rw [List.pairwise_map]
        refine ((zipIdx_sorted values.children).filter _).imp fun {a b} h => ?_
        exact List.cons_lt_cons_iff.2 (.inr ⟨rfl, List.cons_lt_cons_iff.2 (.inl h)⟩)
      · exact List.Pairwise.nil
    · exact List.Pairwise.nil

end Site

/-! ## Order within a node -/

namespace Node

theorem Fits.pairwise {start stop : Nat} {nodes : List Node} (h : Fits stop start nodes) :
    nodes.Pairwise fun a b => a.stop ≤ b.start := by
  induction nodes generalizing start with
  | nil => exact List.Pairwise.nil
  | cons n rest ih =>
    rw [Fits] at h
    refine List.pairwise_cons.2 ⟨fun m hm => ?_, ih h.2.2⟩
    exact (preorderAll_between h.2.2 m (preorder_subset_preorderAll hm m.mem_preorder_self)).1

theorem Ordered.fits {n : Node} (h : n.Ordered) : Fits n.stop n.start n.children := by
  obtain ⟨info, kids⟩ := n
  rw [Ordered] at h
  exact h.2

theorem Fits.ordered {start stop : Nat} {nodes : List Node} (h : Fits stop start nodes) {n : Node}
    (hn : n ∈ nodes) : n.Ordered := by
  induction nodes generalizing start with
  | nil => cases hn
  | cons m rest ih =>
    rw [Fits] at h
    rcases List.mem_cons.1 hn with rfl | hn
    · exact h.2.1
    · exact ih h.2.2 hn

/-- What is in order is so at every path. -/
theorem Ordered.at? {n m : Node} {path : List Nat} (h : n.Ordered) (hm : n.at? path = some m) :
    m.Ordered := by
  induction path generalizing n with
  | nil =>
    obtain rfl := Option.some.inj hm
    exact h
  | cons i path ih =>
    obtain ⟨c, hc, hm⟩ := Option.bind_eq_some_iff.1 hm
    exact ih (h.fits.ordered (List.mem_of_getElem? hc)) hm

/-- Two children of a node in order stand apart, the one with the smaller index in front. -/
theorem Ordered.stop_le_start {n c d : Node} {i j : Nat} (h : n.Ordered)
    (hc : n.children[i]? = some c) (hd : n.children[j]? = some d) (hij : i < j) :
    c.stop ≤ d.start := by
  obtain ⟨hi, rfl⟩ := List.getElem?_eq_some_iff.1 hc
  obtain ⟨hj, rfl⟩ := List.getElem?_eq_some_iff.1 hd
  exact List.pairwise_iff_getElem.1 h.fits.pairwise i j hi hj hij

/-- The calls of a statement are offered in the order of the source. -/
theorem Offers.stop_le_start {n c d : Node} {path more : List Nat} (hn : n.Ordered)
    (hc : n.Offers path c) (hd : n.Offers more d) (hlt : path < more) : c.stop ≤ d.start := by
  cases hc with
  | bare _ child named extra =>
    cases hd with
    | bare _ child' named' extra' only' =>
      obtain rfl := only' _ _ child named extra
      exact absurd hlt (List.lt_irrefl _)
    | assigned kind' => rcases kind' with kind' | kind' <;> simp_all
  | assigned kind right child =>
    cases hd with
    | bare kind' => rcases kind with kind | kind <;> simp_all
    | assigned _ right' child' =>
      obtain rfl := right.unique right'
      obtain rfl : _ = _ := Option.some.inj (right.1.symm.trans right'.1)
      have hvalues := hn.fits.ordered (List.mem_of_getElem? right.1)
      refine hvalues.stop_le_start child child' ?_
      rcases List.cons_lt_cons_iff.1 hlt with hlt | ⟨-, hlt⟩
      · omega
      · rcases List.cons_lt_cons_iff.1 hlt with hlt | ⟨-, hlt⟩
        · exact hlt
        · exact absurd hlt (List.lt_irrefl _)

/-- Right-hand sides of declarations and assignments are lists of expressions. -/
def AssignsLists (root : Node) : Prop :=
  ∀ n ∈ root.preorder,
    n.kind = .phrase .shortVarDeclaration ∨ n.kind = .phrase .assignmentStatement →
    ∀ values, n.child? .right = some values → values.kind = .phrase .expressionList

/-- What stands on the right of an assignment is no statement. -/
theorem AssignsLists.not_statement {root n m values : Node} {path path' : List Nat} {i i' j' : Nat}
    (hlists : root.AssignsLists) (hn : root.at? path = some n) (hm : root.at? path' = some m)
    (hkind : n.kind = .phrase .expressionStatement)
    (hkind' : m.kind = .phrase .shortVarDeclaration ∨ m.kind = .phrase .assignmentStatement)
    (hright : m.FirstIn .right i' values) : path ++ [i] ≠ path' ++ [i', j'] := by
  intro heq
  have hpath : path = path' ++ [i'] := by
    rw [show path' ++ [i', j'] = (path' ++ [i']) ++ [j'] by simp] at heq
    exact (List.append_inj' heq rfl).1
  have hvalues : root.at? path = some values := by
    rw [hpath, at?_append, hm, Option.bind_some, at?, hright.1]
    rfl
  obtain rfl := Option.some.inj (hn.symm.trans hvalues)
  have hlist := hlists m (mem_preorder_iff.2 ⟨_, hm⟩) hkind' n (child?_eq_some_iff.2 ⟨_, hright⟩)
  rw [hkind] at hlist
  cases hlist

/-- **A call belongs to one statement**: the node above it is a statement of its own or a list of
    expressions, and not both. -/
theorem Offers.unique {root n m c d : Node} {path path' below below' : List Nat}
    (hlists : root.AssignsLists) (hn : root.at? path = some n) (hm : root.at? path' = some m)
    (hc : n.Offers below c) (hd : m.Offers below' d) (heq : path ++ below = path' ++ below') :
    path = path' ∧ below = below' := by
  cases hc with
  | bare kind =>
    cases hd with
    | bare => exact List.append_inj' heq rfl
    | assigned kind' right' => exact absurd heq (hlists.not_statement hn hm kind kind' right')
  | assigned kind right =>
    cases hd with
    | bare kind' => exact absurd heq.symm (hlists.not_statement hm hn kind' kind right)
    | assigned => exact List.append_inj' heq rfl

end Node

/-! ## Soundness, completeness and order -/

/-- A statement of a tree with a call in it: the path of the statement, the path from there to the
    call, and the primitive that is called. -/
structure Detection where
  path : List Nat
  statement : Node
  below : List Nat
  call : Node
  primitive : Primitive

namespace Detection

/-- The nodes are where the paths lead, and the call is one to be guarded. -/
def Holds (source : Bytes) (root : Node) (d : Detection) : Prop :=
  root.at? d.path = some d.statement ∧ d.statement.Offers d.below d.call ∧
    d.call.Calls source d.primitive

/-- The path of the call. -/
def callPath (d : Detection) : List Nat := d.path ++ d.below

/-- The site that is reported. -/
def site (source : Bytes) (d : Detection) : Site :=
  ⟨.ofOffset source d.statement.start, d.call.start, d.call.stop, d.primitive⟩

/-- The detections at a node that stands at a path. -/
def ofNode (source : Bytes) (e : List Nat × Node) : List Detection :=
  (Site.places e.2).filterMap fun c =>
    (Site.calls? source c.2).map fun p => ⟨e.1, e.2, c.1, c.2, p⟩

/-- The detections of a tree, in the order of the walk. -/
def all (source : Bytes) (root : Node) : List Detection := root.walk.flatMap (ofNode source)

variable {source : Bytes} {root : Node}

theorem mem_ofNode {d : Detection} {e : List Nat × Node} :
    d ∈ ofNode source e ↔ e = (d.path, d.statement) ∧ d.statement.Offers d.below d.call ∧
      d.call.Calls source d.primitive := by
  rw [ofNode, List.mem_filterMap]
  constructor
  · rintro ⟨⟨below, c⟩, hc, hd⟩
    obtain ⟨p, hp, rfl⟩ := Option.map_eq_some_iff.1 hd
    exact ⟨rfl, Site.mem_places.1 hc, Site.calls?_eq_some_iff.1 hp⟩
  · rintro ⟨rfl, hc, hp⟩
    refine ⟨(d.below, d.call), Site.mem_places.2 hc, ?_⟩
    rw [Site.calls?_eq_some_iff.2 hp]
    rfl

theorem mem_all {d : Detection} : d ∈ all source root ↔ d.Holds source root := by
  rw [all, List.mem_flatMap]
  constructor
  · rintro ⟨e, he, hd⟩
    obtain ⟨rfl, hcall⟩ := mem_ofNode.1 hd
    exact ⟨Node.mem_walk.1 he, hcall⟩
  · rintro ⟨hn, hd⟩
    exact ⟨_, Node.mem_walk.2 hn, mem_ofNode.2 ⟨rfl, hd⟩⟩

theorem ofTree_eq_map_all (source : Bytes) (root : Node) :
    Site.ofTree source root = (all source root).map (site source) := by
  rw [Site.ofTree, ← Node.map_snd_walk, List.flatMap_map, all, List.map_flatMap]
  congr 1
  funext e
  rw [Site.ofStatement, ← Site.map_snd_places, List.filterMap_map, ofNode, List.map_filterMap]
  congr 1
  funext c
  simp only [Function.comp_apply, Option.map_map]
  rfl

/-- Detections come in the order of their statements, and those of one statement in the order of
    their calls. -/
theorem all_sorted (source : Bytes) (root : Node) :
    (all source root).Pairwise fun a b => a.path < b.path ∨ a.path = b.path ∧ a.below < b.below := by
  rw [all, List.pairwise_flatMap]
  constructor
  · intro e _
    rw [ofNode, List.pairwise_filterMap]
    refine (Site.places_sorted e.2).imp fun {a b} hab x hx y hy => ?_
    obtain ⟨p, -, rfl⟩ := Option.map_eq_some_iff.1 hx
    obtain ⟨q, -, rfl⟩ := Option.map_eq_some_iff.1 hy
    exact .inr ⟨rfl, hab⟩
  · refine (Node.walk_sorted root).imp fun {a b} hab x hx y hy => ?_
    obtain ⟨rfl, -⟩ := mem_ofNode.1 hx
    obtain ⟨rfl, -⟩ := mem_ofNode.1 hy
    exact .inl hab

/-- In a tree in order, the statements start one after the other. -/
theorem all_start_le (h : root.Ordered) :
    (all source root).Pairwise fun a b => a.statement.start ≤ b.statement.start := by
  have hwalk := Node.preorder_sorted h
  rw [← Node.map_snd_walk, List.pairwise_map] at hwalk
  rw [all, List.pairwise_flatMap]
  constructor
  · intro e _
    refine List.pairwise_of_forall_mem_list fun x hx y hy => ?_
    obtain ⟨rfl, -⟩ := mem_ofNode.1 hx
    obtain ⟨heq, -⟩ := mem_ofNode.1 hy
    rw [(Prod.mk.inj heq).2]
  · refine hwalk.imp fun {a b} hab x hx y hy => ?_
    obtain ⟨rfl, -⟩ := mem_ofNode.1 hx
    obtain ⟨rfl, -⟩ := mem_ofNode.1 hy
    exact hab

/-- No two detections have the same call. -/
theorem callPath_nodup (h : root.AssignsLists) : ((all source root).map callPath).Nodup := by
  rw [List.nodup_iff_pairwise_ne, List.pairwise_map]
  refine (all_sorted source root).imp_of_mem fun {a b} ha hb hab heq => ?_
  obtain ⟨hn, hc, -⟩ := mem_all.1 ha
  obtain ⟨hm, hd, -⟩ := mem_all.1 hb
  obtain ⟨hpath, hbelow⟩ := Node.Offers.unique h hn hm hc hd heq
  rcases hab with hlt | ⟨-, hlt⟩
  · exact absurd (hpath ▸ hlt) (List.lt_irrefl _)
  · exact absurd (hbelow ▸ hlt) (List.lt_irrefl _)

end Detection

/-- A point of a source does not stand behind another. -/
def pointLe (source : Bytes) (a b : Nat) : Prop :=
  lineOf source a < lineOf source b ∨
    lineOf source a = lineOf source b ∧ columnOf source a ≤ columnOf source b

theorem pointLe_of_le (source : Bytes) {a b : Nat} (h : a ≤ b) : pointLe source a b := by
  rcases Nat.lt_or_eq_of_le (lineOf_mono source h) with hlt | heq
  · exact .inl hlt
  · exact .inr ⟨heq, columnOf_mono source h heq⟩

/-- Reported positions keep the order of the points, up to the largest line that is reported. -/
theorem Position.le_of_pointLe {source : Bytes} {a b : Nat} (h : pointLe source a b) :
    (ofOffset source a).line < (ofOffset source b).line ∨
      (ofOffset source a).line = (ofOffset source b).line ∧
        ((ofOffset source a).column ≤ (ofOffset source b).column ∨
          (ofOffset source a).line = limit) := by
  rw [line_ofOffset, line_ofOffset, column_ofOffset, column_ofOffset]
  rcases h with hlt | ⟨heq, hle⟩ <;> omega

/-- **What is detected**, in any tree in order whose right-hand sides are lists: the sites are those
    of the statements and calls described by `Offers` and `Calls`, each of these pairs once and no
    call in two of them. Their statements never start in front of an earlier one, so that the lines
    are in order for the injector, and the calls of one statement follow each other. -/
theorem ofTree_detects (source : Bytes) (root : Node) (horder : root.Ordered)
    (hlists : root.AssignsLists) :
    ∃ found : List Detection,
      (∀ d, d ∈ found ↔ d.Holds source root) ∧
      Site.ofTree source root = found.map (Detection.site source) ∧
      (found.map Detection.callPath).Nodup ∧
      (found.Pairwise fun a b => pointLe source a.statement.start b.statement.start) ∧
      (found.Pairwise fun a b => a.path = b.path →
        a.below < b.below ∧ a.call.stop ≤ b.call.start) ∧
      ((Site.ofTree source root).Pairwise fun a b => a.position.line ≤ b.position.line) ∧
      (Site.ofTree source root).Pairwise fun a b =>
        a.position.line < b.position.line ∨ a.position.line = b.position.line ∧
          (a.position.column ≤ b.position.column ∨ a.position.line = Position.limit) := by
  have hpoints : (Detection.all source root).Pairwise fun a b =>
      pointLe source a.statement.start b.statement.start :=
    (Detection.all_start_le horder).imp fun h => pointLe_of_le source h
  refine ⟨Detection.all source root, fun d => Detection.mem_all,
    Detection.ofTree_eq_map_all source root, Detection.callPath_nodup hlists, hpoints, ?_,
    Site.ofTree_sorted horder, ?_⟩
  · refine (Detection.all_sorted source root).imp_of_mem fun {a b} ha hb hab hpath => ?_
    obtain ⟨hn, hc, -⟩ := Detection.mem_all.1 ha
    obtain ⟨hm, hd, -⟩ := Detection.mem_all.1 hb
    have hlt : a.below < b.below := by
      rcases hab with hlt | ⟨-, hlt⟩
      · exact absurd (hpath ▸ hlt) (List.lt_irrefl _)
      · exact hlt
    rw [← hpath, hn, Option.some.injEq] at hm
    exact ⟨hlt, hc.stop_le_start (horder.at? hn) (hm ▸ hd) hlt⟩
  · rw [Detection.ofTree_eq_map_all, List.pairwise_map]
    exact hpoints.imp fun h => Position.le_of_pointLe h

/-- An assignment of a call with a function literal among its arguments that makes a call of its
    own: two statements, one inside the call of the other. -/
theorem ofTree_detects_nested :
    ∃ (source : Bytes) (root : Node), root.Ordered ∧ root.AssignsLists ∧
      ∃ found : List Detection, (∀ d, d ∈ found ↔ d.Holds source root) ∧
        Site.ofTree source root = found.map (Detection.site source) ∧
        Site.ofTree source root = [⟨⟨1, 1⟩, 4, 32, .syscall⟩, ⟨⟨1, 21⟩, 20, 29, .syscall⟩] := by
  let source := Bytes.ofString "x = Syscall(func(){ Syscall() })"
  let name (start stop : Nat) : Node :=
    .mk ⟨.token .identifier, .function, start, stop, false, false⟩ []
  let inner : Node := .mk ⟨.phrase .expressionStatement, .plain, 20, 29, false, false⟩
    [.mk ⟨.phrase .callExpression, .plain, 20, 29, false, false⟩ [name 20 27]]
  let outer : Node := .mk ⟨.phrase .callExpression, .plain, 4, 32, false, false⟩
    [name 4 11, .mk ⟨.phrase .block, .plain, 18, 31, false, false⟩ [inner]]
  let root : Node := .mk ⟨.phrase .assignmentStatement, .plain, 0, 32, false, false⟩
    [.mk ⟨.phrase .expressionList, .right, 4, 32, false, false⟩ [outer]]
  have horder : root.Ordered := by
    simp [root, outer, inner, name, Node.Ordered, Node.Fits, Node.start, Node.stop, Node.info]
  have hlists : root.AssignsLists := by
    intro n hn hkind values hvalues
    simp [root, outer, inner, name, Node.preorder, Node.preorderAll] at hn
    rcases hn with rfl | rfl | rfl | rfl | rfl | rfl | rfl | rfl <;>
      simp [Node.kind, Node.info] at hkind
    simp [Node.child?, Node.children, Node.role, Node.info] at hvalues
    rw [← hvalues]
    rfl
  obtain ⟨found, hfound, hsites, -⟩ := ofTree_detects source root horder hlists
  exact ⟨source, root, horder, hlists, found, hfound, hsites, by decide⟩

end SyscallGuard
