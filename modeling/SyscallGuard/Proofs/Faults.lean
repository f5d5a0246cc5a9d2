import SyscallGuard.Proofs.Detection

set_option autoImplicit false

/-! # The faults of a source

Tolerant parsing lists the faults of a tree, strict parsing reports the first of them. Faults nest: one
piece that is outside of the grammar can lie in another, and a token that is assumed takes no room at
all. So that a fault comes first in the list says no more than that the walk meets it first. It is the
order of the tree that makes it the first in the source as well (`checked_faults`).

What strict parsing does with a tree is `Parsed.checked`. It goes by a mark that the parser leaves on
the tree, and whether that mark and the list agree is a matter of the parser: a token that is assumed
but has no node of its own is marked and not listed. Such a tree is refused without a place to show
for it (`checked_cases`). -/

namespace SyscallGuard

/-! ## Contexts -/

namespace Fault

theorem length_ellipsis : ellipsis.length = 3 := by decide

/-- **What a context shows**: all of a text, or what is left with the ellipsis of a text that is too
    long. -/
theorem clip_cases (chars : List Char) :
    chars.length ≤ contextLimit ∧ clip chars = String.ofList chars ∨
      contextLimit < chars.length ∧ clip chars = String.ofList (chars.take 47) ++ "..." := by
  rcases Nat.lt_or_ge contextLimit chars.length with h | h
  · right
    refine ⟨h, ?_⟩
    rw [clip, if_pos h, length_ellipsis]
    rfl
  · left
    exact ⟨h, by rw [clip, if_neg (Nat.not_lt.2 h)]⟩

theorem length_clip_le (chars : List Char) : (clip chars).length ≤ contextLimit := by
  rcases clip_cases chars with ⟨hle, hclip⟩ | ⟨hlt, hclip⟩
  · rw [hclip, String.length_ofList]
    exact hle
  · have hdots : ("..." : String).length = 3 := by decide
    have hlimit : contextLimit = 50 := rfl
    rw [hclip, String.length_append, String.length_ofList, List.length_take, hdots]
    omega

/-! ## The list of faults -/

variable {source : Bytes} {root : Node}

/-- The nodes that are faults with their paths, as the walk meets them. -/
def walk (root : Node) : List (List Nat × Node) := root.walk.filter fun e => isFault e.2

theorem mem_walk {path : List Nat} {n : Node} :
    (path, n) ∈ walk root ↔ root.at? path = some n ∧ isFault n = true := by
  rw [walk, List.mem_filter, Node.mem_walk]

theorem walk_sorted (root : Node) : (walk root).Pairwise fun a b => a.1 < b.1 :=
  (Node.walk_sorted root).filter _

theorem ofTree_eq_map_walk (source : Bytes) (root : Node) :
    ofTree source root = (walk root).map fun e => ofNode source e.2 := by
  rw [ofTree, walk, ← Node.map_snd_walk, List.filter_map, List.map_map]
  rfl

/-- Each fault of the list is a node of its own. -/
theorem forall₂_walk (source : Bytes) (root : Node) :
    List.Forall₂ (fun path f => ∃ n, root.at? path = some n ∧ f = ofNode source n)
      ((walk root).map Prod.fst) (ofTree source root) := by
  rw [ofTree_eq_map_walk, List.forall₂_map_left_iff, List.forall₂_map_right_iff, List.forall₂_same]
  rintro ⟨path, n⟩ h
  exact ⟨n, (mem_walk.1 h).1, rfl⟩

/-- The paths of the faults, without repetition and with all of them, go along with the list. -/
theorem exists_places (source : Bytes) (root : Node) :
    ∃ places : List (List Nat), places.Nodup ∧
      (∀ path, path ∈ places ↔ ∃ n, root.at? path = some n ∧ isFault n = true) ∧
      List.Forall₂ (fun path f => ∃ n, root.at? path = some n ∧ f = ofNode source n) places
        (ofTree source root) := by
  refine ⟨(walk root).map Prod.fst, ?_, fun path => ?_, forall₂_walk _ _⟩
  · refine List.pairwise_map.2 ((walk_sorted root).imp fun {a b} hab heq => ?_)
    exact List.lt_irrefl _ (heq ▸ hab)
  · rw [List.mem_map]
    constructor
    · rintro ⟨⟨path, n⟩, hn, rfl⟩
      exact ⟨n, mem_walk.1 hn⟩
    · rintro ⟨n, hn⟩
      exact ⟨(path, n), mem_walk.2 hn, rfl⟩

theorem mem_ofTree {f : Fault} :
    f ∈ ofTree source root ↔ ∃ n ∈ root.preorder, isFault n = true ∧ f = ofNode source n := by
  rw [ofTree, List.mem_map]
  constructor
  · rintro ⟨n, hn, rfl⟩
    obtain ⟨hmem, hfault⟩ := List.mem_filter.1 hn
    exact ⟨n, hmem, hfault, rfl⟩
  · rintro ⟨n, hmem, hfault, rfl⟩
    exact ⟨n, List.mem_filter.2 ⟨hmem, hfault⟩, rfl⟩

theorem ofTree_eq_nil_iff :
    ofTree source root = [] ↔ ∀ n ∈ root.preorder, isFault n = false := by
  rw [ofTree, List.map_eq_nil_iff, List.filter_eq_nil_iff]
  simp only [Bool.not_eq_true]

/-- In a tree in order the faults are listed by where they start. -/
theorem ofTree_sorted (h : root.Ordered) :
    (ofTree source root).Pairwise fun a b => a.start ≤ b.start :=
  List.pairwise_map.2 ((Node.preorder_sorted h).filter _)

/-- The first fault of the list is the first to be met and the first in the source. -/
theorem first_of_ofTree (h : root.Ordered) {f : Fault} {rest : List Fault}
    (hlist : ofTree source root = f :: rest) :
    ∃ path n, root.at? path = some n ∧ isFault n = true ∧ f = ofNode source n ∧
      ∀ other m, root.at? other = some m → isFault m = true →
        (path = other ∨ path < other) ∧ n.start ≤ m.start := by
  have hsorted : (ofTree source root).Pairwise fun a b => a.start ≤ b.start := ofTree_sorted h
  rw [hlist, List.pairwise_cons] at hsorted
  rw [ofTree_eq_map_walk] at hlist
  obtain ⟨⟨path, n⟩, others, hwalk, rfl, rfl⟩ := List.map_eq_cons_iff.1 hlist
  have hfirst : (path, n) ∈ walk root := hwalk ▸ List.mem_cons_self
  obtain ⟨hat, hfault⟩ := mem_walk.1 hfirst
  refine ⟨path, n, hat, hfault, rfl, fun other m hother hm => ?_⟩
  have hmem : (other, m) ∈ (path, n) :: others := hwalk ▸ mem_walk.2 ⟨hother, hm⟩
  rcases List.mem_cons.1 hmem with heq | hmem
  · obtain ⟨rfl, rfl⟩ := Prod.mk.inj heq
    exact ⟨.inl rfl, Nat.le_refl _⟩
  · have hpaths := walk_sorted root
    rw [hwalk, List.pairwise_cons] at hpaths
    exact ⟨.inr (hpaths.1 _ hmem), hsorted.1 _ (List.mem_map_of_mem hmem)⟩

end Fault

/-! ## Strict parsing -/

namespace Parsed

/-- What strict parsing makes of a source with its tree. -/
def checked (p : Parsed) : Except SyntaxError Parsed :=
  if p.hasFaults then
    match p.faults with
    | f :: _ => .error (.ofFault f)
    | [] => .error .unlocated
  else .ok p

theorem strict_of_tolerant {source : Bytes} {p : Parsed} (h : tolerant source = .ok p) :
    strict source = p.checked := by
  rw [strict, h]
  rfl

/-- The trees of the parser are in order, whatever the source. -/
theorem root_ordered_of_tolerant {source : Bytes} {p : Parsed} (h : tolerant source = .ok p) :
    p.root.Ordered := by
  unfold tolerant at h
  split at h
  · cases h
  · next t hparse =>
    obtain rfl := Except.ok.inj h
    exact Tree.root_ordered (Tree.ordered_of_parse? hparse).1

variable {p : Parsed}

/-- Whether the mark on a tree and its nodes agree. -/
def MarksFaults (p : Parsed) : Prop :=
  p.hasFaults = true ↔ ∃ n ∈ p.root.preorder, Fault.isFault n = true

theorem marksFaults_iff : p.MarksFaults ↔ (p.hasFaults = true ↔ p.faults ≠ []) := by
  unfold MarksFaults
  rw [faults, Ne, Fault.ofTree_eq_nil_iff]
  simp

theorem MarksFaults.faults_eq_nil_iff (h : p.MarksFaults) :
    p.faults = [] ↔ p.hasFaults = false := by
  rw [← Bool.not_eq_true, marksFaults_iff.1 h, not_not]

set_option maxRecDepth 100000 in
/-- The parser can mark a tree without a node to show for it: the end of line that it assumes behind
    the last word is no node. -/
theorem not_forall_marksFaults : ¬ ∀ source p, tolerant source = .ok p → p.MarksFaults := by
  intro h
  have hsample : ((tolerant (Bytes.ofString "a;b")).toOption.map fun p =>
      (p.hasFaults, p.faults)) = some (true, []) := by
    decide +kernel
  cases hp : tolerant (Bytes.ofString "a;b") with
  | error e =>
    rw [hp] at hsample
    cases hsample
  | ok p =>
    rw [hp] at hsample
    obtain ⟨hmark, hnone⟩ := Prod.mk.inj (Option.some.inj hsample)
    exact marksFaults_iff.1 (h _ p hp) |>.1 hmark hnone

/-- **What strict parsing makes of a tree**, whatever its mark. Without the mark it is accepted. With
    it the first fault is reported, and if there is none, the beginning of the source, without a
    context. -/
theorem checked_cases (p : Parsed) :
    (p.hasFaults = false ∧ p.checked = .ok p) ∨
    (p.hasFaults = true ∧ ∃ f rest, p.faults = f :: rest ∧
      p.checked = .error (.parse f.position f.message f.context)) ∨
    p.hasFaults = true ∧ (∀ n ∈ p.root.preorder, Fault.isFault n = false) ∧
      p.checked = .error (.parse ⟨1, 1⟩ "unexpected input" "") := by
  unfold checked
  cases p.hasFaults with
  | false => exact .inl ⟨rfl, rfl⟩
  | true =>
    right
    cases hfaults : p.faults with
    | nil => exact .inr ⟨rfl, Fault.ofTree_eq_nil_iff.1 hfaults, rfl⟩
    | cons f rest => exact .inl ⟨rfl, f, rest, rfl, rfl⟩

set_option maxRecDepth 100000 in
example : (match strict (Bytes.ofString "a;b") with
    | .error e => e.text
    | .ok _ => "") = "syntax error at 1:1: unexpected input near ``" := by
  decide +kernel

theorem checked_eq_ok_iff (q : Parsed) : p.checked = .ok q ↔ p.hasFaults = false ∧ q = p := by
  rcases p.checked_cases with ⟨hmark, hchecked⟩ | ⟨hmark, f, rest, -, hchecked⟩ |
    ⟨hmark, -, hchecked⟩ <;> simp [hmark, hchecked, eq_comm]

/-- What is reported is the first fault, the first to be met and the first in the source. -/
theorem exists_of_checked_error (horder : p.root.Ordered) (hmarks : p.MarksFaults) {e : SyntaxError}
    (h : p.checked = .error e) :
    ∃ f rest path n, p.faults = f :: rest ∧ e = .parse f.position f.message f.context ∧
      p.root.at? path = some n ∧ Fault.isFault n = true ∧ f = Fault.ofNode p.source n ∧
      ∀ other m, p.root.at? other = some m → Fault.isFault m = true →
        (path = other ∨ path < other) ∧ n.start ≤ m.start := by
  rcases p.checked_cases with ⟨-, hchecked⟩ | ⟨-, f, rest, hfaults, hchecked⟩ | ⟨hmark, hnone, -⟩
  · rw [hchecked] at h
    cases h
  · obtain ⟨path, n, hat, hfault, hf, hfirst⟩ := Fault.first_of_ofTree horder hfaults
    rw [hchecked, Except.error.injEq] at h
    exact ⟨f, rest, path, n, hfaults, h.symm, hat, hfault, hf, hfirst⟩
  · obtain ⟨n, hn, hfault⟩ := hmarks.1 hmark
    rw [hnone n hn] at hfault
    cases hfault

/-- **Strict and tolerant parsing agree**, for any tree in order whose mark agrees with its nodes, and
    the trees of the parser are in order. The source is accepted if and only if it has no faults. The
    list of faults has each node that is one exactly once, by where they start. A source that is not
    accepted is reported by position, message and context of the first fault of the list, which no other
    one precedes; and contexts are no longer than the limit, for they show all of the text at the fault,
    or the beginning of it with an ellipsis. -/
theorem checked_faults (horder : p.root.Ordered) (hmarks : p.MarksFaults) :
    (∀ source, tolerant source = .ok p → strict source = p.checked) ∧
    ((∃ q, p.checked = .ok q) ↔ p.faults = []) ∧
    (∃ places : List (List Nat), places.Nodup ∧
      (∀ path, path ∈ places ↔ ∃ n, p.root.at? path = some n ∧ Fault.isFault n = true) ∧
      List.Forall₂ (fun path f => ∃ n, p.root.at? path = some n ∧ f = Fault.ofNode p.source n)
        places p.faults) ∧
    (p.faults.Pairwise fun a b => a.start ≤ b.start) ∧
    (∀ e, p.checked = .error e → ∃ f rest path n, p.faults = f :: rest ∧
      e = .parse f.position f.message f.context ∧
      p.root.at? path = some n ∧ Fault.isFault n = true ∧ f = Fault.ofNode p.source n ∧
      ∀ other m, p.root.at? other = some m → Fault.isFault m = true →
        (path = other ∨ path < other) ∧ n.start ≤ m.start) ∧
    ∀ f ∈ p.faults, f.context.length ≤ 50 ∧
      let snippet := Utf8.lossy (p.source.slice f.start f.stop)
      f.context = String.ofList snippet ∨
        50 < snippet.length ∧ f.context = String.ofList (snippet.take 47) ++ "..." := by
  refine ⟨fun source h => strict_of_tolerant h, ?_, Fault.exists_places p.source p.root,
    Fault.ofTree_sorted horder, fun e he => exists_of_checked_error horder hmarks he, ?_⟩
  · simp only [checked_eq_ok_iff, hmarks.faults_eq_nil_iff, exists_and_left, exists_eq, and_true]
  · intro f hf
    obtain ⟨n, -, -, rfl⟩ := Fault.mem_ofTree.1 hf
    refine ⟨Fault.length_clip_le _, ?_⟩
    rcases Fault.clip_cases (Utf8.lossy (p.source.slice n.start n.stop)) with
      ⟨-, hclip⟩ | ⟨hlong, hclip⟩
    · exact .inl hclip
    · exact .inr ⟨hlong, hclip⟩

set_option maxRecDepth 100000 in
theorem tolerant_sample :
    ((tolerant (Bytes.ofString ".@")).toOption.map fun p =>
      (p.hasFaults, p.faults.map fun f => (f.start, f.stop))) =
      some (true, [(0, 2), (0, 0), (1, 2)]) := by
  decide +kernel

/-- A fault with two others in it, of which one is a token that is assumed: the source is reported by
    the outer one. -/
theorem checked_faults_sample :
    ∃ p f rest, tolerant (Bytes.ofString ".@") = .ok p ∧ p.faults = f :: rest ∧
      strict (Bytes.ofString ".@") = .error (.parse f.position f.message f.context) ∧
      rest.length = 2 ∧ ∀ other ∈ rest, f.start ≤ other.start := by
  have hsample := tolerant_sample
  cases hp : tolerant (Bytes.ofString ".@") with
  | error e =>
    rw [hp] at hsample
    cases hsample
  | ok p =>
    rw [hp] at hsample
    simp only [Except.toOption, Option.map_some, Option.some.injEq, Prod.mk.injEq] at hsample
    obtain ⟨hmark, hfaults⟩ := hsample
    have hmarks : p.MarksFaults := by
      refine marksFaults_iff.2 (iff_of_true hmark fun hnone => ?_)
      rw [hnone] at hfaults
      cases hfaults
    obtain ⟨hstrict, haccepted, -, hsorted, hrejected, -⟩ :=
      checked_faults (root_ordered_of_tolerant hp) hmarks
    cases hlist : p.faults with
    | nil =>
      rw [hlist] at hfaults
      cases hfaults
    | cons f rest =>
      rw [hlist] at hfaults hsorted
      have hlength := congrArg List.length hfaults
      cases hchecked : p.checked with
      | ok q =>
        rw [haccepted.1 ⟨q, hchecked⟩] at hlist
        cases hlist
      | error e =>
        obtain ⟨first, others, -, -, hcons, rfl, -⟩ := hrejected e hchecked
        obtain ⟨rfl, rfl⟩ := List.cons.inj (hlist.symm.trans hcons)
        refine ⟨p, f, rest, rfl, hlist, ?_, ?_, (List.pairwise_cons.1 hsorted).1⟩
        · rw [hstrict _ hp, hchecked]
        · simpa using hlength

end Parsed

end SyscallGuard
