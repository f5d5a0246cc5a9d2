import SyscallGuard.Proofs.Detection
import SyscallGuard.Proofs.Run

set_option autoImplicit false

/-! # The syntax of valid sources

Every node of a valid source shows a tree that the grammar has formed (`Parsed.shows_of_strict`). So
a node begins with a byte that is no white space, unless it stands for something loose
(`Node.Shows.opens`), it does not end with white space other than a line feed (`Node.Shows.closes`),
and a call begins with what it calls (`Node.Shows.callee`). -/

namespace SyscallGuard

open Bytes (isSpace newline)

/-! ## Nodes of formed trees -/

/-- A node shows a formed tree: it has the tree's range and shows its children, and its kind is that
    of the tree, unless it is a name under a more precise kind. -/
structure Node.Shows (source : Bytes) (n : Node) (t : Tree) : Prop where
  formed : t.Formed source
  start_eq : n.start = t.start
  stop_eq : n.stop = t.stop
  children_eq : n.children = Tree.kidNodes .plain t.info.roles t.kids
  kind_eq : n.kind = .ofLabel t.label ∨ ∃ r, n.kind = .role r

namespace Tree

variable {source : Bytes}

mutual

theorem toNodes_shown : ∀ {t : Tree} (role : Role), t.Formed source →
    ∀ n ∈ Node.preorderAll (t.toNodes role), ∃ u, n.Shows source u
  | mk info kids, role, h, n, hn => by
    rw [toNodes] at hn
    split at hn
    · rcases List.mem_cons.1 (by simpa [Node.preorderAll, Node.preorder] using hn) with rfl | hn
      · exact ⟨_, h, rfl, rfl, rfl, .inr ⟨role, rfl⟩⟩
      · exact kidNodes_shown _ _ h.kids n hn
    · split at hn
      · rcases List.mem_cons.1 (by simpa [Node.preorderAll, Node.preorder] using hn) with rfl | hn
        · exact ⟨_, h, rfl, rfl, rfl, .inl rfl⟩
        · exact kidNodes_shown _ _ h.kids n hn
      · exact kidNodes_shown _ _ h.kids n hn

theorem kidNodes_shown : ∀ {kids : List Tree} (inherited : Role) (roles : List Role),
    (∀ k ∈ kids, k.Formed source) →
    ∀ n ∈ Node.preorderAll (kidNodes inherited roles kids), ∃ u, n.Shows source u
  | [], _, _, _, n, hn => by
    rw [kidNodes, Node.preorderAll] at hn
    cases hn
  | mk info kids :: rest, inherited, roles, h, n, hn => by
    have hfirst := h (mk info kids) List.mem_cons_self
    have hrest := fun k hk => h k (List.mem_cons_of_mem _ hk)
    rw [kidNodes] at hn
    split at hn
    · rw [Node.preorderAll_append] at hn
      rcases List.mem_append.1 hn with hn | hn
      · exact toNodes_shown _ hfirst n hn
      · exact kidNodes_shown _ _ hrest n hn
    · rw [Node.preorderAll_append] at hn
      rcases List.mem_append.1 hn with hn | hn
      · exact toNodes_shown _ hfirst n hn
      · exact kidNodes_shown _ _ hrest n hn

end

/-- The nodes of some children begin with those of the first. -/
theorem head?_kidNodes {first : Tree} (h : first.extra = false) (inherited : Role)
    (roles : List Role) {rest : List Tree} {f : Node}
    (hf : (first.toNodes (if roles.headD .plain = .plain then inherited
      else roles.headD .plain)).head? = some f) :
    (kidNodes inherited roles (first :: rest)).head? = some f := by
  obtain ⟨info, kids⟩ := first
  rw [kidNodes, if_neg (by rw [show info.extra = false from h]; simp), List.head?_append, hf]
  rfl

/-- What has a node of its own begins with it. -/
theorem head?_toNodes {t : Tree} (h : t.label.isVisible = true) :
    ∃ f, (t.toNodes .function).head? = some f ∧ f.role = .function ∧ f.start = t.start := by
  obtain ⟨info, kids⟩ := t
  rw [toNodes, if_neg (by simp [namesChild]), if_pos (show info.label.isVisible = true from h)]
  exact ⟨_, rfl, rfl, rfl⟩

theorem Formed.head?_toNodes {t : Tree} (h : t.Formed source) (hcallee : t.label.isCallee = true) :
    ∃ f, (t.toNodes .function).head? = some f ∧ f.role = .function ∧ f.start = t.start := by
  cases h with
  | @token info t label spelled =>
    refine Tree.head?_toNodes ?_
    rw [show (mk info []).label = _ from label] at hcallee ⊢
    cases t <;> first | rfl | cases hcallee
  | @phrase info kids r first last label roles derives head head_extra start =>
    rw [show (mk info kids).label = _ from label] at hcallee
    have hphrase : r.phrase = .expression := by simpa [Label.isCallee] using hcallee
    have hhidden : info.label.isVisible = false := by rw [label, hphrase]; rfl
    have hroles : ∀ r ∈ Reduction.all, r.phrase = .expression → r.roles = [] := by decide +kernel
    -- An expression only stands for its operand.
    obtain ⟨l, hlabels, hvisible⟩ := derives.operand hphrase
    obtain ⟨rest, hfirst⟩ := labels_of_head? head head_extra
    obtain ⟨rfl, -⟩ := List.cons.inj (hfirst.symm.trans hlabels)
    obtain ⟨f, hf, hrole, hstart⟩ := Tree.head?_toNodes hvisible
    obtain ⟨others, rfl⟩ := List.head?_eq_some_iff.1 head
    refine ⟨f, ?_, hrole, hstart.trans start⟩
    rw [toNodes, if_neg (by simp [namesChild]), if_neg (by simp [hhidden]), roles,
      hroles r derives.mem_all hphrase]
    exact head?_kidNodes head_extra _ _ hf
  | empty label =>
    rw [show Tree.label (mk _ []) = _ from label] at hcallee
    cases hcallee

/-- The first child of a call is what it calls. -/
theorem Formed.head?_kidNodes {t : Tree} (h : t.Formed source)
    (hlabel : t.label = .phrase .callExpression) :
    ∃ f, (kidNodes .plain t.info.roles t.kids).head? = some f ∧ f.role = .function ∧
      f.start = t.start := by
  cases h with
  | token label | empty label =>
    rw [show Tree.label (mk _ []) = _ from label] at hlabel
    cases hlabel
  | @phrase info kids r first last label roles derives head head_extra start _ _ _ all =>
    have hphrase : r.phrase = .callExpression := Label.phrase.inj (label.symm.trans hlabel)
    have hroles : ∀ r ∈ Reduction.all, r.phrase = .callExpression → r.roles = [.function] := by
      decide +kernel
    obtain ⟨l, labels, hlabels, hcallee⟩ := derives.callee hphrase
    obtain ⟨rest, hfirst⟩ := labels_of_head? head head_extra
    obtain ⟨rfl, -⟩ := List.cons.inj (hfirst.symm.trans hlabels)
    obtain ⟨f, hf, hrole, hstart⟩ := (all first (List.mem_of_head? head)).head?_toNodes hcallee
    obtain ⟨others, rfl⟩ := List.head?_eq_some_iff.1 head
    refine ⟨f, ?_, hrole, hstart.trans start⟩
    rw [show (mk info (first :: others)).info.roles = _ from roles, hroles r derives.mem_all hphrase]
    exact Tree.head?_kidNodes head_extra _ _ hf

end Tree

namespace Node.Shows

variable {source : Bytes} {n : Node} {t : Tree}

theorem label_of_phrase (h : n.Shows source t) {p : Phrase} (hkind : n.kind = .phrase p) :
    ∃ q, t.label = .phrase q ∧ q.shownAs = p := by
  rcases h.kind_eq with hlabel | ⟨r, hrole⟩
  · rw [hkind] at hlabel
    cases ht : t.label with
    | phrase q =>
      rw [ht] at hlabel
      exact ⟨q, rfl, (Kind.phrase.inj hlabel).symm⟩
    | token u => rw [ht] at hlabel; cases u <;> cases hlabel
    | fault | skipped => rw [ht] at hlabel; cases hlabel
  · rw [hkind] at hrole
    cases hrole

theorem label_of_token (h : n.Shows source t) {u : Token} (hkind : n.kind = .token u) :
    ∃ v, t.label = .token v ∧ Kind.ofToken v = .token u := by
  rcases h.kind_eq with hlabel | ⟨r, hrole⟩
  · rw [hkind] at hlabel
    cases ht : t.label with
    | token v =>
      rw [ht] at hlabel
      exact ⟨v, rfl, hlabel.symm⟩
    | phrase q | fault | skipped => rw [ht] at hlabel; cases hlabel
  · rw [hkind] at hrole
    cases hrole

/-- **How a phrase begins**: with a byte that is no white space, unless it is loose. -/
theorem opens (h : n.Shows source t) {p : Phrase} (hkind : n.kind = .phrase p)
    (hp : p.isLoose = false) : ∃ b, source[n.start]? = some b ∧ isSpace b = false := by
  obtain ⟨q, hlabel, rfl⟩ := h.label_of_phrase hkind
  have hloose : q.isLoose = false := by
    cases q <;> exact hp
  rw [h.start_eq]
  exact h.formed.opens (by rw [hlabel]; exact hloose)

/-- **How a phrase ends**: with the source, or with a byte that is no white space but a line feed. -/
theorem closes (h : n.Shows source t) {p : Phrase} (hkind : n.kind = .phrase p)
    (hp : p.isLoose = false) : n.stop = source.length ∨
      ∃ b, source[n.stop - 1]? = some b ∧ (isSpace b = false ∨ b = newline) := by
  obtain ⟨q, hlabel, rfl⟩ := h.label_of_phrase hkind
  rw [h.stop_eq]
  refine h.formed.closes ?_ ?_
  · rw [hlabel]
    cases q <;> first | rfl | cases hp
  · rw [hlabel]
    rintro ⟨⟩
    cases hp

theorem closes_token (h : n.Shows source t) {u : Token} (hkind : n.kind = .token u)
    (hu : u.isTextual = false) : n.stop = source.length ∨
      ∃ b, source[n.stop - 1]? = some b ∧ (isSpace b = false ∨ b = newline) := by
  obtain ⟨v, hlabel, hv⟩ := h.label_of_token hkind
  have htextual : v.isTextual = false := by
    cases v <;> first | rfl | (cases hv; exact hu)
  rw [h.stop_eq]
  exact h.formed.closes (by rw [hlabel]; exact htextual) (by rw [hlabel]; nofun)

/-- **How a call begins**: with what it calls. -/
theorem callee (h : n.Shows source t) (hkind : n.kind = .phrase .callExpression) :
    ∃ f, n.children.head? = some f ∧ f.role = .function ∧ f.start = n.start := by
  obtain ⟨q, hlabel, hq⟩ := h.label_of_phrase hkind
  obtain rfl : q = .callExpression := by
    cases q <;> first | rfl | cases hq
  rw [h.children_eq, h.start_eq]
  exact h.formed.head?_kidNodes hlabel

end Node.Shows

/-- **The nodes of a valid source** show trees that the grammar has formed. -/
theorem Parsed.shows_of_strict {source : Bytes} {p : Parsed} (h : Parsed.strict source = .ok p)
    {n : Node} (hn : n ∈ p.root.preorder) (hkind : n.kind ≠ .phrase .sourceFile) :
    ∃ t, n.Shows source t := by
  obtain ⟨t, hparse, rfl, hcost⟩ := Parsed.exists_of_strict h
  obtain ⟨hlabel, hkids⟩ := Tree.whole_of_parse? hparse hcost
  rw [Tree.root, Node.preorder] at hn
  rcases List.mem_cons.1 hn with rfl | hn
  · exact absurd (congrArg Kind.ofLabel hlabel) hkind
  · exact Tree.kidNodes_shown _ _ hkids n hn

end SyscallGuard
