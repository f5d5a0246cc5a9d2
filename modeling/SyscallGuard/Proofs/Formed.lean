import SyscallGuard.Proofs.Grammar

set_option autoImplicit false

/-! # Trees that the grammar has formed

In a tree without faults every phrase is one that a reduction has made of parts that lead through the
automaton, and every leaf is a token of the source (`Tree.Formed`). What is known of phrases and of
tokens then holds of the text under the tree: where it begins (`Formed.opens`) and where it ends
(`Formed.closes`). Whether a tree is without faults is told by its cost, which is what its children
cost together (`Tree.owed`). -/

namespace SyscallGuard

open Bytes (isSpace)

namespace Tree

/-! ## Formed trees -/

/-- The labels of the trees that are no comments. -/
def labels (trees : List Tree) : List Label := (trees.filter fun t => !t.extra).map label

/-- A tree without faults, as the grammar forms it: a token as it is spelled, a phrase over parts of
    which the first and the last are no comments, or the whole of an empty source. -/
inductive Formed (source : Bytes) : Tree → Prop
  | token {info : TreeInfo} {t : Token} (label : info.label = .token t)
      (spelled : t.Spelled source info.start info.stop) : Formed source (.mk info [])
  | phrase {info : TreeInfo} {kids : List Tree} {r : Reduction} {first last : Tree}
      (label : info.label = .phrase r.phrase) (roles : info.roles = r.roles)
      (derives : Automaton.Derives r (labels kids))
      (head : kids.head? = some first) (head_extra : first.extra = false)
      (start : first.start = info.start)
      (getLast : kids.getLast? = some last) (getLast_extra : last.extra = false)
      (stop : last.stop = info.stop)
      (all : ∀ k ∈ kids, Formed source k) : Formed source (.mk info kids)
  | empty {info : TreeInfo} (label : info.label = .phrase .sourceFile) : Formed source (.mk info [])

theorem labels_cons_of_extra {t : Tree} (h : t.extra = true) (rest : List Tree) :
    labels (t :: rest) = labels rest := by
  simp [labels, h]

theorem labels_cons {t : Tree} (h : t.extra = false) (rest : List Tree) :
    labels (t :: rest) = t.label :: labels rest := by
  simp [labels, h]

theorem labels_append (trees others : List Tree) :
    labels (trees ++ others) = labels trees ++ labels others := by
  simp [labels]

theorem labels_of_head? {trees : List Tree} {first : Tree} (h : trees.head? = some first)
    (hextra : first.extra = false) : ∃ rest, labels trees = first.label :: rest := by
  obtain ⟨rest, rfl⟩ := List.head?_eq_some_iff.1 h
  exact ⟨_, labels_cons hextra rest⟩

theorem labels_of_getLast? {trees : List Tree} {last : Tree} (h : trees.getLast? = some last)
    (hextra : last.extra = false) : (labels trees).getLast? = some last.label := by
  obtain ⟨front, rfl⟩ := List.getLast?_eq_some_iff.1 h
  rw [labels_append, labels_cons hextra]
  simp [labels]

variable {source : Bytes} {t : Tree}

/-- What is known of a tree depends on its label, its roles, its range and its children. -/
theorem Formed.congr {info other : TreeInfo} {kids : List Tree} (h : (mk info kids).Formed source)
    (hlabel : other.label = info.label) (hroles : other.roles = info.roles)
    (hstart : other.start = info.start) (hstop : other.stop = info.stop) :
    (mk other kids).Formed source := by
  cases h with
  | token label spelled => exact .token (hlabel.trans label) (hstart ▸ hstop ▸ spelled)
  | phrase label roles derives head head_extra start getLast getLast_extra stop all =>
    exact .phrase (hlabel.trans label) (hroles.trans roles) derives head head_extra
      (start.trans hstart.symm) getLast getLast_extra (stop.trans hstop.symm) all
  | empty label => exact .empty (hlabel.trans label)

theorem Formed.asExtra (h : t.Formed source) : t.asExtra.Formed source := by
  obtain ⟨info, kids⟩ := t
  exact h.congr rfl rfl rfl rfl

theorem Formed.addWeight (h : t.Formed source) (w : Int) : (t.addWeight w).Formed source := by
  obtain ⟨info, kids⟩ := t
  exact h.congr rfl rfl rfl rfl

/-- The children of a formed phrase are formed. -/
theorem Formed.kids (h : t.Formed source) : ∀ k ∈ t.kids, k.Formed source := by
  cases h with
  | token | empty => exact fun k hk => nomatch hk
  | phrase _ _ _ _ _ _ _ _ _ all => exact all

/-- **How a tree begins**: with a byte that is no white space, unless it is loose. -/
theorem Formed.opens (h : t.Formed source) (ht : t.label.isLoose = false) :
    ∃ b, source[t.start]? = some b ∧ isSpace b = false := by
  induction h with
  | @token info t label spelled =>
    rw [show (mk info []).label = _ from label] at ht
    exact (spelled.opens ht).2
  | @phrase info kids r first last label _ derives head head_extra start _ _ _ _ ih =>
    obtain ⟨rest, hlabels⟩ := labels_of_head? head head_extra
    have hfirst : first.label.isLoose = false := by
      by_contra hloose
      rw [show (mk info kids).label = _ from label] at ht
      have hphrase : r.phrase.isLoose = true :=
        (hlabels ▸ derives).opens (Bool.not_eq_false _ ▸ hloose)
      rw [Label.isLoose, hphrase] at ht
      cases ht
    rw [show (mk info kids).start = first.start from start.symm]
    exact ih first (List.mem_of_mem_head? head) hfirst
  | empty label =>
    rw [show Tree.label (mk _ []) = _ from label] at ht
    cases ht

/-- **How a tree ends**: with the source, or with a byte that is no white space but a line feed,
    unless it is textual. -/
theorem Formed.closes (h : t.Formed source) (ht : t.label.isTextual = false)
    (hsource : t.label ≠ .phrase .sourceFile) :
    t.stop = source.length ∨
      ∃ b, source[t.stop - 1]? = some b ∧ (isSpace b = false ∨ b = Bytes.newline) := by
  induction h with
  | @token info t label spelled =>
    rw [show (mk info []).label = _ from label] at ht
    exact spelled.closes ht
  | @phrase info kids r first last label _ derives _ _ _ getLast getLast_extra stop _ ih =>
    have hlabels := labels_of_getLast? getLast getLast_extra
    rw [show (mk info kids).label = _ from label] at ht
    have hlast : last.label.isTextual = false := by
      by_contra htextual
      rw [derives.closes hlabels (Bool.not_eq_false _ ▸ htextual)] at ht
      cases ht
    rw [show (mk info kids).stop = last.stop from stop.symm]
    exact ih last (List.mem_of_getLast? getLast) hlast
      (derives.ne_sourceFile (List.mem_of_getLast? hlabels))
  | empty label => exact absurd label hsource

/-! ## Costs -/

/-- What trees cost together when they become the children of a tree. -/
def owed (trees : List Tree) : Nat :=
  (trees.map fun t => if t.label = .skipped then 0 else t.cost).sum

theorem owed_cons (t : Tree) (rest : List Tree) :
    owed (t :: rest) = (if t.label = .skipped then 0 else t.cost) + owed rest := by
  simp [owed]

theorem owed_append (trees others : List Tree) :
    owed (trees ++ others) = owed trees + owed others := by
  simp [owed]

/-- Trees that cost nothing together cost nothing each. -/
theorem cost_of_owed {trees : List Tree} (h : owed trees = 0) {t : Tree} (ht : t ∈ trees) :
    t.label = .skipped ∨ t.cost = 0 := by
  induction trees with
  | nil => cases ht
  | cons first rest ih =>
    rw [owed_cons, Nat.add_eq_zero_iff] at h
    rcases List.mem_cons.1 ht with rfl | ht
    · by_cases hlabel : t.label = .skipped
      · exact .inl hlabel
      · exact .inr (by simpa [hlabel] using h.1)
    · exact ih h.2 ht

theorem cost_totals (roles : List Role) (trees : List Tree) :
    (totals false roles trees).cost = owed trees := by
  induction trees generalizing roles with
  | nil => rfl
  | cons t rest ih =>
    rw [totals]
    simp only [ih, Bool.false_eq_true, if_false, Nat.add_zero]
    simp [owed]

variable {input : Input} {label : Label} {roles : List Role} {kids : List Tree} {offset : Nat}

/-- A phrase costs what its children cost. -/
theorem cost_branch (h : label.isFaulty = false) :
    (branch input label roles kids offset).cost = owed kids := by
  simp only [branch, cost, info, h, Bool.false_eq_true, if_false, Nat.add_zero]
  exact cost_totals roles kids

/-- A fault costs something. -/
theorem cost_branch_pos (h : label.isFaulty = true) :
    0 < (branch input label roles kids offset).cost := by
  simp only [branch, cost, info, h, if_true, Cost.recovery]
  omega

/-- The phrase that a reduction makes of formed trees. -/
theorem formed_branch {r : Reduction} (hderives : Automaton.Derives r (labels kids))
    (hfirst : ∀ t, kids.head? = some t → t.extra = false)
    (hlast : ∀ t, kids.getLast? = some t → t.extra = false)
    (hkids : ∀ k ∈ kids, k.Formed source) :
    (branch input (.phrase r.phrase) r.roles kids offset).Formed source := by
  match kids with
  | [] =>
    have hphrase : r.phrase = .sourceFile := by
      by_contra hne
      exact hderives.length_pos hne rfl
    exact .empty (by rw [hphrase])
  | first :: rest =>
    have hgetLast :
        (first :: rest).getLast? = some ((first :: rest).getLast (List.cons_ne_nil _ _)) :=
      List.getLast?_eq_some_getLast _
    refine .phrase rfl rfl hderives rfl (hfirst first rfl) rfl hgetLast (hlast _ hgetLast) ?_ hkids
    simp only [hgetLast, Option.map_some, Option.getD_some]

end Tree

end SyscallGuard
