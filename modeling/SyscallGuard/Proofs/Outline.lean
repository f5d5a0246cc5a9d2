import SyscallGuard.Proofs.Sites
import Mathlib.Data.List.Forall2

set_option autoImplicit false

/-! # Outlines of trees

The *outline* of a tree shows how a source is read apart from its guards: guards are left out, a
label stands beside its statement, since a guard in between takes the label, and every node is moved
to where it would stand in another text. The sites of a tree can be read off its outline
(`Node.ofTree_outline`): each of them is found again at its new place, whatever is known to be
carried over from the old text to the new one (`Site.ReadAgain`). So two trees with one outline have
sites that correspond. -/

namespace SyscallGuard

/-! ## Trees can be compared -/

namespace Node

mutual

def decEq : (a b : Node) → Decidable (a = b)
  | mk i as, mk j bs =>
    if hinfo : i = j then
      match decEqAll as bs with
      | .isTrue h => .isTrue (by rw [hinfo, h])
      | .isFalse h => .isFalse fun heq => h (Node.mk.inj heq).2
    else .isFalse fun heq => hinfo (Node.mk.inj heq).1

def decEqAll : (as bs : List Node) → Decidable (as = bs)
  | [], [] => .isTrue rfl
  | [], _ :: _ => .isFalse nofun
  | _ :: _, [] => .isFalse nofun
  | a :: as, b :: bs =>
    match decEq a b with
    | .isFalse h => .isFalse fun heq => h (List.cons.inj heq).1
    | .isTrue h =>
      match decEqAll as bs with
      | .isTrue hrest => .isTrue (by rw [h, hrest])
      | .isFalse hrest => .isFalse fun heq => hrest (List.cons.inj heq).2

end

instance : DecidableEq Node := decEq

end Node

/-! ## Outlines -/

namespace Kind

/-- The kinds whose children are statements. -/
def holdsStatements : Kind → Bool
  | phrase .sourceFile | phrase .block | phrase .expressionCase | phrase .defaultCase
  | phrase .typeCase | phrase .communicationCase => true
  | _ => false

/-- The kinds that have no end of their own, so that a guard behind the last of their lines
    prolongs them. -/
def isOpen : Kind → Bool
  | phrase .block => false
  | token .rawText => true
  | k => k.holdsStatements

end Kind

namespace NodeInfo

/-- Whether the children are statements; the values of an assignment never are. -/
def holdsStatements (i : NodeInfo) : Bool := i.kind.holdsStatements && i.role != .right

/-- A node in another place. Open nodes have none. -/
def placed (place : Nat × Nat → Nat × Nat) (i : NodeInfo) : NodeInfo :=
  if i.kind.isOpen then { i with start := 0, stop := 0 }
  else { i with start := (place (i.start, i.stop)).1, stop := (place (i.start, i.stop)).2 }

end NodeInfo

namespace Node

/-- Whether a node is a guard: a statement that begins with the marker and has no site in it. -/
def isGuard (text : Bytes) (n : Node) : Bool :=
  n.kind == .phrase .expressionStatement
    && (Bytes.ofString Guard.marker).isPrefixOf (text.slice n.start n.stop)
    && (Site.ofTree text n).isEmpty

section Outline

variable (text : Bytes) (place : Nat × Nat → Nat × Nat)

mutual

/-- A node with everything in its new place, without guards, and with labels beside their
    statements. -/
def outline : Node → Node
  | mk info children =>
    mk (info.placed place)
      (if info.holdsStatements then outlineStatements children else outlineAll children)

/-- The outlines of nodes. -/
def outlineAll : List Node → List Node
  | [] => []
  | n :: rest => outline n :: outlineAll rest

/-- The outlines of statements. -/
def outlineStatements : List Node → List Node
  | [] => []
  | mk info children :: rest =>
    if isGuard text (mk info children) then outlineStatements rest
    else if info.kind = .phrase .labeledStatement then
      outlineStatements children ++ outlineStatements rest
    else outline (mk info children) :: outlineStatements rest

end

@[simp] theorem info_outline (n : Node) : (n.outline text place).info = n.info.placed place := by
  cases n
  rfl

@[simp] theorem kind_outline (n : Node) : (n.outline text place).kind = n.kind := by
  rw [kind, info_outline, NodeInfo.placed]
  split <;> rfl

@[simp] theorem role_outline (n : Node) : (n.outline text place).role = n.role := by
  rw [role, info_outline, NodeInfo.placed]
  split <;> rfl

@[simp] theorem extra_outline (n : Node) : (n.outline text place).extra = n.extra := by
  rw [extra, info_outline, NodeInfo.placed]
  split <;> rfl

@[simp] theorem isNamed_outline (n : Node) : (n.outline text place).isNamed = n.isNamed := by
  rw [isNamed, isNamed, kind_outline]

theorem outlineAll_eq_map (nodes : List Node) :
    outlineAll text place nodes = nodes.map (outline text place) := by
  induction nodes with
  | nil => rfl
  | cons n rest ih => rw [outlineAll, ih, List.map_cons]

variable {text place}

/-- Where no statements stand, nothing is left out. -/
theorem children_outline {n : Node} (h : n.info.holdsStatements = false) :
    (n.outline text place).children = n.children.map (outline text place) := by
  obtain ⟨info, kids⟩ := n
  rw [outline, show info.holdsStatements = false from h, if_neg Bool.false_ne_true,
    outlineAll_eq_map]
  rfl

theorem namedChildren_outline {n : Node} (h : n.info.holdsStatements = false) :
    (n.outline text place).namedChildren = n.namedChildren.map (outline text place) := by
  rw [namedChildren, children_outline h, List.filter_map, namedChildren]
  congr 2
  exact funext fun c => isNamed_outline text place c

theorem child?_outline {n : Node} (h : n.info.holdsStatements = false) (r : Role) :
    (n.outline text place).child? r = (n.child? r).map (outline text place) := by
  rw [child?, children_outline h, List.find?_map, child?]
  congr 2
  exact funext fun c => congrArg (· == r) (role_outline text place c)

end Outline

/-! ## What a statement calls -/

theorem preorder_subset_preorderAll {n : Node} {nodes : List Node} (h : n ∈ nodes) :
    n.preorder ⊆ preorderAll nodes := by
  induction nodes with
  | nil => cases h
  | cons first rest ih =>
    rw [preorderAll]
    rcases List.mem_cons.1 h with rfl | h
    · exact List.subset_append_left _ _
    · exact List.Subset.trans (ih h) (List.subset_append_right _ _)

/-- What lies below a child lies below the node. -/
theorem preorder_subset_of_mem_children {n child : Node} (h : child ∈ n.children) :
    child.preorder ⊆ n.preorder := by
  obtain ⟨info, kids⟩ := n
  rw [preorder]
  exact List.Subset.trans (preorder_subset_preorderAll h) (List.subset_cons_self _ _)

theorem preorderAll_append (nodes others : List Node) :
    preorderAll (nodes ++ others) = preorderAll nodes ++ preorderAll others := by
  induction nodes with
  | nil => rfl
  | cons n rest ih => rw [List.cons_append, preorderAll, ih, preorderAll, List.append_assoc]

theorem mem_preorder_self (n : Node) : n ∈ n.preorder := by
  cases n
  exact List.mem_cons_self

/-- The name that a node calls, if it is a call of a bare name. -/
def callee? (n : Node) : Option Node :=
  if n.kind = .phrase .callExpression then
    (n.child? .function).filter fun f => f.kind == .token .identifier
  else none

/-- The kinds of a call and of the name that is called. -/
theorem kind_of_callee? {n name : Node} (h : n.callee? = some name) :
    n.kind = .phrase .callExpression ∧ name.kind = .token .identifier := by
  rw [callee?] at h
  split at h
  · next hkind => exact ⟨hkind, by simpa using (Option.filter_eq_some_iff.1 h).2⟩
  · cases h

theorem callee?_outline {text : Bytes} {place : Nat × Nat → Nat × Nat} (n : Node) :
    (n.outline text place).callee? = n.callee?.map (outline text place) := by
  rw [callee?, callee?, kind_outline]
  split
  · next h =>
    have hholds : n.info.holdsStatements = false := by
      rw [NodeInfo.holdsStatements, show n.info.kind = _ from h]
      rfl
    rw [child?_outline hholds]
    cases n.child? .function with
    | none => rfl
    | some f =>
      simp only [Option.map_some, Option.filter_some, kind_outline]
      split <;> rfl
  · rfl

end Node

namespace Site

/-- The site of a statement, a call in it and the name that is called. -/
def read (text : Bytes) (statement call name : NodeInfo) : Option Site :=
  (Primitive.ofName? (text.slice name.start name.stop)).map fun p =>
    ⟨.ofOffset text statement.start, call.start, call.stop, p⟩

theorem calls?_eq (text : Bytes) (n : Node) :
    calls? text n = n.callee?.bind fun f => Primitive.ofName? (text.slice f.start f.stop) := by
  rw [calls?, Node.callee?]
  split
  · cases n.child? .function with
    | none => rfl
    | some f =>
      simp only [Option.filter_some, beq_iff_eq]
      split <;> rfl
  · rfl

theorem ofStatement_eq (text : Bytes) (n : Node) :
    ofStatement text n = (candidates n).filterMap fun call =>
      call.callee?.bind fun name => read text n.info call.info name.info := by
  rw [ofStatement]
  congr 1
  funext call
  rw [calls?_eq, Option.map_bind]
  rfl

theorem candidates_eq (n : Node) :
    candidates n =
      if n.kind = .phrase .expressionStatement then
        if (n.namedChildren.filter fun c => !c.extra).length = 1 then
          n.namedChildren.filter fun c => !c.extra
        else []
      else if n.kind = .phrase .shortVarDeclaration ∨ n.kind = .phrase .assignmentStatement then
        ((n.child? .right).map Node.namedChildren).getD []
      else [] := by
  rw [candidates]
  split
  · next hkind =>
    rw [if_pos hkind]
    split
    · next h => rw [h, List.length_singleton, if_pos rfl]
    · next h => rw [if_neg fun hlen => (List.length_eq_one_iff.1 hlen).elim h]
  · next hkind =>
    rw [if_neg (by simp [hkind]), if_pos (.inl hkind)]
    cases n.child? .right <;> rfl
  · next hkind =>
    rw [if_neg (by simp [hkind]), if_pos (.inr hkind)]
    cases n.child? .right <;> rfl
  · next hstatement hdeclaration hassignment =>
    rw [if_neg hstatement, if_neg (not_or.2 ⟨hdeclaration, hassignment⟩)]

theorem candidates_outline {text : Bytes} {place : Nat × Nat → Nat × Nat} (n : Node) :
    candidates (n.outline text place) = (candidates n).map (Node.outline text place) := by
  have hholds : ∀ p : Phrase, n.kind = .phrase p → Kind.holdsStatements (.phrase p) = false →
      n.info.holdsStatements = false := by
    intro p hkind hp
    rw [NodeInfo.holdsStatements, show n.info.kind = _ from hkind, hp, Bool.false_and]
  rw [candidates_eq, candidates_eq, Node.kind_outline]
  split
  · next hkind =>
    rw [Node.namedChildren_outline (hholds _ hkind rfl), List.filter_map, List.length_map]
    simp only [Function.comp_def, Node.extra_outline]
    split <;> rfl
  · split
    · next hkind =>
      rw [Node.child?_outline (hkind.elim (hholds _ · rfl) (hholds _ · rfl))]
      cases hright : n.child? .right with
      | none => rfl
      | some values =>
        have hrole : (values.role == .right) = true :=
          List.find?_some (p := fun c : Node => c.role == .right) hright
        refine Node.namedChildren_outline ?_
        rw [NodeInfo.holdsStatements, show values.info.role = .right from eq_of_beq hrole,
          bne_self_eq_false, Bool.and_false]
    · rfl

theorem isOpen_of_mem_candidates {n call : Node} (h : call ∈ candidates n) :
    n.kind.isOpen = false := by
  rw [candidates_eq] at h
  split at h
  · next hkind => rw [hkind]; rfl
  · split at h
    · next hkind => rcases hkind with hkind | hkind <;> (rw [hkind]; rfl)
    · cases h

/-- The calls of a statement lie below it. -/
theorem mem_preorder_of_mem_candidates {n call : Node} (h : call ∈ candidates n) :
    call ∈ n.preorder := by
  rw [candidates_eq] at h
  split at h
  · split at h
    · exact Node.preorder_subset_of_mem_children
        (List.mem_of_mem_filter (List.mem_of_mem_filter h)) call.mem_preorder_self
    · cases h
  · split at h
    · cases hright : n.child? .right with
      | none => simp [hright] at h
      | some values =>
        rw [hright] at h
        exact Node.preorder_subset_of_mem_children (List.mem_of_find?_eq_some hright)
          (Node.preorder_subset_of_mem_children (List.mem_of_mem_filter h) call.mem_preorder_self)
    · cases h

end Site

/-! ## Sites of an outline -/

theorem forall₂_filterMap {α β γ : Type} {R : β → γ → Prop} {f : α → Option β} {g : α → Option γ}
    {l : List α} (h : ∀ a ∈ l, Option.Rel R (f a) (g a)) :
    List.Forall₂ R (l.filterMap f) (l.filterMap g) := by
  have hsame : List.Forall₂ (fun a b => a = b ∧ a ∈ l) l l :=
    List.forall₂_same.2 fun a ha => ⟨rfl, ha⟩
  exact List.rel_filterMap (by rintro a _ ⟨rfl, ha⟩; exact h a ha) hsame

section Outline

variable {text edited : Bytes} {place : Nat × Nat → Nat × Nat} {limit : Nat}
  {R : Site → Site → Prop}

/-- What is read at nodes of a text is read again at their places in the edited text. -/
def Site.ReadAgain (text edited : Bytes) (place : Nat × Nat → Nat × Nat) (limit : Nat)
    (R : Site → Site → Prop) : Prop :=
  ∀ statement call name : NodeInfo, statement.kind.isOpen = false → call.kind.isOpen = false →
    name.kind.isOpen = false → call.stop ≤ limit →
    Option.Rel R (Site.read text statement call name)
      (Site.read edited (statement.placed place) (call.placed place) (name.placed place))

theorem Site.ofStatement_outline (hread : Site.ReadAgain text edited place limit R) {n : Node}
    (hlimit : ∀ k ∈ n.preorder, k.stop ≤ limit) :
    List.Forall₂ R (Site.ofStatement text n) (Site.ofStatement edited (n.outline text place)) := by
  rw [Site.ofStatement_eq, Site.ofStatement_eq, Site.candidates_outline, List.filterMap_map]
  refine forall₂_filterMap fun call hcall => ?_
  rw [Function.comp_apply, Node.callee?_outline]
  cases hname : call.callee? with
  | none => exact .none
  | some name =>
    rw [Option.map_some, Option.bind_some, Option.bind_some, Node.info_outline, Node.info_outline,
      Node.info_outline]
    refine hread _ _ _ (Site.isOpen_of_mem_candidates hcall) ?_ ?_
      (hlimit call (Site.mem_preorder_of_mem_candidates hcall))
    · rw [show call.info.kind = _ from (Node.kind_of_callee? hname).1]
      rfl
    · rw [show name.info.kind = _ from (Node.kind_of_callee? hname).2]
      rfl

mutual

/-- **The sites of an outline** are the sites of the tree, each in its new place. -/
theorem Node.ofTree_outline (hread : Site.ReadAgain text edited place limit R) :
    ∀ {n : Node}, (∀ k ∈ n.preorder, k.stop ≤ limit) →
    List.Forall₂ R (Site.ofTree text n) (Site.ofTree edited (n.outline text place))
  | .mk info children, hlimit => by
    have hhead := Site.ofStatement_outline hread hlimit
    have hbelow : ∀ k ∈ preorderAll children, k.stop ≤ limit := fun k hk =>
      hlimit k (by rw [preorder]; exact List.mem_cons_of_mem _ hk)
    rw [Site.ofTree, Site.ofTree, preorder, List.flatMap_cons]
    rw [outline] at hhead ⊢
    rw [preorder, List.flatMap_cons]
    refine List.rel_append hhead ?_
    split
    · exact ofTrees_outlineStatements hread hbelow
    · exact ofTrees_outlineAll hread hbelow

theorem Node.ofTrees_outlineAll (hread : Site.ReadAgain text edited place limit R) :
    ∀ {nodes : List Node}, (∀ k ∈ preorderAll nodes, k.stop ≤ limit) →
    List.Forall₂ R ((preorderAll nodes).flatMap (Site.ofStatement text))
      ((preorderAll (outlineAll text place nodes)).flatMap (Site.ofStatement edited))
  | [], _ => by
    rw [outlineAll, preorderAll]
    exact .nil
  | n :: rest, hlimit => by
    rw [preorderAll, List.forall_mem_append] at hlimit
    rw [outlineAll, preorderAll, preorderAll, List.flatMap_append, List.flatMap_append]
    exact List.rel_append (ofTree_outline hread hlimit.1) (ofTrees_outlineAll hread hlimit.2)

theorem Node.ofTrees_outlineStatements (hread : Site.ReadAgain text edited place limit R) :
    ∀ {nodes : List Node}, (∀ k ∈ preorderAll nodes, k.stop ≤ limit) →
    List.Forall₂ R ((preorderAll nodes).flatMap (Site.ofStatement text))
      ((preorderAll (outlineStatements text place nodes)).flatMap (Site.ofStatement edited))
  | [], _ => by
    rw [outlineStatements, preorderAll]
    exact .nil
  | .mk info children :: rest, hlimit => by
    rw [preorderAll, List.forall_mem_append] at hlimit
    have hrest := ofTrees_outlineStatements hread hlimit.2
    rw [outlineStatements, preorderAll, List.flatMap_append]
    split
    · next hguard =>
      -- A guard has no sites.
      have hnone : Site.ofTree text (.mk info children) = [] :=
        List.isEmpty_iff.1 (Bool.and_eq_true_iff.1 hguard).2
      rw [show (preorder (.mk info children)).flatMap (Site.ofStatement text) = [] from hnone]
      exact hrest
    · split
      · next hlabel =>
        -- A label has no site of its own.
        have hown : Site.ofStatement text (.mk info children) = [] := by
          rw [Site.ofStatement, Site.candidates_eq, show Node.kind (.mk info children) = _ from hlabel]
          rfl
        have hbelow : ∀ k ∈ preorderAll children, k.stop ≤ limit := fun k hk =>
          hlimit.1 k (by rw [preorder]; exact List.mem_cons_of_mem _ hk)
        rw [preorder, List.flatMap_cons, hown, List.nil_append, preorderAll_append,
          List.flatMap_append]
        exact List.rel_append (ofTrees_outlineStatements hread hbelow) hrest
      · rw [preorderAll, List.flatMap_append]
        exact List.rel_append (ofTree_outline hread hlimit.1) hrest

end

end Outline

end SyscallGuard
