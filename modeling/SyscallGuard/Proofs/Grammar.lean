import SyscallGuard.Grammar.Automaton
import SyscallGuard.Parse.Tree
import SyscallGuard.Proofs.Spelling
import Mathlib.Data.List.Basic

set_option autoImplicit false

/-! # What phrases are made of

The automaton has no list of productions: what a phrase is made of follows from its moves. The labels
of the trees that a reduction takes off are those of a way through the automaton (`Automaton.Walk`)
that ends where the reduction can be made, and that begins where its phrase has a move
(`Automaton.Derives`). Three things about such ways are needed: how phrases begin, how they end, and
that a call begins with what it calls. Each follows from what the moves into and out of single states
are, which is checked row by row (`rows_checked`). -/

namespace SyscallGuard

/-! ## Classes of phrases and labels -/

namespace Phrase

/-- May begin with a loose token, or be empty. -/
def isLoose : Phrase → Bool
  | sourceFile | importSpecListRun | fieldDeclarationListRun | interfaceTypeRun | statementListRun
  | interpretedStringLiteralRun => true
  | _ => false

end Phrase

namespace Label

/-- May begin with white space, or take no room at all. -/
def isLoose : Label → Bool
  | token t => t.isLoose
  | phrase p => p.isLoose
  | fault | skipped => true

/-- May end with anything. -/
def isTextual : Label → Bool
  | token t => t.isTextual
  | phrase p => p == .interpretedStringLiteralRun
  | fault | skipped => true

/-- What a call can begin with: an expression, or the name of one of the functions that take a
    type. -/
def isCallee : Label → Bool
  | token t => t == .kwNew || t == .kwMake
  | phrase p => p == .expression
  | fault | skipped => false

end Label

/-! ## Places of labels -/

theorem Token.code_injective : Function.Injective Token.code :=
  Function.LeftInverse.injective Token.ofNat_ctorIdx

theorem Phrase.code_injective : Function.Injective Phrase.code :=
  Function.LeftInverse.injective Phrase.ofNat_ctorIdx

theorem Token.code_lt (t : Token) : t.code < 1000 := by
  cases t <;> decide

theorem Phrase.code_lt (p : Phrase) : p.code < 1000 := by
  cases p <;> decide

theorem Label.rank_injective : Function.Injective Label.rank := by
  intro l m h
  have htoken := Token.code_lt
  have hphrase := Phrase.code_lt
  cases l with
  | token t => cases m with
    | token u => rw [Token.code_injective h]
    | phrase p | fault | skipped => grind [rank]
  | phrase p => cases m with
    | phrase q => rw [Phrase.code_injective (Nat.add_left_cancel h)]
    | token u | fault | skipped => grind [rank]
  | fault => cases m with
    | fault => rfl
    | token t | phrase p | skipped => grind [rank]
  | skipped => cases m with
    | skipped => rfl
    | token t | phrase p | fault => grind [rank]

namespace Automaton

/-! ## Ways through the automaton -/

/-- A move from state to state on a token or a phrase. -/
def Edge (s : State) (l : Label) (target : State) : Prop :=
  match l with
  | .token t => ((row s).shift? t).map Shift.target = some target
  | .phrase p => (row s).gotos.lookup p.code = some target
  | .fault | .skipped => False

/-- Several moves one after the other. -/
inductive Walk : State → List Label → State → Prop
  | nil (s : State) : Walk s [] s
  | cons {s next target : State} {l : Label} {labels : List Label} (first : Edge s l next)
      (rest : Walk next labels target) : Walk s (l :: labels) target

/-- What a reduction can take off: the labels of a way that begins where the phrase has a move and
    ends where the reduction can be made. -/
def Derives (r : Reduction) (labels : List Label) : Prop :=
  labels.length = r.arity ∧ ∃ s target, Walk s labels target ∧
    ((row s).gotos.lookup r.phrase.code).isSome = true ∧ ∃ t, .reduce r ∈ actions target t

/-! ## Classes of states -/

/-- The state behind a whole source. -/
def acceptState : State := 1322

/-- The states behind the text of a literal. -/
def textStates : List State :=
  [1065, 1074, 1114, 1118, 1123, 1128, 1133, 1137, 1331, 1366, 1375, 1383, 1390, 1397, 1403]

/-- The states behind an expression's only part. -/
def operandStates : List State :=
  [235, 236, 237, 239, 247, 253, 291, 298, 299, 338, 346, 348, 391, 394, 396, 432, 458, 459, 464, 520,
    521, 522, 548, 549]

/-- The states behind the first, second and third part of a call. -/
def callStates : List (List State) :=
  [[238, 240, 242, 243, 244, 245, 246, 247, 254, 255, 289, 290, 292, 293, 294, 295, 296, 297, 298,
    339, 340, 341, 342, 343, 344, 345, 346, 389, 390, 394, 395, 438, 439, 440, 441, 442, 443, 444,
    445, 446, 447, 448, 449, 450, 454, 457, 458, 501, 503, 505, 508, 509, 510, 511, 514, 517, 519,
    521, 523, 526, 529, 530, 531, 535, 538, 541, 543, 544, 545, 546, 547, 591, 592, 593, 594, 600,
    601, 604, 606, 608, 610, 611, 613, 614, 616, 618, 619, 621, 622, 624, 626, 628, 629, 630, 631,
    633, 634, 635, 636, 638, 639, 640, 641, 643, 644, 647, 648, 649, 652, 656, 658, 659, 661, 662,
    663, 667, 668, 669, 670, 674, 675, 676, 677, 681, 682, 683, 684, 688, 689, 690, 691, 695, 696,
    719],
    [256, 301, 350, 398, 465, 551, 1251, 1287, 1293, 1297, 1301, 1305],
    [265, 311, 360, 408, 474, 561]]

/-- How many parts of a call are behind a state, in three bits for each state. -/
def depthCode : Nat :=
  (callStates.zipIdx 1).foldl (fun code group =>
    group.1.foldl (fun code s => Nat.lor code (Nat.shiftLeft group.2 (Nat.mul 3 s))) code) 0

/-- How many parts of a call are behind a state. -/
def depth (s : State) : Nat := Nat.land (Nat.shiftRight depthCode (Nat.mul 3 s)) 7

/-! ## Checking rows

The rows are checked as the numbers they are written as. -/

/-- A set of numbers as a number. -/
def setOf (numbers : List Nat) : Nat :=
  numbers.foldr (fun n set => Nat.lor (Nat.shiftLeft 1 n) set) 0

/-- Whether a number is in a set. -/
def has (set n : Nat) : Bool := Nat.beq (Nat.land (Nat.shiftRight set n) 1) 1

theorem has_eq_testBit (set n : Nat) : has set n = set.testBit n := by
  rw [Nat.testBit_eq_decide_div_mod_eq, ← Nat.shiftRight_eq_div_pow, ← Nat.and_one_is_mod,
    Bool.eq_iff_iff, decide_eq_true_iff]
  exact iff_of_eq Nat.beq_eq

theorem has_setOf (numbers : List Nat) (n : Nat) : has (setOf numbers) n = true ↔ n ∈ numbers := by
  induction numbers with
  | nil => simp [setOf, has_eq_testBit]
  | cons first rest ih =>
    rw [has_eq_testBit] at ih ⊢
    have hor : setOf (first :: rest) = 1 <<< first ||| setOf rest := rfl
    rw [hor, Nat.testBit_or, Bool.or_eq_true, ih, Nat.one_shiftLeft, Nat.testBit_two_pow,
      decide_eq_true_eq, List.mem_cons, eq_comm]

/-- Some labels, by their places among all labels. -/
def labelSet (labels : List Label) : Nat := setOf (labels.map Label.rank)

theorem has_labelSet (labels : List Label) (l : Label) :
    has (labelSet labels) l.rank = true ↔ l ∈ labels := by
  rw [labelSet, has_setOf, List.mem_map_of_injective Label.rank_injective]

namespace Row

/-- Whether all moves of a row pass a check of their symbols and targets; `width` is the number of
    bits of a move. -/
def eachMove (width : Nat) (check : Nat → Nat → Bool) : Nat → Nat → Bool
  | 0, _ => true
  | count + 1, n =>
    check (Nat.land n 127) (Nat.land (Nat.shiftRight n 7) 2047)
      && eachMove width check count (Nat.shiftRight n width)

/-- Whether all reductions of a row pass a check of their numbers. -/
def eachReduction (check : Nat → Bool) : Nat → Nat → Bool
  | 0, _ => true
  | count + 1, n =>
    check (Nat.land (Nat.shiftRight n 95) 255) && check (Nat.land (Nat.shiftRight n 103) 255)
      && check (Nat.land (Nat.shiftRight n 111) 255)
      && eachReduction check count (Nat.shiftRight n 119)

theorem land_eq_low (width n : Nat) : Nat.land n (2 ^ width - 1) = low width n := by
  rw [low, Nat.one_shiftLeft]
  exact Nat.and_two_pow_sub_one_eq_mod n width

theorem eachMove_shifts {check : Nat → Nat → Bool} {count n : Nat}
    (h : eachMove 19 check count n = true) :
    ∀ move ∈ readShifts count n, check move.token move.target = true := by
  induction count generalizing n with
  | zero => simp [readShifts]
  | succ count ih =>
    rw [eachMove, Bool.and_eq_true] at h
    intro move hmove
    rcases List.mem_cons.1 hmove with rfl | hmove
    · rw [← land_eq_low, ← land_eq_low]
      exact h.1
    · exact ih h.2 move hmove

theorem eachMove_gotos {check : Nat → Nat → Bool} {count n : Nat}
    (h : eachMove 18 check count n = true) :
    ∀ move ∈ readGotos count n, check move.1 move.2 = true := by
  induction count generalizing n with
  | zero => simp [readGotos]
  | succ count ih =>
    rw [eachMove, Bool.and_eq_true] at h
    intro move hmove
    rcases List.mem_cons.1 hmove with rfl | hmove
    · rw [← land_eq_low, ← land_eq_low]
      exact h.1
    · exact ih h.2 move hmove

theorem eachReduction_reduces {check : Nat → Bool} {count n : Nat}
    (h : eachReduction check count n = true) :
    ∀ group ∈ readReduces count n, ∀ r ∈ group.2, check r = true := by
  induction count generalizing n with
  | zero => simp [readReduces]
  | succ count ih =>
    rw [eachReduction, Bool.and_eq_true, Bool.and_eq_true, Bool.and_eq_true] at h
    intro group hgroup r hr
    rcases List.mem_cons.1 hgroup with rfl | hgroup
    · have hr := (List.mem_filter.1 hr).1
      simp only [← land_eq_low, List.mem_cons, List.not_mem_nil, or_false] at hr
      rcases hr with rfl | rfl | rfl
      · exact h.1.1.1
      · exact h.1.1.2
      · exact h.1.2
    · exact ih h.2 group hgroup r hr

theorem ne_zero_of_mem_readReduces {count n k : Nat} {group : Token.Set × List Nat}
    (hgroup : group ∈ readReduces count n) (hk : k ∈ group.2) : k ≠ 0 := by
  induction count generalizing n with
  | zero => cases hgroup
  | succ count ih =>
    rcases List.mem_cons.1 hgroup with rfl | hgroup
    · simpa using (List.mem_filter.1 hk).2
    · exact ih hgroup

end Row

/-- The tokens that no move is made on: comments may stand anywhere, and the end of the source is
    taken when the source is accepted. -/
def barredLabels : List Label := [.token .eof, .token .comment]

/-- The loose labels that moves are made on, apart from that of a whole source. -/
def looseLabels : List Label :=
  [.token .newline, .token .nul, .token .rawText, .token .stringText, .phrase .importSpecListRun,
    .phrase .fieldDeclarationListRun, .phrase .interfaceTypeRun, .phrase .statementListRun,
    .phrase .interpretedStringLiteralRun]

/-- The textual labels that moves are made on. -/
def textualLabels : List Label :=
  [.token .rawText, .token .stringText, .token .escape, .phrase .interpretedStringLiteralRun]

/-- What an expression can be. -/
def operandLabels : List Label :=
  [.token .identifier, .token .kwNew, .token .kwMake, .token .intLiteral, .token .floatLiteral,
    .token .imaginaryLiteral, .token .runeLiteral, .token .kwNil, .token .kwTrue, .token .kwFalse,
    .token .kwIota, .phrase .parenthesizedExpression, .phrase .callExpression,
    .phrase .selectorExpression, .phrase .indexExpression, .phrase .sliceExpression,
    .phrase .typeAssertionExpression, .phrase .typeConversionExpression,
    .phrase .typeInstantiationExpression, .phrase .compositeLiteral, .phrase .funcLiteral,
    .phrase .unaryExpression, .phrase .binaryExpression, .phrase .rawStringLiteral,
    .phrase .interpretedStringLiteral]

def calleeLabels : List Label := [.token .kwNew, .token .kwMake, .phrase .expression]

/-- The check of a move; `label` is the place of the label among all labels. -/
def moveOk (loose : Bool) (s label target : Nat) : Bool :=
  (!has (labelSet (.phrase .sourceFile :: barredLabels ++ looseLabels ++ textualLabels)) label
      || !has (labelSet barredLabels) label
        && (!has (labelSet looseLabels) label || loose)
        && (!has (labelSet textualLabels) label || has (setOf textStates) target)
        && (!Nat.beq label 1000 || Nat.beq target acceptState))
    && !Nat.beq target startState
    && (!Nat.beq target acceptState || Nat.beq label 1000)
    && (!has (setOf operandStates) target || has (labelSet operandLabels) label)
    && match depth target with
      | 0 => true
      | 1 => has (labelSet calleeLabels) label
      | n + 2 => Nat.beq (depth s) (n + 1)

/-- How many parts the calls have that reductions make, in three bits for each reduction, with zero
    for all other reductions. -/
def callArities : Nat :=
  (Reduction.all.zipIdx 1).foldl (fun code r =>
    if r.1.phrase = .callExpression then Nat.lor code (Nat.shiftLeft r.1.arity (Nat.mul 3 r.2))
    else code) 0

/-- The numbers of the reductions that make a phrase. -/
def reductionsOf (p : Phrase) : Nat :=
  setOf (((Reduction.all.zipIdx 1).filter fun r => r.1.phrase == p).map Prod.snd)

/-- The check of a reduction. -/
def reductionOk (s n : Nat) : Bool :=
  Nat.beq n 0
    || (Nat.beq n acceptCode == Nat.beq s acceptState)
      && (match Nat.land (Nat.shiftRight callArities (Nat.mul 3 n)) 7 with
        | 0 => true
        | k + 1 => Nat.beq (depth s) (k + 1))
      && (!has (setOf textStates) s || has (reductionsOf .interpretedStringLiteralRun) n)
      && (!has (reductionsOf .expression) n || has (setOf operandStates) s)

/-- The check of a row. -/
def rowOk (s code : Nat) : Bool :=
  let shifts := Nat.land (Nat.shiftRight code 4) 127
  let gotos := Nat.land (Nat.shiftRight code 11) 127
  let reduces := Nat.land (Nat.shiftRight code 18) 7
  let tokens := Nat.shiftRight code 21
  let phrases := Nat.shiftRight tokens (Nat.mul 19 shifts)
  let loose := Row.eachMove 18 (fun p _ => has (labelSet looseLabels) (Nat.add 1000 p)) gotos phrases
  Row.eachMove 19 (moveOk loose s) shifts tokens
    && Row.eachMove 18 (fun p => moveOk loose s (Nat.add 1000 p)) gotos phrases
    && (!Nat.beq s faultState && !Nat.beq s acceptState || Nat.beq (Nat.add shifts gotos) 0)
    && Row.eachReduction (reductionOk s) reduces (Nat.shiftRight phrases (Nat.mul 18 gotos))

theorem rows_checked : ∀ row ∈ rowCodes.zipIdx, rowOk row.2 row.1 = true := by
  decide +kernel

/-! ## What the check says -/

/-- A state whose row is among the checked ones, or that can do nothing. -/
theorem row_cases (s : State) :
    row s = Row.dead ∨ ∃ code, row s = Row.decode code ∧ rowOk s code = true := by
  cases hcode : rowCodes[s]? with
  | none => exact .inl (by simp [row, rows, Array.getD_eq_getD_getElem?, hcode])
  | some code =>
    refine .inr ⟨code, by simp [row, rows, Array.getD_eq_getD_getElem?, hcode], ?_⟩
    have hmem : (code, s) ∈ rowCodes.zipIdx := List.mem_zipIdx_iff_getElem?.2 hcode
    exact rows_checked (code, s) hmem

/-- What is checked of a row, in terms of what it is decoded to. -/
theorem exists_rowOk (s : State) : ∃ loose : Bool,
    (loose = true → ∀ move ∈ (row s).gotos, has (labelSet looseLabels) (1000 + move.1) = true) ∧
    (∀ move ∈ (row s).shifts, moveOk loose s move.token move.target = true) ∧
    (∀ move ∈ (row s).gotos, moveOk loose s (1000 + move.1) move.2 = true) ∧
    (s = faultState ∨ s = acceptState → (row s).shifts = [] ∧ (row s).gotos = []) ∧
    ∀ group ∈ (row s).reduces, ∀ n ∈ group.2, n ≠ 0 ∧ reductionOk s n = true := by
  rcases row_cases s with hdead | ⟨code, hrow, hok⟩
  · rw [hdead]
    exact ⟨false, nofun, nofun, nofun, fun _ => ⟨rfl, rfl⟩, nofun⟩
  · have hshifts : Nat.land (Nat.shiftRight code 4) 127 = Row.low 7 (code >>> 4) :=
      Row.land_eq_low 7 _
    have hgotos : Nat.land (Nat.shiftRight code 11) 127 = Row.low 7 (code >>> 11) :=
      Row.land_eq_low 7 _
    have hreduces : Nat.land (Nat.shiftRight code 18) 7 = Row.low 3 (code >>> 18) :=
      Row.land_eq_low 3 _
    have hphrases : Nat.shiftRight (Nat.shiftRight code 21) (Nat.mul 19 (Row.low 7 (code >>> 4))) =
        code >>> (21 + 19 * Row.low 7 (code >>> 4)) := (Nat.shiftRight_add ..).symm
    have hlast : Nat.shiftRight (code >>> (21 + 19 * Row.low 7 (code >>> 4)))
        (Nat.mul 18 (Row.low 7 (code >>> 11))) =
        code >>> (21 + 19 * Row.low 7 (code >>> 4) + 18 * Row.low 7 (code >>> 11)) :=
      (Nat.shiftRight_add ..).symm
    simp only [rowOk, hshifts, hgotos, hreduces, hphrases, hlast, Bool.and_eq_true] at hok
    obtain ⟨⟨⟨htokens, hmoves⟩, hends⟩, hreductions⟩ := hok
    rw [hrow]
    refine ⟨_, ?_, Row.eachMove_shifts htokens, Row.eachMove_gotos hmoves, fun hs => ?_,
      fun group hgroup n hn => ⟨Row.ne_zero_of_mem_readReduces hgroup hn,
        Row.eachReduction_reduces hreductions group hgroup n hn⟩⟩
    · intro hloose
      exact Row.eachMove_gotos hloose
    · have hnone : Row.low 7 (code >>> 4) + Row.low 7 (code >>> 11) = 0 := by
        rcases hs with rfl | rfl <;> simpa [acceptState, faultState] using hends
      obtain ⟨hfirst, hsecond⟩ := Nat.add_eq_zero_iff.1 hnone
      simp [Row.decode, hfirst, hsecond, Row.readShifts, Row.readGotos]

/-- What is checked of a move. -/
structure Edge.Checked (s : State) (l : Label) (target : State) : Prop where
  ne_eof : l ≠ .token .eof
  loose : l.isLoose = true → l ≠ .phrase .sourceFile →
    ∀ p goal, Edge s (.phrase p) goal → p.isLoose = true
  textual : l.isTextual = true → target ∈ textStates
  closing : target = acceptState ∨ target = startState → l = .phrase .sourceFile
  source : l = .phrase .sourceFile → target = acceptState
  ne_fault : s ≠ faultState
  ne_accept : s ≠ acceptState
  operand : target ∈ operandStates → l.isVisible = true
  callee : depth target = 1 → l.isCallee = true
  depth : 1 < depth target → depth target = depth s + 1

theorem Label.mem_of_isLoose {l : Label} (h : l.isLoose = true) (hl : l.isFaulty = false) :
    l = .token .eof ∨ l = .phrase .sourceFile ∨ l ∈ looseLabels := by
  cases l with
  | token t => cases t <;> first | decide | cases h
  | phrase p => cases p <;> first | decide | cases h
  | fault | skipped => cases hl

theorem Label.mem_of_isTextual {l : Label} (h : l.isTextual = true) (hl : l.isFaulty = false) :
    l = .token .comment ∨ l ∈ textualLabels := by
  cases l with
  | token t => cases t <;> first | decide | cases h
  | phrase p => cases p <;> first | decide | cases h
  | fault | skipped => cases hl

theorem Label.isLoose_of_mem {l : Label} (h : l ∈ looseLabels) : l.isLoose = true := by
  revert l
  decide

theorem Label.isVisible_of_mem {l : Label} (h : l ∈ operandLabels) : l.isVisible = true := by
  revert l
  decide

theorem Label.isCallee_of_mem {l : Label} (h : l ∈ calleeLabels) : l.isCallee = true := by
  revert l
  decide

theorem Edge.not_faulty {s target : State} {l : Label} (h : Edge s l target) :
    l.isFaulty = false := by
  cases l with
  | token | phrase => rfl
  | fault | skipped => cases h

/-- A move is one of those in the row of its state. -/
theorem Edge.mem {s target : State} {l : Label} (h : Edge s l target) :
    (∃ move ∈ (row s).shifts, l.rank = move.token ∧ move.target = target) ∨
      ∃ move ∈ (row s).gotos, l.rank = 1000 + move.1 ∧ move.2 = target := by
  cases l with
  | token t =>
    obtain ⟨move, hmove, rfl⟩ := Option.map_eq_some_iff.1 h
    rw [Row.shift?] at hmove
    have hcode : move.token = t.code := by simpa using List.find?_some hmove
    exact .inl ⟨move, List.mem_of_find?_eq_some hmove, by rw [hcode, Label.rank], rfl⟩
  | phrase p =>
    obtain ⟨before, after, hgotos, -⟩ := List.lookup_eq_some_iff.1 h
    exact .inr ⟨(p.code, target), by simp [hgotos], by simp only [Label.rank], rfl⟩
  | fault | skipped => cases h

/-- No edge leads on from where a fault was found, nor from where the source is complete. -/
theorem Edge.ne_ends {s target : State} {l : Label} (h : Edge s l target) :
    s ≠ faultState ∧ s ≠ acceptState := by
  obtain ⟨_, -, -, -, hends, -⟩ := exists_rowOk s
  rw [← not_or]
  intro hs
  obtain ⟨hfirst, hsecond⟩ := hends hs
  rcases h.mem with ⟨move, hmove, -⟩ | ⟨move, hmove, -⟩
  · rw [hfirst] at hmove
    cases hmove
  · rw [hsecond] at hmove
    cases hmove

theorem Edge.checked {s target : State} {l : Label} (h : Edge s l target) : Checked s l target := by
  obtain ⟨loose, hloose, hshifts, hgotos, -, -⟩ := exists_rowOk s
  have hok : moveOk loose s l.rank target = true := by
    rcases h.mem with ⟨move, hmove, hrank, rfl⟩ | ⟨move, hmove, hrank, rfl⟩
    · exact hrank ▸ hshifts move hmove
    · exact hrank ▸ hgotos move hmove
  have hsource : Nat.beq l.rank 1000 = true ↔ l = .phrase .sourceFile := by
    rw [Nat.beq_eq, ← Label.rank_injective.eq_iff]
    rfl
  unfold moveOk at hok
  simp only [Bool.and_eq_true, Bool.or_eq_true, Bool.not_eq_true', ← Bool.not_eq_true,
    has_labelSet, hsource, has_setOf, Nat.beq_eq, List.mem_cons, List.mem_append, not_or] at hok
  obtain ⟨⟨⟨⟨hlabel, hstart⟩, haccept⟩, hoperand⟩, hdepth⟩ := hok
  have hbarred : l ∉ barredLabels := hlabel.elim (fun h => h.1.1.2) fun h => h.1.1.1
  have heof : l ≠ .token .eof := fun h => hbarred (h ▸ by decide)
  have hcomment : l ≠ .token .comment := fun h => hbarred (h ▸ by decide)
  refine { ne_eof := heof, ne_fault := h.ne_ends.1, ne_accept := h.ne_ends.2, loose := ?loose,
           textual := ?textual, closing := ?closing, source := ?source, operand := ?operand,
           callee := ?callee, depth := ?depth }
  case loose =>
    intro hl hne p goal hgoal
    have hmem : l ∈ looseLabels :=
      ((Label.mem_of_isLoose hl h.not_faulty).resolve_left heof).resolve_left hne
    have hflag : loose = true := by
      rcases hlabel with h | h
      · exact absurd hmem h.1.2
      · exact h.1.1.2.resolve_left (not_not.2 hmem)
    obtain ⟨before, after, hgotos, -⟩ := List.lookup_eq_some_iff.1 hgoal
    have hp : has (labelSet looseLabels) (Label.phrase p).rank = true :=
      hloose hflag (p.code, goal) (by simp [hgotos])
    exact Label.isLoose_of_mem ((has_labelSet _ _).1 hp)
  case textual =>
    intro hl
    have hmem : l ∈ textualLabels := (Label.mem_of_isTextual hl h.not_faulty).resolve_left hcomment
    rcases hlabel with h | h
    · exact absurd hmem h.2
    · exact h.1.2.resolve_left (not_not.2 hmem)
  case closing =>
    intro ht
    exact haccept.resolve_left fun h => h (ht.resolve_right hstart)
  case source =>
    intro hl
    rcases hlabel with h | h
    · exact absurd hl h.1.1.1
    · exact h.2.resolve_left (not_not.2 hl)
  case operand =>
    intro ht
    exact Label.isVisible_of_mem (hoperand.resolve_left (not_not.2 ht))
  case callee =>
    intro ht
    rw [ht] at hdepth
    exact Label.isCallee_of_mem ((has_labelSet _ _).1 hdepth)
  case depth =>
    intro ht
    obtain ⟨n, hn⟩ : ∃ n, depth target = n + 2 := ⟨depth target - 2, by omega⟩
    rw [hn] at hdepth ⊢
    rw [Nat.beq_eq.mp hdepth]

/-- What the numbers of reductions say about them. -/
theorem reductions_numbered : ∀ r ∈ Reduction.all.zipIdx 1,
    Nat.land (Nat.shiftRight callArities (Nat.mul 3 r.2)) 7 =
      (if r.1.phrase = .callExpression then r.1.arity else 0) ∧
    (r.1.phrase = .callExpression → r.1.arity ≠ 0) ∧
    (has (reductionsOf .interpretedStringLiteralRun) r.2 = true →
      r.1.phrase = .interpretedStringLiteralRun) ∧
    (r.1.phrase = .expression → has (reductionsOf .expression) r.2 = true) := by
  decide +kernel

/-! ## Actions -/

theorem mem_reductions {r : Row} {t : Token} {a : Action} (h : a ∈ r.reductions t) :
    ∃ group ∈ r.reduces, t.mem group.1 = true ∧ ∃ n ∈ group.2, reduction? n = some a := by
  unfold Row.reductions at h
  split at h
  · next set numbers hfind =>
    obtain ⟨n, hn, hr⟩ := List.mem_filterMap.1 h
    exact ⟨_, List.mem_of_find?_eq_some hfind, by simpa using List.find?_some hfind, n, hn, hr⟩
  · cases h

/-- A number stands for a reduction or for the end of parsing. -/
theorem reduction?_cases {n : Nat} {a : Action} (h : reduction? n = some a) :
    n = acceptCode ∧ a = .accept ∨
      n ≠ acceptCode ∧ ∃ r, Reduction.table[n - 1]? = some r ∧ a = .reduce r := by
  unfold reduction? at h
  split at h
  · next hn => exact .inl ⟨hn, (Option.some.inj h).symm⟩
  · next hn =>
    obtain ⟨r, hr, heq⟩ := Option.map_eq_some_iff.1 h
    exact .inr ⟨hn, r, hr, heq.symm⟩

/-- What can be done on a token: to take it as a comment, to deal with it while skipping input, to
    make a reduction or end the parse, or to move. -/
theorem actions_cases {s : State} {t : Token} {a : Action} (h : a ∈ actions s t) :
    t = .comment ∧ a = .shiftExtra ∨ a = .recover ∨
      (s ≠ faultState ∧ a ∈ (row s).reductions t ∧ (a = .accept ∨ ∃ r, a = .reduce r)) ∨
      ∃ target repeats, Edge s (.token t) target ∧ a = .shift target repeats := by
  have hreduction : a ∈ (row s).reductions t → a = .accept ∨ ∃ r, a = .reduce r := by
    intro h
    obtain ⟨_, -, -, n, -, hr⟩ := mem_reductions h
    exact (reduction?_cases hr).imp And.right fun h => ⟨h.2.choose, h.2.choose_spec.2⟩
  unfold actions at h
  split at h
  · next ht => exact .inl ⟨ht, List.mem_singleton.1 h⟩
  · split at h
    · split at h
      · exact .inr (.inl (List.mem_singleton.1 h))
      · cases h
    · next hs =>
      refine .inr (.inr ?_)
      simp only at h
      split at h
      · next move hmove =>
        refine (List.mem_append.1 h).imp (fun h => ⟨hs, h, hreduction h⟩) fun h =>
          ⟨move.target, move.repeats, ?_, List.mem_singleton.1 h⟩
        rw [Edge, hmove]
        rfl
      · exact .inl ⟨hs, h, hreduction h⟩

/-- A token that is taken is a move. -/
theorem edge_of_shift {s target : State} {t : Token} {repeats : Bool}
    (h : .shift target repeats ∈ actions s t) : Edge s (.token t) target := by
  rcases actions_cases h with ⟨-, h⟩ | h | ⟨-, -, h | ⟨r, h⟩⟩ | ⟨_, _, hedge, h⟩ <;> cases h
  exact hedge

/-- Only comments are taken as such. -/
theorem eq_comment_of_shiftExtra {s : State} {t : Token} (h : .shiftExtra ∈ actions s t) :
    t = .comment := by
  rcases actions_cases h with ⟨ht, -⟩ | h | ⟨-, -, h | ⟨r, h⟩⟩ | ⟨_, _, -, h⟩
  · exact ht
  all_goals cases h

/-- What is checked of a number that is met in a row. -/
theorem exists_reductionOk {s : State} {t : Token} {a : Action} (h : a ∈ (row s).reductions t) :
    ∃ n, n ≠ 0 ∧ reductionOk s n = true ∧ reduction? n = some a := by
  obtain ⟨group, hgroup, -, n, hn, hr⟩ := mem_reductions h
  obtain ⟨loose, -, -, -, -, hok⟩ := exists_rowOk s
  exact ⟨n, (hok group hgroup n hn).1, (hok group hgroup n hn).2, hr⟩

/-- What is checked of a reduction. -/
structure Reducible (s : State) (r : Reduction) : Prop where
  mem_all : r ∈ Reduction.all
  ne_fault : s ≠ faultState
  ne_accept : s ≠ acceptState
  call : r.phrase = .callExpression → depth s = r.arity ∧ r.arity ≠ 0
  operand : r.phrase = .expression → s ∈ operandStates
  text : s ∈ textStates → r.phrase = .interpretedStringLiteralRun

theorem reducible_of_mem {s : State} {t : Token} {r : Reduction} (h : .reduce r ∈ actions s t) :
    Reducible s r := by
  obtain ⟨hfault, hmem⟩ : s ≠ faultState ∧ .reduce r ∈ (row s).reductions t := by
    rcases actions_cases h with ⟨-, h⟩ | h | ⟨hfault, hmem, -⟩ | ⟨_, _, -, h⟩
    · cases h
    · cases h
    · exact ⟨hfault, hmem⟩
    · cases h
  obtain ⟨n, hn, hok, hr⟩ := exists_reductionOk hmem
  obtain ⟨-, heq⟩ | ⟨hcode, r', hr', heq⟩ := reduction?_cases hr
  · cases heq
  obtain rfl := Action.reduce.inj heq
  have hnumber : (r, n) ∈ Reduction.all.zipIdx 1 := by
    rw [List.mk_mem_zipIdx_iff_le_and_getElem?_sub]
    exact ⟨Nat.one_le_iff_ne_zero.2 hn, by simpa [Reduction.table] using hr'⟩
  obtain ⟨harity, hne, htext, hexpression⟩ := reductions_numbered _ hnumber
  unfold reductionOk at hok
  simp only [Bool.or_eq_true, Bool.and_eq_true, Nat.beq_eq, hn, false_or] at hok
  obtain ⟨⟨⟨haccept, hdepth⟩, hrun⟩, hoperand⟩ := hok
  have hfalse : Nat.beq n acceptCode = false := Bool.eq_false_iff.2 (mt Nat.beq_eq.mp hcode)
  rw [hfalse, beq_iff_eq] at haccept
  refine ⟨(List.mem_zipIdx hnumber).2.2 ▸ List.getElem_mem _, hfault, fun hs => ?_, fun hcall => ?_,
    fun hphrase => ?_, fun hs => ?_⟩
  · rw [Nat.beq_eq.mpr hs] at haccept
    cases haccept
  · obtain ⟨k, hk⟩ := Nat.exists_eq_succ_of_ne_zero (hne hcall)
    rw [harity, if_pos hcall, hk] at hdepth
    exact ⟨hk ▸ Nat.beq_eq.mp hdepth, hne hcall⟩
  · rw [hexpression hphrase] at hoperand
    exact (has_setOf _ _).1 (hoperand.resolve_left nofun)
  · have hs : has (setOf textStates) s = true := (has_setOf _ _).2 hs
    rw [hs] at hrun
    exact htext (hrun.resolve_left nofun)

theorem reduces_acceptState :
    (row acceptState).reduces = [(Token.setOf [.eof], [acceptCode])] := by
  decide +kernel

/-- A source is only accepted behind the whole of it, at its end. -/
theorem state_of_accept {s : State} {t : Token} (h : .accept ∈ actions s t) :
    s = acceptState ∧ t = .eof := by
  have hmem : .accept ∈ (row s).reductions t := by
    rcases actions_cases h with ⟨-, h⟩ | h | ⟨-, hmem, -⟩ | ⟨_, _, -, h⟩
    · cases h
    · cases h
    · exact hmem
    · cases h
  obtain ⟨n, hn, hok, hr⟩ := exists_reductionOk hmem
  obtain ⟨rfl, -⟩ | ⟨-, r, -, heq⟩ := reduction?_cases hr
  · unfold reductionOk at hok
    simp only [Bool.or_eq_true, Bool.and_eq_true, Nat.beq_eq, hn, false_or, beq_iff_eq] at hok
    obtain rfl : s = acceptState := Nat.beq_eq.mp (hok.1.1.1.symm.trans (Nat.beq_eq.mpr rfl))
    obtain ⟨group, hgroup, ht, -⟩ := mem_reductions hmem
    rw [reduces_acceptState] at hgroup
    obtain rfl := List.mem_singleton.1 hgroup
    have hzero : t.code = 0 := Nat.testBit_one_eq_true_iff_self_eq_zero.1 ht
    exact ⟨rfl, Token.code_injective hzero⟩
  · cases heq

/-! ## Ways through the automaton -/

/-- The last move of a way. -/
theorem Walk.last {s target : State} {labels : List Label} {l : Label}
    (h : Walk s labels target) (hl : labels.getLast? = some l) : ∃ before, Edge before l target := by
  induction h with
  | nil => cases hl
  | @cons s next target first labels hfirst rest ih =>
    cases labels with
    | nil =>
      obtain rfl : first = l := by simpa using hl
      cases rest
      exact ⟨_, hfirst⟩
    | cons m labels => exact ih (by simpa using hl)

/-- Behind a whole source there is no way on. -/
theorem Walk.accept {s target : State} {labels : List Label} (h : Walk s labels target)
    (hl : .phrase .sourceFile ∈ labels) : target = acceptState := by
  induction h with
  | nil => cases hl
  | @cons s next target l labels first rest ih =>
    rcases List.mem_cons.1 hl with rfl | hl
    · have hnext : next = acceptState := first.checked.source rfl
      subst hnext
      cases rest with
      | nil => rfl
      | cons second _ => exact absurd rfl second.checked.ne_accept
    · exact ih hl

/-- As long as a way is no longer than a call, it leads deeper and deeper into it. -/
theorem Walk.depth {s target : State} {labels : List Label} (h : Walk s labels target)
    (hdepth : labels.length < depth target) : depth target = depth s + labels.length := by
  induction h with
  | nil => rfl
  | cons first rest ih =>
    rw [List.length_cons] at hdepth ⊢
    have hrest := ih (by omega)
    have hfirst := first.checked.depth (by omega)
    omega

namespace Derives

variable {r : Reduction} {labels : List Label} {l : Label}

theorem mem_all (h : Derives r labels) : r ∈ Reduction.all := by
  obtain ⟨-, s, target, -, -, t, ht⟩ := h
  exact (reducible_of_mem ht).mem_all

/-- A whole source is no part of anything. -/
theorem ne_sourceFile (h : Derives r labels) (hl : l ∈ labels) : l ≠ .phrase .sourceFile := by
  rintro rfl
  obtain ⟨-, s, target, hwalk, -, t, ht⟩ := h
  exact (reducible_of_mem ht).ne_accept (hwalk.accept hl)

/-- What a phrase begins with: only a loose phrase begins with a loose part. -/
theorem opens (h : Derives r (l :: labels)) (hl : l.isLoose = true) : r.phrase.isLoose = true := by
  have hsource := h.ne_sourceFile List.mem_cons_self
  obtain ⟨-, s, target, hwalk, hgoto, -⟩ := h
  obtain ⟨goal, hgoal⟩ := Option.isSome_iff_exists.1 hgoto
  cases hwalk with
  | cons first rest => exact first.checked.loose hl hsource r.phrase goal hgoal

theorem length_pos (h : Derives r labels) (hr : r.phrase ≠ .sourceFile) : labels ≠ [] := by
  rintro rfl
  have harity : ∀ r ∈ Reduction.all, r.arity = 0 → r.phrase = .sourceFile := by
    decide +kernel
  exact hr (harity r h.mem_all h.1.symm)

/-- What a phrase ends with: only the text of a literal ends with a textual part. -/
theorem closes (h : Derives r labels) (hlast : labels.getLast? = some l) (hl : l.isTextual = true) :
    r.phrase = .interpretedStringLiteralRun := by
  obtain ⟨-, s, target, hwalk, -, t, ht⟩ := h
  obtain ⟨before, hedge⟩ := hwalk.last hlast
  exact (reducible_of_mem ht).text (hedge.checked.textual hl)

/-- A call begins with what it calls. -/
theorem callee (h : Derives r labels) (hr : r.phrase = .callExpression) :
    ∃ l rest, labels = l :: rest ∧ l.isCallee = true := by
  obtain ⟨hlength, s, target, hwalk, -, t, ht⟩ := h
  obtain ⟨hdepth, harity⟩ := (reducible_of_mem ht).call hr
  cases hwalk with
  | nil => exact absurd hlength.symm harity
  | @cons _ next _ l rest first walk =>
    rw [List.length_cons] at hlength
    have hrest := walk.depth (by omega)
    exact ⟨l, rest, rfl, first.checked.callee (by omega)⟩

/-- An expression is one thing that has a node of its own. -/
theorem operand (h : Derives r labels) (hr : r.phrase = .expression) :
    ∃ l, labels = [l] ∧ l.isVisible = true := by
  have harity : ∀ r ∈ Reduction.all, r.phrase = .expression → r.arity = 1 := by
    decide +kernel
  obtain ⟨l, rfl⟩ := List.length_eq_one_iff.1 (h.1.trans (harity r h.mem_all hr))
  obtain ⟨-, s, target, hwalk, -, t, ht⟩ := h
  obtain ⟨before, hedge⟩ := hwalk.last rfl
  exact ⟨l, rfl, hedge.checked.operand ((reducible_of_mem ht).operand hr)⟩

end Derives

end Automaton

end SyscallGuard
