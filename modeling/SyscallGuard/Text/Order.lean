import SyscallGuard.Text.Bytes

set_option autoImplicit false

/-! # Lexicographic order

Names are ordered as bytes, and locations in a file tree are ordered name by name. Both are the
same construction on lists, and it keeps the three laws of a strict total order. -/

namespace SyscallGuard

/-- The laws of a strict total order that is given by a test. -/
structure StrictOrder {α : Type} (lt : α → α → Bool) : Prop where
  irrefl : ∀ a, lt a a = false
  trans : ∀ a b c, lt a b = true → lt b c = true → lt a c = true
  connected : ∀ a b, lt a b = false → a ≠ b → lt b a = true

/-- Compares lists at their first difference; a list that ends comes first. -/
def lexBefore {α : Type} [DecidableEq α] (lt : α → α → Bool) : List α → List α → Bool
  | _, [] => false
  | [], _ :: _ => true
  | a :: as, b :: bs => lt a b || (decide (a = b) && lexBefore lt as bs)

namespace StrictOrder

variable {α : Type} [DecidableEq α] {lt : α → α → Bool}

/-- The lexicographic order of a strict total order is one. -/
theorem lex (h : StrictOrder lt) : StrictOrder (lexBefore lt) where
  irrefl as := by
    induction as with
    | nil => rfl
    | cons a as ih => simp [lexBefore, h.irrefl, ih]
  trans as bs cs := by
    induction as generalizing bs cs with
    | nil =>
      cases bs with
      | nil => simp [lexBefore]
      | cons b bs => cases cs <;> simp [lexBefore]
    | cons a as ih =>
      cases bs with
      | nil => simp [lexBefore]
      | cons b bs =>
        cases cs with
        | nil => simp [lexBefore]
        | cons c cs =>
          simp only [lexBefore, Bool.or_eq_true, Bool.and_eq_true, decide_eq_true_eq]
          rintro (hab | ⟨rfl, hab⟩) (hbc | ⟨rfl, hbc⟩)
          · exact .inl (h.trans _ _ _ hab hbc)
          · exact .inl hab
          · exact .inl hbc
          · exact .inr ⟨rfl, ih _ _ hab hbc⟩
  connected as bs := by
    induction as generalizing bs with
    | nil =>
      cases bs with
      | nil => simp
      | cons b bs => simp [lexBefore]
    | cons a as ih =>
      cases bs with
      | nil => simp [lexBefore]
      | cons b bs =>
        simp only [lexBefore, Bool.or_eq_false_iff, Bool.and_eq_false_iff, decide_eq_false_iff_not,
          Bool.or_eq_true, Bool.and_eq_true, decide_eq_true_eq, ne_eq, List.cons.injEq, not_and]
        rintro ⟨hab, hne | htail⟩ hdiff
        · exact .inl (h.connected _ _ hab hne)
        · by_cases he : a = b
          · exact .inr ⟨he.symm, ih _ htail (hdiff he)⟩
          · exact .inl (h.connected _ _ hab he)

end StrictOrder

/-- The order of names. -/
def Bytes.before : Bytes → Bytes → Bool := lexBefore fun a b => decide (a < b)

theorem Bytes.before_strict : StrictOrder Bytes.before :=
  StrictOrder.lex {
    irrefl := fun a => by simp
    trans := fun a b c => by
      simp only [decide_eq_true_eq]
      exact UInt8.lt_trans
    connected := fun a b => by
      simp only [decide_eq_false_iff_not, decide_eq_true_eq, UInt8.not_lt]
      intro hle hne
      exact UInt8.lt_of_le_of_ne hle fun h => hne h.symm }

end SyscallGuard
