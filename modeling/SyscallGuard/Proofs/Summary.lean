import SyscallGuard.Cli.Command

set_option autoImplicit false

/-! # Reading the summary

The line that sums up a sweep is read back here. Its numbers are the totals of the sweep, in a fixed
order (`numbers_summary`), its first letters tell whether files were written (`take_summary`), and
nothing but sources that could not be formatted makes it speak of them
(`unformatted_infix_summary_iff`). So two summaries are the same only if they sum up the same
(`summary_inj`), and what answers a request for information is none. -/

namespace SyscallGuard.Cli

/-! ## The numbers in a text -/

/-- The numbers in a text, behind the digits of one that has begun already. -/
def numbersFrom : Option Nat → List Char → List Nat
  | pending, [] => pending.toList
  | pending, c :: rest =>
    if c.isDigit then numbersFrom (some (10 * pending.getD 0 + (c.toNat - '0'.toNat))) rest
    else pending.toList ++ numbersFrom none rest

/-- The numbers in a text: its digits, as far as they stand together. -/
def numbers (text : String) : List Nat := numbersFrom none text.toList

/-- More digits make a number that has begun larger. -/
theorem numbersFrom_digits {digits : List Char} (h : ∀ c ∈ digits, c.isDigit = true) (n : Nat)
    (rest : List Char) :
    numbersFrom (some n) (digits ++ rest) = numbersFrom (some (Nat.ofDigitChars 10 digits n)) rest := by
  induction digits generalizing n with
  | nil => rw [List.nil_append, Nat.ofDigitChars_nil]
  | cons c digits ih =>
    obtain ⟨hc, hdigits⟩ := List.forall_mem_cons.1 h
    rw [List.cons_append, numbersFrom, if_pos hc, ih hdigits, Nat.ofDigitChars_cons]
    rfl

theorem numbersFrom_toDigits (n : Nat) (rest : List Char) :
    numbersFrom none (Nat.toDigits 10 n ++ rest) = numbersFrom (some n) rest := by
  have hdigits : ∀ c ∈ Nat.toDigits 10 n, c.isDigit = true :=
    fun c hc => Nat.isDigit_of_mem_toDigits (by decide) (by decide) hc
  have hvalue : Nat.ofDigitChars 10 (Nat.toDigits 10 n) 0 = n := Nat.ofDigitChars_ten_toDigits
  cases htext : Nat.toDigits 10 n with
  | nil => exact absurd htext Nat.toDigits_ne_nil
  | cons c digits =>
    rw [htext] at hdigits hvalue
    obtain ⟨hc, hdigits⟩ := List.forall_mem_cons.1 hdigits
    rw [List.cons_append, numbersFrom, if_pos hc, numbersFrom_digits hdigits, ← hvalue,
      Nat.ofDigitChars_cons]
    rfl

/-- Words end a number. -/
theorem numbersFrom_words {words : List Char} (hwords : words.all fun c => !c.isDigit)
    (hne : words ≠ []) (pending : Option Nat) (rest : List Char) :
    numbersFrom pending (words ++ rest) = pending.toList ++ numbersFrom none rest := by
  induction words generalizing pending with
  | nil => exact absurd rfl hne
  | cons c words ih =>
    rw [List.all_cons, Bool.and_eq_true, Bool.not_eq_true'] at hwords
    rw [List.cons_append, numbersFrom, if_neg (by simp [hwords.1])]
    by_cases hmore : words = []
    · rw [hmore, List.nil_append]
    · rw [ih hwords.2 hmore, Option.toList_none, List.nil_append]

/-! ## The summary -/

theorem toList_toString (n : Nat) : (toString n).toList = Nat.toDigits 10 n := by
  rw [Nat.toString_eq_ofList_toDigits, String.toList_ofList]

variable (t : Totals) (dry : Bool)

/-- The numbers of the summary are those of the sweep. -/
theorem numbers_summary :
    numbers (summary t dry ++ "\n") = [t.insertions, t.guarded, t.visited] ++
      if t.unformatted > 0 then [t.unformatted] else [] := by
  have hverb : ∀ rest : List Char,
      numbersFrom none ((if dry then "would insert " else "inserted ").toList ++ rest) =
        numbersFrom none rest := by
    intro rest
    cases dry <;> exact numbersFrom_words (by decide) (by decide) none rest
  rw [numbers, summary]
  simp only [String.toList_append, toList_toString, List.append_assoc, hverb, numbersFrom_toDigits]
  rw [numbersFrom_words (by decide) (by decide), numbersFrom_toDigits,
    numbersFrom_words (by decide) (by decide), numbersFrom_toDigits,
    numbersFrom_words (by decide) (by decide)]
  -- the line ends here, or with a clause that has a number of its own
  by_cases hpos : t.unformatted > 0
  · simp only [if_pos hpos, String.toList_append, toList_toString, List.append_assoc]
    rw [numbersFrom_words (by decide) (by decide), numbersFrom_toDigits,
      numbersFrom_words (by decide) (by decide)]
    rfl
  · simp only [if_neg hpos]
    rfl

/-- The summary speaks of sources that were left unformatted if there are any. -/
theorem unformatted_infix_summary_iff :
    "left unformatted".toList <:+: (summary t dry ++ "\n").toList ↔ 0 < t.unformatted := by
  constructor
  · -- nothing else in a summary has that letter
    intro hinfix
    have hmem : 'm' ∈ (summary t dry ++ "\n").toList := hinfix.subset (by decide)
    refine Nat.pos_of_ne_zero fun hzero => ?_
    have hdigits : ∀ n, 'm' ∉ Nat.toDigits 10 n := by
      intro n hm
      have hdigit := Nat.isDigit_of_mem_toDigits (by decide) (by decide) hm
      cases hdigit
    rw [summary, hzero] at hmem
    simp only [String.toList_append, toList_toString, List.mem_append, hdigits] at hmem
    cases dry <;> simp at hmem
  · intro hpos
    have hclause : "left unformatted".toList <:+: " file(s) left unformatted".toList :=
      ⟨" file(s) ".toList, [], by decide⟩
    rw [summary, if_pos hpos]
    simp only [String.toList_append]
    exact ((hclause.trans (List.suffix_append _ _).isInfix).trans
      (List.suffix_append _ _).isInfix).trans (List.prefix_append _ _).isInfix

theorem take_summary :
    (summary t dry ++ "\n").toList.take 2 = if dry then ['w', 'o'] else ['i', 'n'] := by
  unfold summary
  simp only [String.toList_append, List.append_assoc]
  cases dry <;> rfl

variable {t dry}

/-- Summaries are the same only if they sum up the same. -/
theorem summary_inj {t' : Totals} {dry' : Bool}
    (h : summary t dry ++ "\n" = summary t' dry' ++ "\n") : t = t' ∧ dry = dry' := by
  have hnumbers := numbers_summary t dry
  have hverb := take_summary t dry
  rw [h, numbers_summary] at hnumbers
  rw [h, take_summary] at hverb
  constructor
  · obtain ⟨visited, guarded, insertions, unformatted⟩ := t
    obtain ⟨visited', guarded', insertions', unformatted'⟩ := t'
    simp only [List.cons_append, List.nil_append, List.cons.injEq] at hnumbers
    obtain ⟨rfl, rfl, rfl, hunformatted⟩ := hnumbers
    by_cases hpos : unformatted > 0 <;> by_cases hpos' : unformatted' > 0 <;> simp_all
  · cases dry <;> cases dry' <;> simp_all

/-! ## What is no summary -/

theorem empty_ne_summary (t : Totals) (dry : Bool) : "" ≠ summary t dry ++ "\n" := by
  intro h
  have htake := take_summary t dry
  rw [← h] at htake
  cases dry <;> simp at htake


theorem take_helpText : helpText.toList.take 2 = ['I', 'n'] := by
  unfold helpText
  simp only [String.toList_append, List.append_assoc]
  rfl

theorem take_versionText : versionText.toList.take 2 = ['w', 'a'] := by
  decide +kernel

/-- What answers a request for information is no summary. -/
theorem answer_ne_summary (i : Inquiry) (t : Totals) (dry : Bool) :
    i.answer ≠ summary t dry ++ "\n" := by
  intro h
  have htake := take_summary t dry
  rw [← h] at htake
  cases i with
  | help =>
    rw [Inquiry.answer, take_helpText] at htake
    cases dry <;> simp at htake
  | version =>
    rw [Inquiry.answer, take_versionText] at htake
    cases dry <;> simp at htake

end SyscallGuard.Cli
