import SyscallGuard.Proofs.Lexing

set_option autoImplicit false

/-! # How tokens are spelled

A token that the scanner finds is spelled according to its shape, or it is the end of the source
(`scan_found`). Most tokens therefore begin with a byte that is no white space, and do not end with
white space other than a line feed (`Token.Spelled`). The exceptions are told by their tokens alone:
a *loose* token may begin with white space or take no room at all, a *textual* one is a piece of a
literal or a comment and may end with anything. -/

namespace SyscallGuard

open Bytes (isSpace)

/-! ## The last character of a match -/

namespace Pattern

/-- Whether a match can end with a character. -/
def endsWith (c : Nat) : Pattern → Bool
  | never | empty => false
  | one s => s.mem c
  | seq p q => q.endsWith c || (q.acceptsEmpty && p.endsWith c)
  | either p q => p.endsWith c || q.endsWith c
  | many p => p.endsWith c

theorem endsWith_andThen {c : Nat} {p q : Pattern} (h : (andThen p q).endsWith c = true) :
    q.endsWith c = true ∨ q.acceptsEmpty = true ∧ p.endsWith c = true := by
  cases p with
  | never => cases h
  | empty => exact .inl h
  | one | seq | either | many => simpa [andThen, endsWith] using h

theorem endsWith_orElse {c : Nat} {p q : Pattern} (h : (orElse p q).endsWith c = true) :
    p.endsWith c = true ∨ q.endsWith c = true := by
  cases p with
  | never => exact .inr (by simpa [orElse] using h)
  | empty | one | seq | either | many => cases q <;> simp_all [orElse, endsWith]

theorem acceptsEmpty_andThen (p q : Pattern) :
    (andThen p q).acceptsEmpty = (p.acceptsEmpty && q.acceptsEmpty) := by
  cases p <;> simp [andThen, acceptsEmpty]

theorem acceptsEmpty_orElse (p q : Pattern) :
    (orElse p q).acceptsEmpty = (p.acceptsEmpty || q.acceptsEmpty) := by
  cases p <;> cases q <;> simp [orElse, acceptsEmpty]

/-- What is left of a pattern ends as the pattern does. -/
theorem endsWith_of_endsWith_after {c d : Nat} {p : Pattern} (h : (p.after d).endsWith c = true) :
    p.endsWith c = true := by
  induction p with
  | never | empty => exact absurd h (by simp [after, endsWith])
  | one s =>
    rw [after] at h
    split at h <;> cases h
  | seq p q ihp ihq =>
    have hfront : (andThen (p.after d) q).endsWith c = true → (seq p q).endsWith c = true := by
      intro h
      rw [endsWith, Bool.or_eq_true, Bool.and_eq_true]
      exact (endsWith_andThen h).imp_right fun h => ⟨h.1, ihp h.2⟩
    rw [after] at h
    split at h
    · rcases endsWith_orElse h with h | h
      · exact hfront h
      · rw [endsWith, ihq h, Bool.true_or]
    · exact hfront h
  | either p q ihp ihq =>
    rw [endsWith, Bool.or_eq_true]
    exact (endsWith_orElse h).imp ihp ihq
  | many p ih =>
    rcases endsWith_andThen h with h | ⟨-, h⟩
    · exact h
    · exact ih h

/-- A match that a character completes ends with it. -/
theorem endsWith_of_acceptsEmpty_after {c : Nat} {p : Pattern}
    (h : (p.after c).acceptsEmpty = true) : p.endsWith c = true := by
  induction p with
  | never | empty => cases h
  | one s =>
    rw [after] at h
    split at h
    · next hmem => exact hmem
    · cases h
  | seq p q ihp ihq =>
    have hfront : (andThen (p.after c) q).acceptsEmpty = true → (seq p q).endsWith c = true := by
      intro h
      rw [acceptsEmpty_andThen, Bool.and_eq_true] at h
      rw [endsWith, h.2, ihp h.1, Bool.true_and, Bool.or_true]
    rw [after] at h
    split at h
    · rw [acceptsEmpty_orElse, Bool.or_eq_true] at h
      rcases h with h | h
      · exact hfront h
      · rw [endsWith, ihq h, Bool.true_or]
    · exact hfront h
  | either p q ihp ihq =>
    rw [after, acceptsEmpty_orElse, Bool.or_eq_true] at h
    rw [endsWith, Bool.or_eq_true]
    exact h.imp ihp ihq
  | many p ih =>
    rw [after, acceptsEmpty_andThen, Bool.and_eq_true] at h
    exact ih h.1

end Pattern

/-! ## Characters and bytes -/

theorem frontChar_of_lt {b : UInt8} (h : b < 0x80) (rest : Bytes) :
    frontChar (b :: rest) = (b.toNat, 1) := by
  rw [frontChar, Utf8.scalar?, if_pos h]
  rfl

theorem isWhite_of_isSpace {b : UInt8} (h : isSpace b = true) :
    b < 0x80 ∧ isWhite b.toNat = true := by
  have hcases : b = 32 ∨ 9 ≤ b ∧ b ≤ 13 := by simpa [isSpace] using h
  rw [UInt8.lt_iff_toNat_lt, isWhite]
  rcases hcases with rfl | ⟨hlow, hhigh⟩
  · decide
  · rw [UInt8.le_iff_toNat_le] at hlow hhigh
    simp only [UInt8.reduceToNat] at hlow hhigh ⊢
    simp only [Bool.or_eq_true, Bool.and_eq_true, decide_eq_true_eq]
    omega

theorem Utf8.le_of_inPlace_eq {low high : UInt8} {count : Nat} {bytes : Bytes} {i : Nat} {b : UInt8}
    (hlow : 0x80 ≤ low) (h : Utf8.inPlace low high count bytes = count) (hi : i < count)
    (hb : bytes[i]? = some b) : 0x80 ≤ b := by
  induction bytes generalizing low high count i with
  | nil => cases hb
  | cons first rest ih =>
    obtain ⟨count, rfl⟩ : ∃ k, count = k + 1 := ⟨count - 1, by omega⟩
    rw [Utf8.inPlace] at h
    split at h
    · next hin =>
      cases i with
      | zero =>
        obtain rfl := Option.some.inj hb
        rw [Utf8.within, Bool.and_eq_true, decide_eq_true_eq] at hin
        exact UInt8.le_trans hlow hin.1
      | succ i =>
        have hrest : Utf8.inPlace 0x80 0xBF count rest = count := by omega
        exact ih (UInt8.le_refl _) hrest (by omega) hb
    · omega

theorem Utf8.shape_low {b low high : UInt8} {count : Nat}
    (h : Utf8.shape b = some (low, high, count)) : 0x80 ≤ low ∧ 1 ≤ count := by
  unfold Utf8.shape at h
  repeat' split at h
  all_goals first | (cases h; done) | (cases h; decide)

/-- A character whose last byte is ASCII is that byte. -/
theorem frontChar_of_last_lt {bytes : Bytes} {b : UInt8}
    (hb : bytes[(frontChar bytes).2 - 1]? = some b) (hlt : b < 0x80) :
    frontChar bytes = (b.toNat, 1) := by
  match bytes with
  | [] => cases hb
  | first :: rest =>
    by_cases hfirst : first < 0x80
    · rw [frontChar_of_lt hfirst] at hb ⊢
      obtain rfl := Option.some.inj hb
      rfl
    · exfalso
      rw [frontChar, Utf8.scalar?, if_neg hfirst] at hb
      split at hb
      · obtain rfl := Option.some.inj hb
        exact hfirst hlt
      · next low high count hshape =>
        obtain ⟨hlow, hcount⟩ := Utf8.shape_low hshape
        split at hb
        · next hin =>
          obtain ⟨i, rfl⟩ : ∃ i, count = i + 1 := ⟨count - 1, by omega⟩
          exact absurd hlt (UInt8.not_lt.2 (Utf8.le_of_inPlace_eq hlow hin (Nat.lt_succ_self i) hb))
        · obtain rfl := Option.some.inj hb
          exact hfirst hlt

/-! ## Classes of tokens -/

namespace Token

/-- May begin with white space, or take no room at all. -/
def isLoose : Token → Bool
  | eof | newline | nul | rawText | stringText => true
  | _ => false

/-- A piece of a literal or a comment, which may end with anything. -/
def isTextual : Token → Bool
  | rawText | stringText | escape | comment => true
  | _ => false

theorem mem_all (t : Token) : t ∈ all := by
  cases t <;> decide

/-- The characters that are white space. -/
def whites : List Nat := [9, 10, 11, 12, 13, 32]

theorem mem_whites {c : Nat} (h : isWhite c = true) : c ∈ whites := by
  simp only [isWhite, Bool.or_eq_true, beq_iff_eq, Bool.and_eq_true, decide_eq_true_eq] at h
  simp only [whites, List.mem_cons, List.not_mem_nil, or_false]
  omega

/-- What is not loose neither begins with white space nor is empty. -/
theorem shape_of_not_loose {t : Token} (h : t.isLoose = false) :
    t.shape.acceptsEmpty = false ∧ ∀ c ∈ whites, (t.shape.after c).isNever = true := by
  have hall : ∀ t ∈ all, t.isLoose = false →
      t.shape.acceptsEmpty = false ∧ ∀ c ∈ whites, (t.shape.after c).isNever = true := by
    decide +kernel
  exact hall t t.mem_all h

/-- What is not textual is not empty, unless it is the end of the source, and ends with no white
    space but a line feed. -/
theorem shape_of_not_textual {t : Token} (h : t.isTextual = false) :
    t.shape.acceptsEmpty = false ∧
      ∀ c ∈ whites, c ≠ Bytes.newline.toNat → t.shape.endsWith c = false := by
  have hall : ∀ t ∈ all, t.isTextual = false → t.shape.acceptsEmpty = false ∧
      ∀ c ∈ whites, c ≠ Bytes.newline.toNat → t.shape.endsWith c = false := by
    decide +kernel
  exact hall t t.mem_all h

end Token

/-! ## What a scan finds -/

/-- What is left of the shape of a token after the source was read from `start` up to an offset. -/
inductive Leaves (source : Bytes) (t : Token) (start : Nat) : Nat → Pattern → Prop
  | start : Leaves source t start start t.shape
  | read {offset : Nat} {p : Pattern} (before : Leaves source t start offset p)
      (more : source.drop offset ≠ [])
      (fits : (p.after (frontChar (source.drop offset)).1).isNever = false) :
      Leaves source t start (offset + (frontChar (source.drop offset)).2)
        (p.after (frontChar (source.drop offset)).1)

namespace Leaves

variable {source : Bytes} {t : Token} {start offset : Nat} {p : Pattern}

/-- The shape allows the first character. -/
theorem first (h : Leaves source t start offset p) :
    offset = start ∧ p = t.shape ∨ start < offset ∧ source.drop start ≠ [] ∧
      (t.shape.after (frontChar (source.drop start)).1).isNever = false := by
  induction h with
  | start => exact .inl ⟨rfl, rfl⟩
  | read before more fits ih =>
    have hsize := (frontChar_size more).1
    rcases ih with ⟨rfl, rfl⟩ | ⟨hlt, hne, hfits⟩
    · exact .inr ⟨by omega, more, fits⟩
    · exact .inr ⟨by omega, hne, hfits⟩

theorem endsWith (h : Leaves source t start offset p) {c : Nat} (hc : p.endsWith c = true) :
    t.shape.endsWith c = true := by
  induction h with
  | start => exact hc
  | read _ _ _ ih => exact ih (Pattern.endsWith_of_endsWith_after hc)

/-- The shape allows the last character of a match. -/
theorem last (h : Leaves source t start offset p) (hp : p.acceptsEmpty = true)
    (hlt : start < offset) :
    ∃ before, source.drop before ≠ [] ∧ offset = before + (frontChar (source.drop before)).2 ∧
      t.shape.endsWith (frontChar (source.drop before)).1 = true := by
  cases h with
  | start => omega
  | read before more _ =>
    exact ⟨_, more, rfl, before.endsWith (Pattern.endsWith_of_acceptsEmpty_after hp)⟩

end Leaves

/-- A token stands in a range: its text has the shape of the token, or the token is the end of the
    source. -/
def Found (source : Bytes) (t : Token) (start stop : Nat) : Prop :=
  (∃ p, Leaves source t start stop p ∧ p.acceptsEmpty = true) ∨
    (t = .eof ∨ t = .nul) ∧ start = source.length ∧ stop = source.length

theorem munch_found (source : Bytes) (fuel : Nat) {bytes : Bytes} {rules : List Rule}
    {start offset : Nat} {found : Scan} (hbytes : bytes = source.drop offset)
    (hrules : ∀ r ∈ rules, Leaves source r.token start offset r.shape)
    (hfound : ∀ t, found.token = some t → Found source t start found.stop) :
    ∀ t, (munch fuel bytes rules start offset found).token = some t →
      Found source t start (munch fuel bytes rules start offset found).stop := by
  induction fuel generalizing bytes rules offset found with
  | zero => exact hfound
  | succ fuel ih =>
    have hlatest : ∀ t, (found.latest rules start offset).token = some t →
        Found source t start (found.latest rules start offset).stop := by
      unfold Scan.latest
      split
      · next t ht =>
        intro u hu
        obtain rfl := Option.some.inj hu
        obtain ⟨r, hr, rfl⟩ := Option.map_eq_some_iff.1 ht
        have haccepts : r.shape.acceptsEmpty = true :=
          List.find?_some (p := fun r : Rule => r.shape.acceptsEmpty) hr
        exact .inl ⟨r.shape, hrules r (List.mem_of_find?_eq_some hr), haccepts⟩
      · exact hfound
    obtain hend | ⟨hne, rest, hrest, hnext⟩ := munch_cases fuel bytes rules start offset found
    · rwa [hend]
    · rw [hnext]
      subst hbytes
      refine ih (by rw [List.drop_drop]) (fun r hr => ?_) hlatest
      obtain ⟨q, hq, htoken, hshape, hnever⟩ := hrest r hr
      rw [htoken, hshape]
      exact (hrules q hq).read hne (hshape ▸ hnever)

theorem skipAndMunch_found (source : Bytes) {fuel : Nat} {set : RuleSet} {bytes : Bytes}
    {offset : Nat} (hoffset : offset ≤ source.length) (hbytes : bytes = source.drop offset)
    (hrules : ∀ r ∈ set.rules, r.shape = r.token.shape)
    (hend : ∀ t, set.atEnd = some t → t = .eof ∨ t = .nul) :
    ∀ t, (skipAndMunch fuel set bytes offset).token = some t →
      Found source t (skipAndMunch fuel set bytes offset).start
        (skipAndMunch fuel set bytes offset).stop := by
  induction fuel generalizing set bytes offset with
  | zero => simp [skipAndMunch]
  | succ fuel ih =>
    have hmunch : ∀ t,
        (munch (fuel + 1) bytes set.rules offset offset ⟨none, offset, offset, offset⟩).token =
          some t →
        Found source t
          (munch (fuel + 1) bytes set.rules offset offset ⟨none, offset, offset, offset⟩).start
          (munch (fuel + 1) bytes set.rules offset offset ⟨none, offset, offset, offset⟩).stop := by
      intro t ht
      have hlength : offset + bytes.length = source.length := by
        rw [hbytes, List.length_drop]
        omega
      rw [(munch_within (fuel + 1) set.rules (Nat.le_refl offset) hlength
        (Scan.Within.still hoffset none) rfl).2]
      exact munch_found source (fuel + 1) hbytes (fun r hr => hrules r hr ▸ .start) (by simp) t ht
    unfold skipAndMunch
    split
    · exact hmunch
    · cases bytes with
      | nil =>
        have hlength : offset = source.length := by
          have := List.drop_eq_nil_iff.1 hbytes.symm
          omega
        simp only
        split
        · next u hu =>
          intro t ht
          obtain rfl := Option.some.inj ht
          exact .inr ⟨hend _ hu, hlength, hlength⟩
        · simp
      | cons b rest =>
        have hsize := frontChar_size (List.cons_ne_nil b rest)
        have hlen : (b :: rest).length = source.length - offset := by
          rw [hbytes, List.length_drop]
        simp only
        split
        · split
          · refine ih (by omega) (by rw [hbytes, List.drop_drop]) (fun r hr => ?_) hend
            exact hrules r (List.mem_filter.1 hr).1
          · simp
        · exact hmunch

theorem RuleSet.ofMode_rules (mode : Nat) :
    (∀ r ∈ (RuleSet.ofMode mode).rules, r.shape = r.token.shape) ∧
      ∀ t, (RuleSet.ofMode mode).atEnd = some t → t = .eof ∨ t = .nul := by
  by_cases hmode : mode < Mode.all.length
  · have hset : RuleSet.ofMode mode = (Mode.all[mode]).ruleSet := by
      simp [RuleSet.ofMode, RuleSet.table, hmode]
    have hend : ∀ m ∈ Mode.all, ∀ t, m.atEnd = some t → t = .eof ∨ t = .nul := by decide
    rw [hset]
    refine ⟨fun r hr => ?_, hend _ (List.getElem_mem hmode)⟩
    obtain ⟨t, -, rfl⟩ := List.mem_map.1 hr
    rfl
  · have hset : RuleSet.ofMode mode = ⟨[], none⟩ := by
      simp [RuleSet.ofMode, RuleSet.table, Array.getD, hmode]
    simp [hset]

/-- **A scan is right**: what it finds has the shape of its token, or is the end of the source. -/
theorem scan_found (source : Input) (mode : Nat) {offset : Nat} (h : offset ≤ source.length)
    {t : Token} (ht : (scan source mode offset).token = some t) :
    Found source.bytes t (scan source mode offset).start (scan source mode offset).stop := by
  obtain ⟨hrules, hend⟩ := RuleSet.ofMode_rules mode
  rw [source.length_eq] at h
  revert ht
  unfold scan
  simp only
  split
  · next hmark =>
    obtain ⟨rfl, hmark⟩ := hmark
    have hthree := three_le_of_byteOrderMark hmark
    rw [source.drop_eq, List.drop_zero] at hthree ⊢
    exact skipAndMunch_found source.bytes hthree rfl hrules hend t
  · exact skipAndMunch_found source.bytes h (source.drop_eq offset) hrules hend t

/-! ## Spelled tokens -/

/-- What the text of a token that stands in a range begins and ends with. -/
structure Token.Spelled (source : Bytes) (t : Token) (start stop : Nat) : Prop where
  opens : t.isLoose = false →
    start < stop ∧ ∃ b, source[start]? = some b ∧ isSpace b = false
  closes : t.isTextual = false →
    stop = source.length ∨ ∃ b, source[stop - 1]? = some b ∧ (isSpace b = false ∨ b = Bytes.newline)

theorem Found.spelled {source : Bytes} {t : Token} {start stop : Nat}
    (h : Found source t start stop) : t.Spelled source start stop := by
  constructor
  · intro hloose
    obtain ⟨hempty, hwhite⟩ := Token.shape_of_not_loose hloose
    rcases h with ⟨p, hleaves, hp⟩ | ⟨rfl | rfl, -⟩
    · rcases hleaves.first with ⟨-, rfl⟩ | ⟨hlt, hne, hfits⟩
      · rw [hempty] at hp
        cases hp
      · refine ⟨hlt, ?_⟩
        obtain ⟨b, rest, hdrop⟩ := List.exists_cons_of_ne_nil hne
        refine ⟨b, ?_, ?_⟩
        · rw [← List.head?_drop, hdrop]
          rfl
        -- a first byte that is white space would be the first character
        · by_contra hspace
          obtain ⟨hascii, hc⟩ := isWhite_of_isSpace (Bool.not_eq_false _ ▸ hspace)
          rw [hdrop, frontChar_of_lt hascii, hwhite _ (Token.mem_whites hc)] at hfits
          cases hfits
    · cases hloose
    · cases hloose
  · intro htextual
    obtain ⟨hempty, hwhite⟩ := Token.shape_of_not_textual htextual
    rcases h with ⟨p, hleaves, hp⟩ | ⟨-, -, hstop⟩
    · rcases hleaves.first with ⟨-, rfl⟩ | ⟨hlt, -⟩
      · rw [hempty] at hp
        cases hp
      · right
        obtain ⟨before, hne, rfl, hends⟩ := hleaves.last hp hlt
        obtain ⟨hone, hsize⟩ := frontChar_size hne
        have hin : (frontChar (source.drop before)).2 - 1 < (source.drop before).length := by omega
        obtain ⟨b, hbyte⟩ :
            ∃ b, (source.drop before)[(frontChar (source.drop before)).2 - 1]? = some b :=
          ⟨_, List.getElem?_eq_getElem hin⟩
        refine ⟨b, ?_, ?_⟩
        · rw [Nat.add_sub_assoc hone, ← List.getElem?_drop]
          exact hbyte
        -- a last byte that is white space would be the last character
        · by_contra hspace
          rw [not_or, Bool.not_eq_false] at hspace
          obtain ⟨hascii, hc⟩ := isWhite_of_isSpace hspace.1
          rw [frontChar_of_last_lt hbyte hascii, hwhite _ (Token.mem_whites hc)] at hends
          · cases hends
          · exact fun heq => hspace.2 (UInt8.toNat_inj.1 heq)
    · exact .inl hstop

/-- What is said of a token's text depends on the class of the token only. -/
theorem Token.Spelled.congr {source : Bytes} {t u : Token} {start stop : Nat}
    (h : t.Spelled source start stop) (hloose : t.isLoose = false) (htextual : t.isTextual = false) :
    u.Spelled source start stop :=
  ⟨fun _ => h.opens hloose, fun _ => h.closes htextual⟩

namespace Lexeme

/-- A lexeme whose token is spelled, also when it is read as a name instead of a keyword. -/
structure Spelled (source : Bytes) (x : Lexeme) : Prop where
  token : ∀ t, x.token = some t → t.Spelled source x.start x.stop
  word : x.isWord = true →
    Token.identifier.Spelled source x.start x.stop ∧ x.token ≠ some .eof

theorem ne_eof_of_keyword? {word : Bytes} {t : Token} (h : Token.keyword? word = some t) :
    t ≠ .eof := by
  obtain ⟨before, after, hall, -⟩ := List.lookup_eq_some_iff.1 h
  have hmem : (word, t) ∈ Token.keywordSpellings := by simp [hall]
  obtain ⟨u, hu, heq⟩ := List.mem_map.1 hmem
  obtain rfl := congrArg Prod.snd heq
  rintro rfl
  exact absurd hu (by decide)

theorem classify_spelled {source : Input} {s : Automaton.State} {lead : Nat} {found : Token}
    {start stop : Nat} (h : found.Spelled source.bytes start stop) :
    (classify source s lead found start stop).Spelled source.bytes := by
  unfold classify
  split
  · next hfound =>
    subst hfound
    split
    · next word hword =>
      refine ⟨fun t _ => h.congr rfl rfl, fun _ => ⟨h, fun heof => ?_⟩⟩
      have heof := Option.some.inj heof
      split at heof
      · exact ne_eof_of_keyword? hword heof
      · cases heof
    · exact ⟨fun t ht => Option.some.inj ht ▸ h, fun hword => nomatch hword⟩
  · exact ⟨fun t ht => Option.some.inj ht ▸ h, fun hword => nomatch hword⟩

/-- **A lexeme is spelled like its token**, whatever the state it is read in. -/
theorem next_spelled (source : Input) (s : Automaton.State) {offset : Nat}
    (h : offset ≤ source.length) : (next source s offset).Spelled source.bytes := by
  unfold next
  simp only
  split
  · next t ht => exact classify_spelled (scan_found source _ h ht).spelled
  · split
    · next t ht => exact classify_spelled (scan_found source _ h ht).spelled
    · exact ⟨fun _ ht => (nomatch ht), fun hword => nomatch hword⟩

end Lexeme

end SyscallGuard
