import SyscallGuard.Scan.Lexeme
import Mathlib.Tactic.Linarith

set_option autoImplicit false

/-! # Where lexemes lie

The scanner never looks back and never reads past the end: a lexeme read at an offset starts at or
behind that offset and ends within the source (`Lexeme.next_within`). The one place where this is
not obvious is the skipping of unknown input, which always takes a step forward. There is room for
that step because at the very end of a source the scanner finds a token, the end itself, so a scan
without a token has stopped in front of some byte. -/

namespace SyscallGuard

/-! ## Characters -/

theorem Utf8.inPlace_le_length (low high : UInt8) (count : Nat) (bytes : Bytes) :
    Utf8.inPlace low high count bytes ≤ bytes.length := by
  induction bytes generalizing low high count with
  | nil => cases count <;> simp [Utf8.inPlace]
  | cons b rest ih =>
    cases count with
    | zero => simp [Utf8.inPlace]
    | succ count =>
      rw [Utf8.inPlace]
      split
      · exact Nat.succ_le_succ (ih ..)
      · exact Nat.zero_le _

/-- A character lies within the bytes it is read from. -/
theorem Utf8.size_of_scalar? {bytes : Bytes} {code size : Nat}
    (h : Utf8.scalar? bytes = some (code, size)) : 1 ≤ size ∧ size ≤ bytes.length := by
  match bytes with
  | [] => cases h
  | b :: rest =>
    rw [Utf8.scalar?] at h
    split at h
    · obtain ⟨-, rfl⟩ := Prod.mk.inj (Option.some.inj h)
      exact ⟨Nat.le_refl _, by simp⟩
    · split at h
      · cases h
      · next low high count _ =>
        split at h
        · next hcount =>
          obtain ⟨-, rfl⟩ := Prod.mk.inj (Option.some.inj h)
          have hle := Utf8.inPlace_le_length low high count rest
          rw [hcount] at hle
          exact ⟨by omega, by simpa using hle⟩
        · cases h

theorem Utf8.lead_lt (first : UInt8) (count : Nat) : Utf8.lead first count < 64 := by
  rw [Utf8.lead, Nat.one_shiftLeft]
  calc first.toNat % 2 ^ (6 - count) < 2 ^ (6 - count) := Nat.mod_lt _ (Nat.pow_pos (by omega))
    _ ≤ 2 ^ 6 := Nat.pow_le_pow_right (by omega) (Nat.sub_le ..)

theorem Utf8.payload_lt (value count : Nat) (bytes : Bytes) :
    Utf8.payload value count bytes < (value + 1) * 64 ^ count := by
  induction bytes generalizing value count with
  | nil =>
    have hpos : 0 < 64 ^ count := Nat.pow_pos (by omega)
    cases count <;> simp only [Utf8.payload] <;> nlinarith
  | cons b rest ih =>
    cases count with
    | zero => simp [Utf8.payload]
    | succ count =>
      have hrest := ih (value * 64 + b.toNat % 64) count
      have hpos : 0 < 64 ^ count := Nat.pow_pos (by omega)
      have hbyte : b.toNat % 64 + 1 ≤ 64 := Nat.mod_lt _ (by omega)
      rw [Utf8.payload, Nat.pow_succ]
      nlinarith

/-- The byte order mark takes at least three bytes. -/
theorem three_le_of_byteOrderMark {bytes : Bytes}
    (h : (Utf8.scalar? bytes).map Prod.fst = some byteOrderMark) : 3 ≤ bytes.length := by
  obtain ⟨⟨code, size⟩, hscalar, hcode⟩ := Option.map_eq_some_iff.1 h
  have hsize := (Utf8.size_of_scalar? hscalar).2
  suffices 3 ≤ size by omega
  cases bytes with
  | nil => cases hscalar
  | cons b rest =>
    simp only at hcode
    rw [Utf8.scalar?] at hscalar
    split at hscalar
    · next hb =>
      obtain ⟨rfl, -⟩ := Prod.mk.inj (Option.some.inj hscalar)
      have hlt : b.toNat < 128 := hb
      rw [hcode, byteOrderMark] at hlt
      omega
    · split at hscalar
      · cases hscalar
      · next low high count _ =>
        split at hscalar
        · obtain ⟨rfl, rfl⟩ := Prod.mk.inj (Option.some.inj hscalar)
          have hbound := Utf8.payload_lt (Utf8.lead b count) count rest
          rw [hcode, byteOrderMark] at hbound
          have hlead := Utf8.lead_lt b count
          rcases count with _ | _ | count
          · omega
          · omega
          · omega
        · cases hscalar

theorem frontChar_size {bytes : Bytes} (h : bytes ≠ []) :
    1 ≤ (frontChar bytes).2 ∧ (frontChar bytes).2 ≤ bytes.length := by
  unfold frontChar
  cases hc : Utf8.scalar? bytes with
  | some c => exact Utf8.size_of_scalar? hc
  | none => exact ⟨Nat.le_refl _, List.length_pos_iff.2 h⟩

/-! ## Scans -/

/-- What a scan from `offset` on found in a source with `limit` bytes lies in between. -/
structure Scan.Within (offset limit : Nat) (r : Scan) : Prop where
  offset_le : offset ≤ r.start
  start_le : r.start ≤ r.stop
  stop_le : r.stop ≤ limit
  start_le_reached : r.start ≤ r.reached
  reached_le : r.reached ≤ limit

/-- A scan that ended where it began. -/
theorem Scan.Within.still {offset limit : Nat} (h : offset ≤ limit) (token : Option Token) :
    Scan.Within offset limit ⟨token, offset, offset, offset⟩ :=
  ⟨Nat.le_refl _, Nat.le_refl _, h, Nat.le_refl _, h⟩

theorem Scan.Within.weaken {near far limit : Nat} {r : Scan} (h : r.Within far limit)
    (hle : near ≤ far) : r.Within near limit :=
  { h with offset_le := Nat.le_trans hle h.offset_le }

/-- The last complete match after a look at the rules at an offset. -/
def Scan.latest (found : Scan) (rules : List Rule) (start offset : Nat) : Scan :=
  match completed rules with
  | some t => ⟨some t, start, offset, offset⟩
  | none => { found with reached := offset }

/-- One step of reading on: it ends here, or goes on behind the next character with what that
    leaves of some of the rules. -/
theorem munch_cases (fuel : Nat) (bytes : Bytes) (rules : List Rule) (start offset : Nat)
    (found : Scan) :
    munch (fuel + 1) bytes rules start offset found = found.latest rules start offset ∨
      bytes ≠ [] ∧ ∃ rest,
        (∀ r ∈ rest, ∃ q ∈ rules, r.token = q.token ∧ r.shape = q.shape.after (frontChar bytes).1 ∧
          r.shape.isNever = false) ∧
        munch (fuel + 1) bytes rules start offset found =
          munch fuel (bytes.drop (frontChar bytes).2) rest start (offset + (frontChar bytes).2)
            (found.latest rules start offset) := by
  match bytes with
  | [] => exact .inl rfl
  | b :: rest =>
    let kept : List Rule := match completed rules with
      | some t => if t.isText then rules.filter fun r => r.token.isText else rules
      | none => rules
    let next := advanceRules (frontChar (b :: rest)).1 kept
    have hkept : kept ⊆ rules := by
      simp only [kept]
      split
      · split
        · exact fun r hr => (List.mem_filter.1 hr).1
        · exact List.Subset.refl _
      · exact List.Subset.refl _
    by_cases hend : next.isEmpty = true
    · left
      rw [munch.eq_def]
      exact if_pos hend
    · refine .inr ⟨List.cons_ne_nil _ _, next, fun r hr => ?_, ?_⟩
      · obtain ⟨q, hq, hr⟩ := List.mem_filterMap.1 hr
        simp only at hr
        split at hr
        · cases hr
        · next hnever =>
          obtain rfl := Option.some.inj hr
          exact ⟨q, hkept hq, rfl, rfl, by simpa using hnever⟩
      · conv_lhs => rw [munch.eq_def]
        exact if_neg hend

theorem Scan.Within.latest {start offset limit : Nat} {found : Scan}
    (h : found.Within start limit) (hsame : found.start = start) (hstart : start ≤ offset)
    (hlimit : offset ≤ limit) (rules : List Rule) :
    (found.latest rules start offset).Within start limit ∧
      (found.latest rules start offset).start = start := by
  unfold Scan.latest
  split
  · exact ⟨⟨Nat.le_refl _, hstart, hlimit, hstart, hlimit⟩, rfl⟩
  · exact ⟨{ h with start_le_reached := hsame ▸ hstart, reached_le := hlimit }, hsame⟩

/-- Reading on never moves the start of a match. -/
theorem munch_within (fuel : Nat) (rules : List Rule) {bytes : Bytes} {start offset limit : Nat}
    {found : Scan} (hstart : start ≤ offset) (hlimit : offset + bytes.length = limit)
    (hfound : found.Within start limit) (hsame : found.start = start) :
    (munch fuel bytes rules start offset found).Within start limit ∧
      (munch fuel bytes rules start offset found).start = start := by
  induction fuel generalizing rules bytes offset found with
  | zero => exact ⟨hfound, hsame⟩
  | succ fuel ih =>
    have hlatest := hfound.latest hsame hstart (by omega) rules
    obtain hend | ⟨hne, rest, -, hnext⟩ := munch_cases fuel bytes rules start offset found
    · rwa [hend]
    · have hsize := frontChar_size hne
      rw [hnext]
      exact ih rest (by omega) (by rw [List.length_drop]; omega) hlatest.1 hlatest.2

/-- A complete match is never given up. -/
theorem munch_token_isSome {fuel : Nat} {bytes : Bytes} {rules : List Rule} {start offset : Nat}
    {found : Scan} (h : found.token.isSome = true) :
    (munch fuel bytes rules start offset found).token.isSome = true := by
  induction fuel generalizing bytes rules offset found with
  | zero => exact h
  | succ fuel ih =>
    have hlatest : (found.latest rules start offset).token.isSome = true := by
      unfold Scan.latest
      split
      · rfl
      · exact h
    obtain hend | ⟨-, rest, -, hnext⟩ := munch_cases fuel bytes rules start offset found
    · rwa [hend]
    · rw [hnext]
      exact ih hlatest

theorem munch_token_of_completed (fuel : Nat) (bytes : Bytes) {rules : List Rule}
    (start offset : Nat) (found : Scan) (h : (completed rules).isSome = true) :
    (munch (fuel + 1) bytes rules start offset found).token.isSome = true := by
  obtain ⟨t, ht⟩ := Option.isSome_iff_exists.1 h
  have hlatest : (found.latest rules start offset).token.isSome = true := by
    rw [Scan.latest, ht]
    rfl
  obtain hend | ⟨-, rest, -, hnext⟩ := munch_cases fuel bytes rules start offset found
  · rwa [hend]
  · rw [hnext]
    exact munch_token_isSome hlatest

/-- A scan lies within the source; one for which the end counts as a token and that found none
    stopped in front of some byte. -/
theorem skipAndMunch_within {fuel limit : Nat} (set : RuleSet) {bytes : Bytes} {offset : Nat}
    (hlimit : offset + bytes.length = limit) (hfuel : limit < fuel + offset) :
    (skipAndMunch fuel set bytes offset).Within offset limit ∧
      (set.atEnd.isSome = true → (skipAndMunch fuel set bytes offset).token = none →
        (skipAndMunch fuel set bytes offset).start < limit) := by
  induction fuel generalizing set bytes offset with
  | zero => omega
  | succ fuel ih =>
    have hhere := Scan.Within.still (show offset ≤ limit by omega)
    -- Either a match ends right here, or one character is skipped or read on from.
    have hmunch := munch_within (fuel + 1) set.rules (Nat.le_refl offset) hlimit (hhere none) rfl
    unfold skipAndMunch
    split
    · next hcompleted =>
      refine ⟨hmunch.1, fun _ hnone => ?_⟩
      -- The rules match the empty text, so there is a token.
      have hsome := munch_token_of_completed fuel bytes offset offset
        ⟨none, offset, offset, offset⟩ hcompleted
      rw [hnone] at hsome
      cases hsome
    · match bytes with
      | [] =>
        simp only
        split
        · exact ⟨hhere _, fun _ h => by cases h⟩
        · next hend => exact ⟨hhere _, fun h => by simp [hend] at h⟩
      | b :: rest =>
        have hsize := frontChar_size (List.cons_ne_nil b rest)
        have hlt : offset < limit := by simp only [List.length_cons] at hlimit; omega
        simp only
        split
        · split
          · have hrest : offset + (frontChar (b :: rest)).2 +
                ((b :: rest).drop (frontChar (b :: rest)).2).length = limit := by
              rw [List.length_drop]
              omega
            obtain ⟨hwithin, hfront⟩ :=
              ih { set with rules := set.rules.filter fun r => !r.token.isGlued } hrest (by omega)
            exact ⟨hwithin.weaken (by omega), hfront⟩
          · exact ⟨hhere _, fun _ _ => hlt⟩
        · exact ⟨hmunch.1, fun _ _ => by rw [hmunch.2]; exact hlt⟩

/-- A scan from an offset within the source stays within it. -/
theorem scan_within (source : Input) (mode : Nat) {offset : Nat} (h : offset ≤ source.length) :
    (scan source mode offset).Within offset source.length ∧
      ((RuleSet.ofMode mode).atEnd.isSome = true → (scan source mode offset).token = none →
        (scan source mode offset).start < source.length) := by
  have hlength : (source.drop offset).length = source.length - offset := by
    rw [source.drop_eq, source.length_eq, List.length_drop]
  unfold scan
  simp only
  split
  · next hmark =>
    obtain ⟨rfl, hmark⟩ := hmark
    have hthree := three_le_of_byteOrderMark hmark
    have hrest : 3 + ((source.drop 0).drop 3).length = source.length := by
      rw [List.length_drop]
      omega
    obtain ⟨hwithin, hfront⟩ := skipAndMunch_within (RuleSet.ofMode mode) hrest
      (show source.length < source.length + 1 - 0 + 3 by omega)
    exact ⟨hwithin.weaken (Nat.zero_le _), hfront⟩
  · exact skipAndMunch_within _ (by omega) (by omega)

/-! ## Lexemes -/

namespace Lexeme

/-- While unknown input is skipped, the end of the source is a token. -/
theorem atEnd_skipping :
    (RuleSet.ofMode (Automaton.mode Automaton.faultState)).atEnd.isSome = true := by
  decide +kernel

/-- Unknown input is skipped up to some offset within the source. -/
theorem skipUnknown_within (source : Input) (fuel : Nat) {reached stop : Nat} (hle : stop ≤ reached)
    (hlimit : reached ≤ source.length) (hroom : reached = stop → stop < source.length) :
    stop ≤ skipUnknown source fuel reached stop ∧
      skipUnknown source fuel reached stop ≤ source.length := by
  induction fuel generalizing reached stop with
  | zero => exact ⟨Nat.le_refl _, by simp only [skipUnknown]; omega⟩
  | succ fuel ih =>
    -- A scan that got nowhere gives up a character, and there is one: it did not stop at the end.
    obtain ⟨next, hnext, hstop, hend⟩ : ∃ next, (if reached = stop then
        stop + (frontChar (source.drop stop)).2 else reached) = next ∧ stop ≤ next ∧
        next ≤ source.length := by
      refine ⟨_, rfl, ?_⟩
      split
      · next heq =>
        have hlength : (source.drop stop).length = source.length - stop := by
          rw [source.drop_eq, source.length_eq, List.length_drop]
        have hlt := hroom heq
        have hne : source.drop stop ≠ [] := by
          rw [← List.length_pos_iff]
          omega
        have hsize := frontChar_size hne
        omega
      · omega
    obtain ⟨hwithin, hfront⟩ := scan_within source (Automaton.mode Automaton.faultState) hend
    rw [skipUnknown]
    simp only [hnext]
    split
    · exact ⟨hstop, hend⟩
    · next hnone =>
      have hlt := hfront atEnd_skipping hnone
      have hfirst := hwithin.offset_le
      have hsecond := hwithin.start_le_reached
      obtain ⟨hlow, hhigh⟩ := ih (show next ≤ _ by omega) hwithin.reached_le (by omega)
      exact ⟨Nat.le_trans hstop hlow, hhigh⟩

/-- A lexeme lies within a source, behind the white space in front of it. -/
structure Within (limit : Nat) (x : Lexeme) : Prop where
  lead_le : x.lead ≤ x.start
  start_le : x.start ≤ x.stop
  stop_le : x.stop ≤ limit

theorem classify_within {source : Input} {s : Automaton.State} {lead : Nat} {found : Token}
    {start stop limit : Nat} (hlead : lead ≤ start) (hstart : start ≤ stop) (hstop : stop ≤ limit) :
    (classify source s lead found start stop).Within limit := by
  unfold classify
  split
  · split <;> exact ⟨hlead, hstart, hstop⟩
  · exact ⟨hlead, hstart, hstop⟩

/-- **A lexeme lies within the source**, at or behind the offset at which it was looked for. -/
theorem next_within (source : Input) (s : Automaton.State) {offset : Nat}
    (h : offset ≤ source.length) : (next source s offset).Within source.length := by
  obtain ⟨hfirst, -⟩ := scan_within source (Automaton.mode s) h
  obtain ⟨hsecond, hfront⟩ := scan_within source (Automaton.mode Automaton.faultState) h
  unfold next
  simp only
  split
  · exact classify_within hfirst.offset_le hfirst.start_le hfirst.stop_le
  · split
    · exact classify_within hsecond.offset_le hsecond.start_le hsecond.stop_le
    · next hnone =>
      obtain ⟨hlow, hhigh⟩ := skipUnknown_within source (source.length + 1)
        hsecond.start_le_reached hsecond.reached_le fun _ => hfront atEnd_skipping hnone
      exact ⟨hsecond.offset_le, hlow, hhigh⟩

theorem next_lead (source : Input) (s : Automaton.State) (offset : Nat) :
    (next source s offset).lead = offset := by
  have hclassify : ∀ found start stop, (classify source s offset found start stop).lead = offset := by
    intro found start stop
    unfold classify
    split
    · split <;> rfl
    · rfl
  unfold next
  simp only
  split
  · exact hclassify ..
  · split
    · exact hclassify ..
    · rfl

end Lexeme

end SyscallGuard
