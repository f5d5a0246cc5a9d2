import SyscallGuard.Proofs.Text

set_option autoImplicit false

/-! # Guards as statements

A guard calls a function with one argument, an interpreted string literal. `Literal.read?` reads
such a literal by the rules of the language, all its escapes included: up to the first quote that
no backslash belongs to, as pieces that are written in one way and stand for bytes. What a guard is
made of is the inverse (`Literal.scan_escape`): each byte of the message is one piece. So a guard is
a single literal, its message can be read off again, and no two calls share a guard
(`Guard.line_literal`). -/

namespace SyscallGuard

/-! ## String literals -/

namespace Literal

/-- The quote at both ends of a literal. -/
def quote : UInt8 := 34

/-- What an escape starts with. -/
def backslash : UInt8 := 92

/-- A piece of a literal: how it is written and what it stands for. -/
structure Piece where
  written : Bytes
  value : Bytes
deriving DecidableEq

/-- The escapes of a single letter, with the byte that each stands for. -/
def letters : List (UInt8 × UInt8) :=
  [(97, 7), (98, 8), (102, 12), (110, 10), (114, 13), (116, 9), (118, 11), (backslash, backslash),
    (quote, quote)]

/-- The value of a digit in bases up to sixteen. -/
def digit? (b : UInt8) : Option Nat :=
  if 48 ≤ b ∧ b ≤ 57 then some (b.toNat - 48)
  else if 65 ≤ b ∧ b ≤ 70 then some (b.toNat - 55)
  else if 97 ≤ b ∧ b ≤ 102 then some (b.toNat - 87)
  else none

/-- The number that digits stand for, if all of them are digits of the base. -/
def number? (base : Nat) (digits : Bytes) : Option Nat :=
  digits.foldlM (fun n b => ((digit? b).filter (· < base)).map (n * base + ·)) 0

/-- What an escape for a byte stands for. -/
def byte? (n : Nat) : Option Bytes := if n < 256 then some [UInt8.ofNat n] else none

/-- What an escape for a character stands for. -/
def character? (n : Nat) : Option Bytes :=
  if n.isValidChar then some (Bytes.ofString (String.ofList [Char.ofNat n])) else none

/-- Reads the digits of an escape, behind the backslash and what announces them. -/
def numeric? (lead : Bytes) (base count : Nat) (value? : Nat → Option Bytes) (bytes : Bytes) :
    Option (Piece × Bytes) :=
  if bytes.length < count then none
  else ((number? base (bytes.take count)).bind value?).map fun value =>
    (⟨backslash :: lead ++ bytes.take count, value⟩, bytes.drop count)

/-- Reads an escape behind its backslash. -/
def escape? : Bytes → Option (Piece × Bytes)
  | [] => none
  | b :: rest =>
    match letters.lookup b with
    | some value => some (⟨[backslash, b], [value]⟩, rest)
    | none =>
      if b = 120 then numeric? [b] 16 2 byte? rest
      else if b = 117 then numeric? [b] 16 4 character? rest
      else if b = 85 then numeric? [b] 16 8 character? rest
      else numeric? [] 8 3 byte? (b :: rest)

/-- Reads a piece. Only quotes and line feeds do not stand for themselves. -/
def piece? : Bytes → Option (Piece × Bytes)
  | [] => none
  | b :: rest =>
    if b = backslash then escape? rest
    else if b = quote ∨ b = Bytes.newline then none
    else some (⟨[b], [b]⟩, rest)

/-- A piece and what follows it are what was read. -/
theorem numeric?_append {lead bytes rest : Bytes} {base count : Nat} {value? : Nat → Option Bytes}
    {piece : Piece} (h : numeric? lead base count value? bytes = some (piece, rest)) :
    piece.written ++ rest = backslash :: lead ++ bytes ∧ rest.length ≤ bytes.length := by
  unfold numeric? at h
  split at h
  · cases h
  · obtain ⟨value, -, hpair⟩ := Option.map_eq_some_iff.1 h
    rw [Prod.mk.injEq] at hpair
    rw [← hpair.1, ← hpair.2, List.append_assoc, List.take_append_drop, List.length_drop]
    exact ⟨rfl, Nat.sub_le _ _⟩

theorem escape?_append {bytes rest : Bytes} {piece : Piece}
    (h : escape? bytes = some (piece, rest)) :
    piece.written ++ rest = backslash :: bytes ∧ rest.length ≤ bytes.length := by
  cases bytes with
  | nil => cases h
  | cons b bytes =>
    have shorter {rest : Bytes} (h : rest.length ≤ bytes.length) :
        rest.length ≤ (b :: bytes).length := Nat.le_succ_of_le h
    rw [escape?] at h
    split at h
    · rw [Option.some.injEq, Prod.mk.injEq] at h
      rw [← h.1, ← h.2]
      exact ⟨rfl, shorter (Nat.le_refl _)⟩
    · split at h
      · exact (numeric?_append h).imp_right shorter
      · split at h
        · exact (numeric?_append h).imp_right shorter
        · split at h
          · exact (numeric?_append h).imp_right shorter
          · exact numeric?_append h

theorem piece?_append {bytes rest : Bytes} {piece : Piece} (h : piece? bytes = some (piece, rest)) :
    piece.written ++ rest = bytes ∧ rest.length < bytes.length := by
  cases bytes with
  | nil => cases h
  | cons b bytes =>
    rw [piece?] at h
    split at h
    · next hb =>
      obtain ⟨happend, hshorter⟩ := escape?_append h
      exact ⟨hb ▸ happend, Nat.lt_succ_of_le hshorter⟩
    · split at h
      · cases h
      · rw [Option.some.injEq, Prod.mk.injEq] at h
        rw [← h.1, ← h.2]
        exact ⟨rfl, Nat.lt_succ_self _⟩

/-- Reads pieces up to the first quote that is not part of one. -/
def scan (bytes : Bytes) : Option (List Piece × Bytes) :=
  match bytes with
  | [] => none
  | b :: rest =>
    if b = quote then some ([], rest)
    else match _h : piece? (b :: rest) with
      | none => none
      | some (piece, rest) => (scan rest).map fun (pieces, behind) => (piece :: pieces, behind)
termination_by bytes.length
decreasing_by exact (piece?_append _h).2

/-- Reads a literal: its pieces, and what follows its last quote. -/
def read? : Bytes → Option (List Piece × Bytes)
  | [] => none
  | b :: rest => if b = quote then scan rest else none

theorem scan_quote (rest : Bytes) : scan (quote :: rest) = some ([], rest) := by
  rw [scan, if_pos rfl]

theorem scan_piece {b : UInt8} {bytes rest : Bytes} {piece : Piece} (hb : b ≠ quote)
    (h : piece? (b :: bytes) = some (piece, rest)) :
    scan (b :: bytes) = (scan rest).map fun found => (piece :: found.1, found.2) := by
  rw [scan, if_neg hb]
  split
  · next hnone =>
    rw [h] at hnone
    cases hnone
  · next hsome =>
    rw [h, Option.some.injEq, Prod.mk.injEq] at hsome
    rw [← hsome.1, ← hsome.2]

-- every escape of the language is read, not only those that guards have
example : ((read? (Bytes.ofString "\"\\x41\\t\\u00e4\\101\" + b")).map fun found =>
    (found.1.flatMap Piece.value, found.2)) =
      some (Bytes.ofString "A\täA", Bytes.ofString " + b") := by decide +kernel

/-! ## Escaped bytes -/

/-- A byte as it is written in a guard. -/
def ofByte (b : UInt8) : Piece := ⟨Guard.escapeByte b, [b]⟩

/-- The escapes that guards have. -/
def guardEscapes : List Bytes := [[92, 92], [92, 34], [92, 110], [92, 114]]

/-- A byte is written as one of these escapes, or as itself if it is none that needs one. -/
theorem escapeByte_cases (b : UInt8) :
    (∃ letter, Guard.escapeByte b = [backslash, letter] ∧ [backslash, letter] ∈ guardEscapes ∧
      letters.lookup letter = some b) ∨
    Guard.escapeByte b = [b] ∧ b ≠ backslash ∧ b ≠ quote ∧ b ≠ Bytes.newline ∧ b ≠ 13 := by
  unfold Guard.escapeByte
  split
  · next h => exact .inl ⟨92, rfl, by decide, by rw [h]; rfl⟩
  · next hbackslash =>
    split
    · next h => exact .inl ⟨34, rfl, by decide, by rw [h]; rfl⟩
    · next hquote =>
      split
      · next h => exact .inl ⟨110, rfl, by decide, by rw [h]; rfl⟩
      · next hfeed =>
        split
        · next h => exact .inl ⟨114, rfl, by decide, by rw [h]; rfl⟩
        · next hreturn => exact .inr ⟨rfl, hbackslash, hquote, hfeed, hreturn⟩

/-- A byte as it is written in a guard is one piece, which stands for that byte. -/
theorem piece?_escapeByte (b : UInt8) (rest : Bytes) :
    ∃ first others, Guard.escapeByte b ++ rest = first :: others ∧ first ≠ quote ∧
      piece? (first :: others) = some (ofByte b, rest) := by
  rcases escapeByte_cases b with ⟨letter, hescape, -, hlookup⟩ | ⟨hself, hplain, hquote, hfeed, -⟩
  · refine ⟨backslash, letter :: rest, by rw [hescape]; rfl, by decide, ?_⟩
    rw [piece?, if_pos rfl, escape?, hlookup, ofByte, hescape]
  · refine ⟨b, rest, by rw [hself]; rfl, hquote, ?_⟩
    rw [piece?, if_neg hplain, if_neg (not_or.2 ⟨hquote, hfeed⟩), ofByte, hself]

/-- Escaped text is read as one piece for each byte, up to the quote behind it. -/
theorem scan_escape (text behind : Bytes) :
    scan (Guard.escape text ++ quote :: behind) = some (text.map ofByte, behind) := by
  induction text with
  | nil => exact scan_quote behind
  | cons b text ih =>
    obtain ⟨first, others, happend, hfirst, hpiece⟩ :=
      piece?_escapeByte b (Guard.escape text ++ quote :: behind)
    have hsplit : Guard.escape (b :: text) ++ quote :: behind = first :: others := by
      rw [← happend, Guard.escape, List.flatMap_cons, List.append_assoc]
      rfl
    rw [hsplit, scan_piece hfirst hpiece, ih]
    rfl

theorem flatMap_written_ofByte (text : Bytes) :
    (text.map ofByte).flatMap Piece.written = Guard.escape text := by
  rw [List.flatMap_map]
  rfl

theorem flatMap_value_ofByte (text : Bytes) : (text.map ofByte).flatMap Piece.value = text := by
  rw [List.flatMap_map]
  exact List.flatMap_singleton' text

/-- A backslash in a guard starts one of four escapes. -/
theorem mem_guardEscapes {b : UInt8} (h : backslash ∈ (ofByte b).written) :
    (ofByte b).written ∈ guardEscapes := by
  rw [ofByte] at h ⊢
  rcases escapeByte_cases b with ⟨letter, hescape, hmem, -⟩ | ⟨hself, hplain, -⟩
  · rw [hescape]
    exact hmem
  · rw [hself, List.mem_singleton] at h
    exact absurd h.symm hplain

end Literal

/-! ## Guards -/

namespace Guard

open Bytes (newline)
open Literal (quote backslash)

/-- The carriage return, which may stand in front of a line feed. -/
def carriageReturn : UInt8 := 13

/-- The message of the guard for a call. -/
def message (callText : Bytes) : Bytes :=
  Bytes.ofString messageStart ++ Bytes.ofString ": " ++ callText

/-- A guard is its indent and a call whose argument is the message as a literal. -/
theorem line_eq (indent callText : Bytes) :
    line indent callText = indent ++ (Bytes.ofString (call ++ "(") ++
      quote :: (escape (message callText) ++ quote :: Bytes.ofString ")")) := by
  have hstart : Bytes.ofString (marker ++ " ") = Bytes.ofString (call ++ "(") ++
      quote :: escape (Bytes.ofString messageStart ++ Bytes.ofString ": ") := by decide
  have hmessage : escape (message callText) =
      escape (Bytes.ofString messageStart ++ Bytes.ofString ": ") ++ escape callText := by
    rw [message, escape, List.flatMap_append, ← escape, ← escape]
  have hend : Bytes.ofString "\")" = quote :: Bytes.ofString ")" := by decide
  rw [line, hstart, hmessage, hend]
  simp only [List.append_assoc, List.cons_append]

/-- No line break is left in escaped text. -/
theorem not_mem_escape {b : UInt8} (h : b = newline ∨ b = carriageReturn) (text : Bytes) :
    b ∉ escape text := by
  rw [escape, List.mem_flatMap]
  rintro ⟨a, -, hmem⟩
  rcases Literal.escapeByte_cases a with ⟨letter, hescape, hfour, -⟩ | ⟨hself, -, -, hfeed, hreturn⟩
  · have hnone : ∀ e ∈ Literal.guardEscapes, newline ∉ e ∧ carriageReturn ∉ e := by decide
    rw [hescape] at hmem
    rcases h with rfl | rfl
    · exact (hnone _ hfour).1 hmem
    · exact (hnone _ hfour).2 hmem
  · rw [hself, List.mem_singleton] at hmem
    rcases h with rfl | rfl
    · exact hfeed hmem.symm
    · exact hreturn hmem.symm

theorem not_mem_line {b : UInt8} (h : b = newline ∨ b = carriageReturn) {indent : Bytes}
    (hindent : ∀ b ∈ indent, Bytes.isIndent b = true) (callText : Bytes) :
    b ∉ line indent callText := by
  have hfront : b ∉ indent := by
    intro hmem
    have his := hindent b hmem
    rcases h with rfl | rfl <;> cases his
  have hfixed : b ∉ Bytes.ofString (marker ++ " ") ∧ b ∉ Bytes.ofString "\")" := by
    rcases h with rfl | rfl <;> decide
  simp only [line, List.mem_append, not_or]
  exact ⟨⟨⟨hfront, hfixed.1⟩, not_mem_escape h callText⟩, hfixed.2⟩

/-- Text without anything to escape is written as it is. -/
theorem escape_eq_self {text : Bytes}
    (h : ∀ b ∈ text, b ≠ backslash ∧ b ≠ quote ∧ b ≠ newline ∧ b ≠ carriageReturn) :
    escape text = text := by
  have hself : ∀ b ∈ text, escapeByte b = [b] := by
    intro b hb
    obtain ⟨hbackslash, hquote, hfeed, hreturn⟩ := h b hb
    exact (if_neg hbackslash).trans ((if_neg hquote).trans ((if_neg hfeed).trans (if_neg hreturn)))
  rw [escape, List.flatMap_congr hself, List.flatMap_singleton']

/-- The literal in a guard, with the bracket behind it. -/
theorem read?_literal (callText : Bytes) :
    Literal.read? (quote :: (escape (message callText) ++ quote :: Bytes.ofString ")")) =
      some ((message callText).map Literal.ofByte, Bytes.ofString ")") := by
  rw [Literal.read?, if_pos rfl, Literal.scan_escape]

/-- The call of a guard can be read off. -/
theorem eq_of_line_eq {indent indent' callText callText' : Bytes}
    (hindent : ∀ b ∈ indent, Bytes.isIndent b = true)
    (hindent' : ∀ b ∈ indent', Bytes.isIndent b = true)
    (h : line indent' callText' = line indent callText) :
    indent' = indent ∧ callText' = callText := by
  have hsame : indent' = indent := by
    rw [← leadingIndent_line_of_indent hindent' callText', h, leadingIndent_line_of_indent hindent]
  rw [hsame, line_eq, line_eq, List.append_cancel_left_eq, List.append_cancel_left_eq] at h
  have hpieces : (message callText').map Literal.ofByte = (message callText).map Literal.ofByte := by
    have hread := read?_literal callText'
    rw [h, read?_literal, Option.some.injEq, Prod.mk.injEq] at hread
    exact hread.1.symm
  have hmessage : message callText' = message callText := by
    rw [← Literal.flatMap_value_ofByte (message callText'), hpieces, Literal.flatMap_value_ofByte]
  exact ⟨hsame, List.append_cancel_left hmessage⟩

/-- **A guard tells its call**. It is one line that starts with its indent and is recognised as a
    guard. Behind the indent stands a call with one literal: read by the rules of the language it
    ends at the quote in front of the closing bracket, each of its backslashes starts one of four
    escapes, and it stands for the start of the message, a colon and the call. So no two guards are
    the same, and a call in which nothing has to be escaped stands in its guard as it is. -/
theorem line_literal (indent callText : Bytes) (h : ∀ b ∈ indent, Bytes.isIndent b = true) :
    let guard := line indent callText
    newline ∉ guard ∧ carriageReturn ∉ guard ∧ Bytes.leadingIndent guard = indent ∧
      isGuard guard = true ∧
      (∃ pieces : List Literal.Piece,
        let literal := quote :: (pieces.flatMap Literal.Piece.written ++ [quote])
        guard = indent ++ Bytes.ofString "panic(" ++ literal ++ Bytes.ofString ")" ∧
        Literal.read? (literal ++ Bytes.ofString ")") = some (pieces, Bytes.ofString ")") ∧
        (∀ p ∈ pieces, backslash ∈ p.written → p.written ∈ Literal.guardEscapes) ∧
        pieces.flatMap Literal.Piece.value =
          Bytes.ofString messageStart ++ Bytes.ofString ": " ++ callText) ∧
      (∀ indent' callText', (∀ b ∈ indent', Bytes.isIndent b = true) →
        line indent' callText' = guard → indent' = indent ∧ callText' = callText) ∧
      ((∀ b ∈ callText, b ≠ backslash ∧ b ≠ quote ∧ b ≠ newline ∧ b ≠ carriageReturn) →
        callText <:+: guard) := by
  intro guard
  refine ⟨not_mem_line (.inl rfl) h callText, not_mem_line (.inr rfl) h callText,
    leadingIndent_line_of_indent h callText, isGuard_line indent callText,
    ⟨(message callText).map Literal.ofByte, ?_, ?_, ?_, Literal.flatMap_value_ofByte _⟩, ?_, ?_⟩
  · rw [Literal.flatMap_written_ofByte]
    refine (line_eq indent callText).trans ?_
    rw [show call ++ "(" = "panic(" from rfl]
    simp only [List.append_assoc, List.cons_append, List.nil_append]
  · rw [Literal.flatMap_written_ofByte, List.cons_append, List.append_assoc]
    exact read?_literal callText
  · intro p hp hbackslash
    obtain ⟨b, -, rfl⟩ := List.mem_map.1 hp
    exact Literal.mem_guardEscapes hbackslash
  · intro indent' callText' hindent' hsame
    exact eq_of_line_eq h hindent' hsame
  · intro hplain
    refine ⟨indent ++ Bytes.ofString (marker ++ " "), Bytes.ofString "\")", ?_⟩
    show _ = line indent callText
    rw [line, escape_eq_self hplain]

/-- A call with a quote, line breaks, a byte that is no text and a backslash at its end; two calls
    that only differ in their escaping; and a call without anything to escape. -/
theorem line_literal_broken :
    (∃ pieces : List Literal.Piece,
      let callText := Bytes.ofString "f(\"\r\n" ++ [255, 92]
      line [9, 32] callText = [9, 32] ++ Bytes.ofString "panic(" ++
        quote :: (pieces.flatMap Literal.Piece.written ++ [quote]) ++ Bytes.ofString ")" ∧
      pieces.flatMap Literal.Piece.value =
        Bytes.ofString "syscall not supported in wasm: " ++ callText) ∧
      line [] [92] ≠ line [] [92, 92] ∧
      Bytes.ofString "Syscall()" <:+: line [9] (Bytes.ofString "Syscall()") := by
  have hindent : ∀ b ∈ [9, 32], Bytes.isIndent b = true := List.all_eq_true.1 rfl
  have hnothing : ∀ b ∈ [], Bytes.isIndent b = true := List.forall_mem_nil _
  refine ⟨?_, ?_, ?_⟩
  · obtain ⟨-, -, -, -, ⟨pieces, hline, -, -, hvalue⟩, -, -⟩ :=
      line_literal [9, 32] (Bytes.ofString "f(\"\r\n" ++ [255, 92]) hindent
    exact ⟨pieces, hline, hvalue⟩
  · obtain ⟨-, -, -, -, -, hinjective, -⟩ := line_literal [] [92, 92] hnothing
    intro hsame
    exact absurd (hinjective [] [92] hnothing hsame).2 (by decide)
  · obtain ⟨-, -, -, -, -, -, hplain⟩ := line_literal [9] (Bytes.ofString "Syscall()")
      fun b hb => hindent b (List.mem_cons.2 (.inl (List.mem_singleton.1 hb)))
    have hcall : (Bytes.ofString "Syscall()").all (fun b =>
        b != backslash && b != quote && b != newline && b != carriageReturn) = true := by decide
    exact hplain fun b hb => by simpa [and_assoc] using List.all_eq_true.1 hcall b hb

end Guard

end SyscallGuard
