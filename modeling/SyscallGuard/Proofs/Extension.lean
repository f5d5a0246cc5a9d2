import SyscallGuard.Files.Path
import Mathlib.Data.List.Basic

set_option autoImplicit false

/-! # Which paths lead to Go sources

A path is taken apart at its slashes, pieces that name nothing are dropped, the last one that is left
is split at its last dot, and a few names count as having no dot at all. All of this comes down to the
end of one piece: `isGoSource_iff` says that a path leads to a Go source if and only if its last name
is something followed by the extension with its dot. Where that name stands in the path is said by
`EndsIn`, so that the rest follows: nothing in front of the name and nothing behind it matters. -/

namespace SyscallGuard.Path

/-! ## Pieces and names -/

theorem pieces_eq_splitOn (path : Bytes) : pieces path = path.splitOn slash := by
  induction path with
  | nil => rfl
  | cons b rest ih =>
    rw [pieces, List.splitOn_cons_eq_if_modifyHead, ih]
    by_cases hb : b = slash
    · rw [if_pos hb, if_pos (by simp [hb])]
    · rw [if_neg hb, if_neg (by simpa using hb)]
      -- there is always a first piece, which grows by the byte
      cases hrest : rest.splitOn slash with
      | nil => exact absurd hrest (List.splitOn_ne_nil slash rest)
      | cons piece more => rfl

theorem slash_not_mem_of_mem_pieces {path piece : Bytes} (h : piece ∈ pieces path) :
    slash ∉ piece := by
  induction path generalizing piece with
  | nil =>
    rw [pieces, List.mem_singleton] at h
    simp [h]
  | cons b rest ih =>
    rw [pieces] at h
    split at h
    · rcases List.mem_cons.1 h with rfl | h
      · simp
      · exact ih h
    · next hb =>
      cases hrest : pieces rest with
      | nil =>
        rw [pieces_eq_splitOn] at hrest
        exact absurd hrest (List.splitOn_ne_nil slash rest)
      | cons first more =>
        rw [hrest] at h
        rcases List.mem_cons.1 h with rfl | h
        · have hfirst : slash ∉ first := ih (hrest ▸ List.mem_cons_self)
          simp only [List.mem_cons, not_or]
          exact ⟨fun heq => hb heq.symm, hfirst⟩
        · exact ih (hrest ▸ List.mem_cons_of_mem _ h)

/-- Whether a piece names something: it is not empty, and not the directory itself. -/
def isName (piece : Bytes) : Bool := !piece.isEmpty && piece != here

theorem isName_iff {piece : Bytes} : isName piece = true ↔ piece ≠ [] ∧ piece ≠ here := by
  simp [isName]

/-- The names of a path. -/
def names (path : Bytes) : List Bytes := (path.splitOn slash).filter isName

theorem lastName?_eq (path : Bytes) : lastName? path = (names path).getLast? := by
  rw [lastName?, pieces_eq_splitOn]
  rfl

theorem names_append_slash (front back : Bytes) :
    names (front ++ slash :: back) = names front ++ names back := by
  rw [names, List.splitOn_append_cons_self, List.filter_append]
  rfl

theorem names_of_isName {name : Bytes} (hwhole : slash ∉ name) (h : isName name = true) :
    names name = [name] := by
  rw [names, List.splitOn_eq_singleton hwhole, List.filter_cons_of_pos h, List.filter_nil]

/-! ## Extensions -/

/-- A name with an extension falls into a stem, the last dot and the extension. -/
theorem exists_stem_of_extension? {name extension : Bytes} (h : extension? name = some extension) :
    name ≠ above ∧ 46 ∉ extension ∧ ∃ stem, stem ≠ [] ∧ name = stem ++ 46 :: extension := by
  obtain ⟨back, rfl⟩ : ∃ back : Bytes, name = back.reverse := ⟨name.reverse, by simp⟩
  rw [extension?] at h
  simp only [List.reverse_reverse] at h
  split at h
  · cases h
  · next habove =>
    -- the letters up to the dot, and the rest of the name from the dot on
    have hsplit : (back.takeWhile fun b => b != 46) ++ (back.dropWhile fun b => b != 46) = back :=
      List.takeWhile_append_dropWhile
    have hdrop : back.drop (back.takeWhile fun b => b != 46).length =
        back.dropWhile fun b => b != 46 := by
      have hleft : ((back.takeWhile fun b => b != 46) ++ back.dropWhile fun b => b != 46).drop
          (back.takeWhile fun b => b != 46).length = back.dropWhile fun b => b != 46 :=
        List.drop_left
      rwa [hsplit] at hleft
    have hdot := List.head?_dropWhile_not (fun b : UInt8 => b != 46) back
    rw [hdrop] at h
    cases hrest : back.dropWhile fun b => b != 46 with
    | nil => simp [hrest] at h
    | cons dot stem =>
      cases stem with
      | nil => simp [hrest] at h
      | cons last stem =>
        simp only [hrest, Option.some.injEq, List.head?_cons, bne_eq_false_iff_eq] at h hdot
        refine ⟨habove, ?_, (last :: stem).reverse, by simp, ?_⟩
        · intro hmem
          rw [← h, List.mem_reverse] at hmem
          have hno := List.all_eq_true.1 List.all_takeWhile _ hmem
          simp at hno
        · rw [← hsplit, hrest, hdot, List.reverse_append, h, List.reverse_cons,
            List.append_assoc, List.singleton_append]

/-- The scan from the end stops at the last dot. -/
theorem extension?_append {stem extension : Bytes} (hstem : stem ≠ []) (hdots : 46 ∉ extension)
    (habove : stem ++ 46 :: extension ≠ above) :
    extension? (stem ++ 46 :: extension) = some extension := by
  have hback : (stem ++ 46 :: extension).reverse = extension.reverse ++ 46 :: stem.reverse := by
    simp
  have hletters : (extension.reverse ++ 46 :: stem.reverse).takeWhile (fun b => b != 46) =
      extension.reverse := by
    rw [List.takeWhile_append_of_pos, List.takeWhile_cons_of_neg (by simp), List.append_nil]
    intro b hb
    rw [List.mem_reverse] at hb
    exact bne_iff_ne.2 fun heq => hdots (heq ▸ hb)
  obtain ⟨last, others, hlast⟩ : ∃ last others, stem.reverse = last :: others :=
    List.exists_cons_of_ne_nil (by simpa using hstem)
  rw [extension?, if_neg habove]
  simp only [hback, hletters, List.drop_left]
  rw [hlast, List.reverse_reverse]

/-- **What an extension is**: what follows the last dot, if something precedes that dot and the name
    is not that of the directory above. -/
theorem extension?_eq_some_iff (name extension : Bytes) :
    extension? name = some extension ↔
      name ≠ above ∧ 46 ∉ extension ∧ ∃ stem, stem ≠ [] ∧ name = stem ++ 46 :: extension := by
  constructor
  · intro h
    exact exists_stem_of_extension? h
  · rintro ⟨habove, hdots, stem, hstem, rfl⟩
    exact extension?_append hstem hdots habove

/-- The extension of Go sources with its dot. -/
def goSuffix : Bytes := Bytes.ofString ".go"

theorem extension?_eq_go_iff (name : Bytes) :
    extension? name = some (Bytes.ofString goExtension) ↔
      ∃ stem, stem ≠ [] ∧ name = stem ++ goSuffix := by
  rw [extension?_eq_some_iff]
  constructor
  · rintro ⟨-, -, stem, hstem, hname⟩
    exact ⟨stem, hstem, hname⟩
  · rintro ⟨stem, hstem, rfl⟩
    refine ⟨?_, by decide, stem, hstem, rfl⟩
    -- the directory above ends in another byte
    intro heq
    have hlast := congrArg List.getLast? heq
    have hgo : goSuffix.getLast? = some 111 := by decide
    have habove : above.getLast? = some 46 := by decide
    rw [List.getLast?_append, hgo, habove, Option.some_or] at hlast
    exact absurd hlast (by decide)

/-! ## Where the last name stands -/

/-- Whether a name that stands in a path between some bytes is its last one: it is cut off by slashes
    on both sides, and no piece behind it names anything. -/
structure EndsIn (front name back : Bytes) : Prop where
  cut_front : front = [] ∨ front.getLast? = some slash
  whole : slash ∉ name
  proper : name ≠ [] ∧ name ≠ here
  cut_back : back = [] ∨ back.head? = some slash
  idle : ∀ piece ∈ back.splitOn slash, piece = [] ∨ piece = here

variable {front name back path : Bytes}

/-- The names of a path are not changed by what stands behind the last one. -/
theorem EndsIn.names_eq (h : EndsIn front name back) : names (name ++ back) = [name] := by
  have hname : names name = [name] := names_of_isName h.whole (isName_iff.2 h.proper)
  have hidle : names back = [] := by
    refine List.filter_eq_nil_iff.2 fun piece hpiece => ?_
    rw [isName_iff]
    rintro ⟨hne, hhere⟩
    exact (h.idle piece hpiece).elim hne hhere
  rcases h.cut_back with rfl | hslash
  · rw [List.append_nil, hname]
  · obtain ⟨rest, rfl⟩ := List.head?_eq_some_iff.1 hslash
    rw [← List.nil_append (slash :: rest), names_append_slash] at hidle
    rw [names_append_slash, hname, (List.append_eq_nil_iff.1 hidle).2, List.append_nil]

/-- Nothing in front of the last name matters, as long as a slash cuts it off. -/
theorem EndsIn.lastName? (h : EndsIn front name back) {other : Bytes}
    (hother : other = [] ∨ other.getLast? = some slash) :
    lastName? (other ++ (name ++ back)) = some name := by
  rw [lastName?_eq]
  rcases hother with rfl | hslash
  · rw [List.nil_append, h.names_eq]
    rfl
  · obtain ⟨above, rfl⟩ := List.getLast?_eq_some_iff.1 hslash
    rw [List.append_assoc, List.singleton_append, names_append_slash, h.names_eq,
      List.getLast?_concat]

/-- More directories in front of the last name leave it the last. -/
theorem EndsIn.below (h : EndsIn front name back) (part : Bytes) :
    EndsIn (part ++ slash :: front) name back := by
  refine { h with cut_front := .inr ?_ }
  rcases h.cut_front with rfl | hslash
  · exact List.getLast?_concat
  · obtain ⟨above, rfl⟩ := List.getLast?_eq_some_iff.1 hslash
    rw [← List.cons_append, ← List.append_assoc, List.getLast?_concat]

/-- A name is the last if no piece behind it is one. -/
theorem endsIn_of_idle {rest : List Bytes} (hname : slash ∉ name) (his : isName name = true)
    (hne : rest ≠ []) (hrest : ∀ part ∈ rest, slash ∉ part) (hnone : rest.filter isName = []) :
    EndsIn [] name (slash :: [slash].intercalate rest) := by
  refine ⟨.inl rfl, hname, isName_iff.1 his, .inr rfl, ?_⟩
  intro piece hpiece
  rw [← List.nil_append (slash :: _), List.splitOn_append_cons_self,
    List.splitOn_intercalate slash hrest hne] at hpiece
  rcases List.mem_append.1 hpiece with hpiece | hpiece
  · exact .inl (List.mem_singleton.1 hpiece)
  · have hidle := List.filter_eq_nil_iff.1 hnone piece hpiece
    rw [isName_iff, not_and_or, not_not, not_not] at hidle
    exact hidle

/-- The last name among some pieces stands somewhere in the path that they make up. -/
theorem exists_endsIn_of_pieces {parts : List Bytes} (hwhole : ∀ part ∈ parts, slash ∉ part)
    (h : (parts.filter isName).getLast? = some name) :
    ∃ front back, [slash].intercalate parts = front ++ (name ++ back) ∧ EndsIn front name back := by
  induction parts with
  | nil => cases h
  | cons part rest ih =>
    obtain ⟨hpart, hrest⟩ := List.forall_mem_cons.1 hwhole
    cases rest with
    | nil =>
      -- a path without slashes is the name itself
      rw [List.filter_cons] at h
      split at h
      · next his =>
        obtain rfl : part = name := Option.some.inj h
        refine ⟨[], [], by simp, .inl rfl, hpart, isName_iff.1 his, .inl rfl, ?_⟩
        intro piece hpiece
        exact .inl (List.mem_singleton.1 hpiece)
      · cases h
    | cons second others =>
      have hjoin : [slash].intercalate (part :: second :: others) =
          part ++ slash :: [slash].intercalate (second :: others) := by
        rw [List.intercalate_cons_cons, List.append_assoc, List.singleton_append]
      rw [hjoin]
      by_cases hnone : (second :: others).filter isName = []
      · -- all that follows is idle
        rw [List.filter_cons, hnone] at h
        split at h
        · next his =>
          obtain rfl : part = name := Option.some.inj h
          exact ⟨[], _, rfl, endsIn_of_idle hpart his (List.cons_ne_nil _ _) hrest hnone⟩
        · cases h
      · -- the name stands further behind, so there is more in front of it
        have hlast : ((second :: others).filter isName).getLast? = some name := by
          rw [List.filter_cons] at h
          split at h
          · rwa [List.getLast?_cons_of_ne_nil hnone] at h
          · exact h
        obtain ⟨front, back, hsplit, hends⟩ := ih hrest hlast
        exact ⟨part ++ slash :: front, back, by rw [hsplit]; simp, hends.below part⟩

theorem exists_endsIn (h : lastName? path = some name) :
    ∃ front back, path = front ++ (name ++ back) ∧ EndsIn front name back := by
  have hwhole : ∀ part ∈ path.splitOn slash, slash ∉ part := by
    rw [← pieces_eq_splitOn]
    exact fun part hpart => slash_not_mem_of_mem_pieces hpart
  rw [lastName?_eq] at h
  obtain ⟨front, back, hpath, hends⟩ := exists_endsIn_of_pieces hwhole h
  rw [List.intercalate_splitOn] at hpath
  exact ⟨front, back, hpath, hends⟩

/-! ## The main statement -/

/-- Only the last name of a path matters. -/
theorem isGoSource_congr {other : Bytes} (h : lastName? other = lastName? path) :
    isGoSource other = isGoSource path := by
  rw [isGoSource, isGoSource, h]

theorem isGoSource_eq_true_iff (path : Bytes) :
    isGoSource path = true ↔ ∃ name, lastName? path = some name ∧
      ∃ stem, stem ≠ [] ∧ name = stem ++ goSuffix := by
  rw [isGoSource, beq_iff_eq, Option.bind_eq_some_iff]
  simp only [extension?_eq_go_iff]

theorem not_isGoSource {name : Bytes} (hlast : lastName? path = some name)
    (h : ∀ stem, stem ≠ [] → name ≠ stem ++ goSuffix) : isGoSource path = false := by
  rw [← Bool.not_eq_true, isGoSource_eq_true_iff]
  rintro ⟨other, hother, stem, hstem, rfl⟩
  rw [hlast, Option.some.injEq] at hother
  exact h stem hstem hother

/-- **Which paths lead to Go sources**: those whose last name, among the pieces between slashes that
    are neither empty nor the directory itself, is something followed by the extension with its dot.
    A slash at the end changes nothing, nor does the directory itself; and wherever the last name
    stands, it can be cut off in front, or be moved below any other directory. The directory above and
    a file whose whole name is the extension are never Go sources. -/
theorem isGoSource_iff (path : Bytes) :
    (isGoSource path = true ↔ ∃ name, (names path).getLast? = some name ∧
      ∃ stem, stem ≠ [] ∧ name = stem ++ Bytes.ofString ".go") ∧
    isGoSource (path ++ [slash]) = isGoSource path ∧
    isGoSource (path ++ slash :: here) = isGoSource path ∧
    (∀ name, (names path).getLast? = some name →
      ∃ front back, path = front ++ (name ++ back) ∧ EndsIn front name back) ∧
    ∀ front name back, path = front ++ (name ++ back) → EndsIn front name back →
      (names path).getLast? = some name ∧
      isGoSource (name ++ back) = isGoSource path ∧
      (∀ other, other.getLast? = some slash →
        isGoSource (other ++ (name ++ back)) = isGoSource path) ∧
      (name = above ∨ name = Bytes.ofString ".go" → isGoSource path = false) := by
  refine ⟨?_, ?_, ?_, ?_, ?_⟩
  · rw [isGoSource_eq_true_iff, lastName?_eq]
    rfl
  · refine isGoSource_congr ?_
    rw [lastName?_eq, lastName?_eq, names_append_slash, show names [] = [] from rfl,
      List.append_nil]
  · refine isGoSource_congr ?_
    rw [lastName?_eq, lastName?_eq, names_append_slash, show names here = [] from rfl,
      List.append_nil]
  · intro name hname
    rw [← lastName?_eq] at hname
    exact exists_endsIn hname
  · rintro front name back rfl hends
    have hlast : lastName? (front ++ (name ++ back)) = some name := hends.lastName? hends.cut_front
    refine ⟨by rw [← lastName?_eq, hlast], ?_, ?_, ?_⟩
    · refine isGoSource_congr ?_
      rw [hlast]
      exact hends.lastName? (.inl rfl)
    · intro other hother
      refine isGoSource_congr ?_
      rw [hlast]
      exact hends.lastName? (.inr hother)
    · intro hnone
      refine not_isGoSource hlast fun stem hstem heq => ?_
      -- neither of the two names is long enough for a stem
      have hlength := congrArg List.length heq
      have hpos : 0 < stem.length := List.length_pos_of_ne_nil hstem
      have hthree : goSuffix.length = 3 := by decide
      rw [List.length_append, hthree] at hlength
      rcases hnone with rfl | rfl
      · rw [show above.length = 2 by decide] at hlength
        omega
      · rw [show (Bytes.ofString ".go").length = 3 by decide] at hlength
        omega

/-- A name that is no text, with idle pieces behind it, below one directory and below another. -/
theorem isGoSource_iff_idle :
    let name := 0xFF :: Bytes.ofString "..go"
    let back := Bytes.ofString "//./"
    isGoSource (Bytes.ofString "a/" ++ (name ++ back)) = true ∧ isGoSource (name ++ back) = true ∧
      isGoSource (Bytes.ofString "../b.txt/" ++ (name ++ back)) = true ∧
      isGoSource (Bytes.ofString "a.go/../") = false := by
  intro name back
  have hends : EndsIn (Bytes.ofString "a/") name back :=
    ⟨.inr (by decide), by decide, by decide, .inr (by decide), by decide⟩
  obtain ⟨hiff, -, -, -, hmoves⟩ := isGoSource_iff (Bytes.ofString "a/" ++ (name ++ back))
  obtain ⟨hlast, hcut, hmove, -⟩ := hmoves _ _ _ rfl hends
  have hgo := hiff.2 ⟨name, hlast, 0xFF :: Bytes.ofString ".", by decide, by decide⟩
  have habove : EndsIn (Bytes.ofString "a.go/") above [slash] :=
    ⟨.inr (by decide), by decide, by decide, .inr (by decide), by decide⟩
  obtain ⟨-, -, -, -, hnone⟩ := isGoSource_iff (Bytes.ofString "a.go/../")
  obtain ⟨-, -, -, hfalse⟩ := hnone _ _ _ (by decide) habove
  exact ⟨hgo, hcut.trans hgo, (hmove _ (by decide)).trans hgo, hfalse (.inl rfl)⟩

end SyscallGuard.Path
