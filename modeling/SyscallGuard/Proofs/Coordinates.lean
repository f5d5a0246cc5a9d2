import SyscallGuard.Proofs.Rerun
import SyscallGuard.Proofs.Syntax

set_option autoImplicit false

/-! # Sites and lines

The parser counts lines and columns while it walks over the source, and the injector cuts the source
at its line feeds. The two agree (`Lines.exists_line?`): in front of an offset stand the lines before
its own, and of its own line as many bytes as its column says. Statements begin with a byte that ends
no line, so every site of a valid source is found on the line it names, at its column, and none is
lost when guards are inserted (`Parsed.sites_located`). -/

namespace SyscallGuard

open Bytes (isSpace newline)

/-! ## Lines and columns -/

namespace Lines

/-- Cutting two texts that follow each other: the last line of one is continued by the first of the
    other. -/
theorem splitBytes_append (a b : Bytes) :
    splitBytes (a ++ b) = (splitBytes a).dropLast ++
      (lastLine a ++ (splitBytes b).head (splitBytes_ne_nil b)) :: (splitBytes b).tail := by
  induction a using List.reverseRecOn generalizing b with
  | nil =>
    have hone : (splitBytes []).dropLast = [] := rfl
    have hnone : lastLine [] = [] := rfl
    rw [hone, hnone, List.nil_append, List.nil_append, List.nil_append, List.cons_head_tail]
  | append_singleton a c ih =>
    rw [List.append_assoc, List.singleton_append, ih (c :: b), ih [c]]
    by_cases hc : c = newline
    · simp [splitBytes, hc, lastLine_concat_newline]
    · have hmem : newline ∉ [c] := fun h => hc (List.mem_singleton.1 h).symm
      obtain ⟨first, rest, hb⟩ := List.exists_cons_of_ne_nil (splitBytes_ne_nil b)
      rw [lastLine_append hmem]
      simp [splitBytes, hc, hb]

theorem dropLast_splitBytes (a : Bytes) : (splitBytes a).dropLast ++ [lastLine a] = splitBytes a := by
  have h := splitBytes_append a []
  simpa [splitBytes] using h.symm

/-- **Lines and columns agree**: the line of an offset is one of the lines, the text in front of the
    offset is made of the lines before and the first bytes of this one, and the byte at the offset,
    if it does not end the line, stands at the column. -/
theorem exists_line? (source : Bytes) (offset : Nat) :
    ∃ text, (split source).line? (lineOf source offset - 1) = some text ∧
      joinBytes ((splitBytes source).take (lineOf source offset - 1) ++
        [text.take (columnOf source offset - 1)]) = source.take offset ∧
      ∀ b, source[offset]? = some b → b ≠ newline → text[columnOf source offset - 1]? = some b := by
  obtain ⟨before, behind, hbefore, hbehind, hsource⟩ :
      ∃ before behind, before = source.take offset ∧ behind = source.drop offset ∧
        source = before ++ behind := ⟨_, _, rfl, rfl, (List.take_append_drop _ _).symm⟩
  have hsplit := splitBytes_append before behind
  have hlength : (splitBytes before).dropLast.length = lineOf source offset - 1 := by
    have hsize := size_split before
    rw [size, split] at hsize
    rw [List.length_dropLast, hsize, lineOf, hbefore]
  have hcolumn : (lastLine before).length = columnOf source offset - 1 := by
    rw [columnOf, hbefore, Nat.add_sub_cancel_left]
  rw [← hlength, ← hcolumn, ← hbefore]
  refine ⟨lastLine before ++ (splitBytes behind).head (splitBytes_ne_nil behind), ?_, ?_,
    fun b hb hne => ?_⟩
  · rw [line?, split, hsource, hsplit, List.getElem?_append_right (Nat.le_refl _), Nat.sub_self]
    rfl
  · rw [hsource, hsplit, List.take_left, List.take_left, dropLast_splitBytes, joinBytes_splitBytes]
  · rw [← List.head?_drop, ← hbehind] at hb
    obtain ⟨rest, rfl⟩ := List.head?_eq_some_iff.1 hb
    obtain ⟨first, others, hrest⟩ := List.exists_cons_of_ne_nil (splitBytes_ne_nil rest)
    rw [List.getElem?_append_right (Nat.le_refl _), Nat.sub_self]
    simp [splitBytes, hne, hrest]

end Lines

/-- A position that is not too large to be reported. -/
theorem Position.ofOffset_eq {source : Bytes} {offset : Nat}
    (hlines : (Lines.split source).size ≤ limit) (hbytes : source.length < limit) :
    ofOffset source offset = ⟨lineOf source offset, columnOf source offset⟩ := by
  have hline := lineOf_le_size source offset
  have hcolumn : columnOf source offset ≤ limit := by
    have hlast : (lastLine (source.take offset)).length ≤ source.length := by
      rw [lastLine, List.length_reverse]
      have htake :=
        (List.takeWhile_prefix (l := (source.take offset).reverse) (· != newline)).length_le
      rw [List.length_reverse] at htake
      exact Nat.le_trans htake (List.length_take_le' _ _)
    rw [columnOf]
    omega
  refine Position.mk.injEq .. ▸ ⟨?_, ?_⟩
  · rw [← Nat.min_eq_right (Nat.le_trans hline hlines)]
    exact Position.line_ofOffset source offset
  · rw [← Nat.min_eq_right hcolumn]
    exact Position.column_ofOffset source offset

/-- A site in range is not out of bounds. -/
theorem OnePass.ne_outOfBounds_of_mem_outcomes {source : Bytes} {sites : List Site}
    (done : List Site) (h : ∀ s ∈ sites, s.position.line ≤ (Lines.split source).size) :
    ∀ o ∈ outcomes source done sites, o.2 ≠ .outOfBounds := by
  induction sites generalizing done with
  | nil => exact List.forall_mem_nil _
  | cons s rest ih =>
    refine List.forall_mem_cons.2 ⟨?_, ih _ fun t ht => h t (List.mem_cons_of_mem s ht)⟩
    rw [outcome, if_neg (Nat.not_lt.2 (h s List.mem_cons_self))]
    split <;> simp

/-! ## What a site says -/

/-- What a site says about its source: its range lies in the source and begins with the name of the
    primitive, and a statement that it belongs to begins on its line, with the byte at its column. -/
structure Site.Located (source : Bytes) (root : Node) (s : Site) : Prop where
  start_le : s.start ≤ s.stop
  stop_le : s.stop ≤ source.length
  begins : Bytes.ofString s.primitive.name <+: source.slice s.start s.stop
  line_pos : 1 ≤ s.position.line
  statement : ∃ n ∈ root.preorder, s ∈ ofStatement source n ∧ ∃ text b,
    (Lines.split source).line? (s.position.line - 1) = some text ∧
    text[s.position.column - 1]? = some b ∧ source[n.start]? = some b ∧
    Lines.joinBytes ((Lines.splitBytes source).take (s.position.line - 1) ++
      [text.take (s.position.column - 1)]) = source.take n.start

namespace Parsed

variable {source : Bytes} {p : Parsed}

/-- A statement with a site begins with a byte that is no white space. -/
theorem opens_of_mem_ofStatement (h : strict source = .ok p) {n : Node} (hn : n ∈ p.root.preorder)
    {s : Site} (hs : s ∈ Site.ofStatement source n) :
    ∃ b, source[n.start]? = some b ∧ isSpace b = false := by
  obtain ⟨call, hcall, -⟩ := List.mem_filterMap.1 hs
  obtain ⟨q, hkind, hloose⟩ : ∃ q, n.kind = .phrase q ∧ q.isLoose = false := by
    rw [Site.candidates_eq] at hcall
    split at hcall
    · next hkind => exact ⟨_, hkind, rfl⟩
    · split at hcall
      · next hkind =>
        rcases hkind with hkind | hkind
        · exact ⟨_, hkind, rfl⟩
        · exact ⟨_, hkind, rfl⟩
      · cases hcall
  obtain ⟨t, ht⟩ := shows_of_strict h hn (by
    rw [hkind]
    rintro ⟨⟩
    cases hloose)
  exact ht.opens hkind hloose

/-- The range of a call begins with the name that is called. -/
theorem begins_of_calls (h : strict source = .ok p) {call : Node} (hcall : call ∈ p.root.preorder)
    {primitive : Primitive} (hcalls : call.Calls source primitive) :
    call.start ≤ call.stop ∧ call.stop ≤ source.length ∧
      Bytes.ofString primitive.name <+: source.slice call.start call.stop := by
  obtain ⟨hordered, hroot⟩ := root_ordered_of_strict h
  obtain ⟨path, hpath⟩ := Node.mem_preorder_iff.1 hcall
  obtain ⟨-, hstop, hle⟩ := Node.preorder_between hordered call hcall
  have hlength := Nat.le_trans hstop hroot
  obtain ⟨hkind, i, name, hfirst, -, htext⟩ := hcalls
  -- The name is the first child, so it begins where the call does.
  obtain ⟨t, ht⟩ := shows_of_strict h hcall (by rw [hkind]; nofun)
  obtain ⟨f, hhead, hrole, hstart⟩ := ht.callee hkind
  rw [List.head?_eq_getElem?] at hhead
  obtain rfl := hfirst.unique ⟨hhead, hrole, fun j hj => absurd hj (Nat.not_lt_zero j)⟩
  obtain rfl := Option.some.inj (hfirst.1.symm.trans hhead)
  have hname := Node.preorder_subset_of_mem_children (List.mem_of_getElem? hhead)
    name.mem_preorder_self
  obtain ⟨-, hnameStop, hnameLe⟩ := Node.preorder_between (hordered.at? hpath) name hname
  refine ⟨hle, hlength, ?_⟩
  rw [hstart] at hnameLe htext
  rw [← htext, OnePass.slice_append hnameLe hnameStop hlength]
  exact List.prefix_append _ _

theorem located_of_strict (h : strict source = .ok p)
    (hlines : (Lines.split source).size < Position.limit) (hbytes : source.length < Position.limit) :
    ∀ s ∈ p.sites, s.Located source p.root := by
  intro s hs
  rw [sites, source_of_strict h] at hs
  obtain ⟨n, hn, hs⟩ := List.mem_flatMap.1 hs
  obtain ⟨b, hb, hspace⟩ := opens_of_mem_ofStatement h hn hs
  have hne : b ≠ newline := fun heq => by
    rw [heq] at hspace
    cases hspace
  obtain ⟨text, hline, hbefore, hcolumn⟩ := Lines.exists_line? source n.start
  have hposition : Position.ofOffset source n.start =
      ⟨lineOf source n.start, columnOf source n.start⟩ :=
    Position.ofOffset_eq (Nat.le_of_lt hlines) hbytes
  rw [← Site.position_of_mem_ofStatement hs] at hposition
  obtain ⟨call, hcall, hsite⟩ := List.mem_filterMap.1 hs
  obtain ⟨primitive, hcalls, rfl⟩ := Option.map_eq_some_iff.1 hsite
  obtain ⟨path, hpath⟩ := Node.mem_preorder_iff.1 hn
  obtain ⟨below, hbelow⟩ := Node.mem_preorder_iff.1 (Site.mem_preorder_of_mem_candidates hcall)
  have hmem : call ∈ p.root.preorder := Node.mem_preorder_iff.2 ⟨path ++ below, by
    rw [Node.at?_append, hpath]
    exact hbelow⟩
  obtain ⟨hle, hstop, hbegins⟩ := begins_of_calls h hmem (Site.calls?_eq_some_iff.1 hcalls)
  refine ⟨hle, hstop, hbegins, (Position.line_mem source n.start).1, n, hn, hs, text, b, ?_⟩
  simp only at hposition
  rw [hposition]
  exact ⟨hline, hcolumn b hb hne, hb, hbefore⟩

/-- **No site is lost**: every site of a valid source, whose lines and bytes are few enough to be
    counted, lies where it says, and when guards are inserted above the sites, each of them gets one
    or has one already. -/
theorem sites_located (h : strict source = .ok p)
    (hlines : (Lines.split source).size < Position.limit) (hbytes : source.length < Position.limit) :
    (∀ s ∈ p.sites, s.Located source p.root) ∧
    (∀ o ∈ (injectGuards source p.sites).outcomes, o.2 ≠ .outOfBounds) ∧
    (injectGuards source p.sites).insertions + (injectGuards source p.sites).alreadyGuarded =
      p.sites.length := by
  obtain ⟨hrange, horder⟩ := sites_of_strict h
  have hpos : ∀ s ∈ p.sites, 1 ≤ s.position.line := fun s hs => (hrange s hs).1
  refine ⟨located_of_strict h hlines hbytes, ?_, ?_⟩
  · rw [injectGuards_tracks hpos horder]
    exact OnePass.ne_outOfBounds_of_mem_outcomes [] fun s hs => (hrange s hs).2
  · rw [injectGuards_tracks hpos horder, Injected.alreadyGuarded]
    have hcount := OnePass.countP_outcomes source [] p.sites hpos
    have hnone : OnePass.guards source [] (Lines.split source).size = 0 :=
      (Tracks.start source).insertions_eq.symm
    have hall : (p.sites.countP fun s => s.position.line ≤ (Lines.split source).size) =
        p.sites.length := List.countP_eq_length.2 fun s hs => decide_eq_true (hrange s hs).2
    rw [hnone, hall, List.nil_append, Nat.zero_add] at hcount
    exact (Nat.add_comm _ _).trans hcount

/-- A call behind its label. -/
theorem sites_located_labelled : ∃ (source : Bytes) (p : Parsed), strict source = .ok p ∧
    (Lines.split source).size < Position.limit ∧ source.length < Position.limit ∧
    p.sites.length = 1 ∧ (∀ s ∈ p.sites, s.Located source p.root) ∧
    (∀ o ∈ (injectGuards source p.sites).outcomes, o.2 ≠ .outOfBounds) ∧
    (injectGuards source p.sites).insertions + (injectGuards source p.sites).alreadyGuarded = 1 := by
  obtain ⟨p, q, hp, -, hcheck⟩ := exists_of_runs? runs?_labelled
  simp only [Bool.and_eq_true, decide_eq_true_eq] at hcheck
  have hlines : (Lines.split (Bytes.ofString "L:\nSyscall()\n")).size < Position.limit := by decide
  have hbytes : (Bytes.ofString "L:\nSyscall()\n").length < Position.limit := by decide
  obtain ⟨hlocated, hbounds, hcount⟩ := sites_located hp hlines hbytes
  exact ⟨_, p, hp, hlines, hbytes, hcheck.1.1.1, hlocated, hbounds, hcheck.1.1.1 ▸ hcount⟩

end Parsed

end SyscallGuard
