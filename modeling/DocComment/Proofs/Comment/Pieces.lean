import DocComment.Comment.Tags
import Mathlib.Data.List.TakeWhile

/-! Where the text of a comment is cut. Tags are found by marking and splitting;
here the pieces are told by positions in the text as it was before any mark. A
text is cut at every `@` that opens a tag, and also at an `@` after a backslash,
since a backslash and an `@` are what a tag mark looks like. -/

namespace DocComment.Comment

open Text

abbrev isVisible (c : Char) : Bool := !isBlank c

/-- Nothing but white space since the line began. -/
def isIndent (before : List Char) : Bool := (before.reverse.takeWhile (· != '\n')).all isBlank

/-- An `@` that is the first visible character of its line, before a visible one. -/
def opensAt (s : List Char) (p : Nat) : Bool :=
  s[p]? == some '@' && isIndent (s.take p) && s[p + 1]?.any isVisible

def escapedAt (s : List Char) (p : Nat) : Bool :=
  s[p]? == some '@' && (s.take p).getLast? == some '\\'

/-- The positions from `a` on where the text is cut. -/
def cutsFrom (s : List Char) (a : Nat) : List Nat :=
  (List.range' a (s.length - a)).filter fun p => opensAt s p || escapedAt s p

/-- Where the piece before a cut ends; the backslash is part of the cut. -/
def edge (s : List Char) (p : Nat) : Nat := if escapedAt s p then p - 1 else p

def pieceEnd (s : List Char) (a : Nat) : Nat := ((cutsFrom s a).head?.map (edge s)).getD s.length

def piece (s : List Char) (a : Nat) : List Char := (s.take (pieceEnd s a)).drop a

/-- The visible characters at the beginning, as far as no tag mark is among them. -/
def titleOf : List Char → List Char
  | [] => []
  | c :: rest =>
    if isBlank c || tagMark.isPrefixOf (c :: rest) then [] else c :: titleOf rest

variable {s : List Char} {a p : Nat} {c : Char}

@[simp] theorem isBlank_at : isBlank '@' = false := rfl

theorem ne_break_of_visible (h : isBlank c = false) : c ≠ '\n' := by
  rintro rfl
  exact absurd h (by decide)

theorem ne_at_of_blank (h : isBlank c = true) : c ≠ '@' := by
  rintro rfl
  simp at h

theorem isIndent_nil : isIndent [] = true := rfl

theorem isIndent_concat (before : List Char) (c : Char) :
    isIndent (before ++ [c]) = (c == '\n' || (isIndent before && isBlank c)) := by
  by_cases h : c = '\n'
  · simp [isIndent, h]
  · simp [isIndent, h, Bool.and_comm]

theorem take_succ_of_getElem? (h : s[a]? = some c) : s.take (a + 1) = s.take a ++ [c] := by
  rw [List.take_add_one, h, Option.toList_some]

theorem drop_of_getElem? (h : s[a]? = some c) : s.drop a = c :: s.drop (a + 1) := by
  obtain ⟨hlt, rfl⟩ := List.getElem?_eq_some_iff.mp h
  exact List.drop_eq_getElem_cons hlt

theorem isIndent_take_succ (h : s[a]? = some c) :
    isIndent (s.take (a + 1)) = (c == '\n' || (isIndent (s.take a) && isBlank c)) := by
  rw [take_succ_of_getElem? h, isIndent_concat]

theorem escapedAt_succ (h : s[a]? = some c) :
    escapedAt s (a + 1) = (s[a + 1]? == some '@' && c == '\\') := by
  simp [escapedAt, take_succ_of_getElem? h]

theorem escapedAt_zero (s : List Char) : escapedAt s 0 = false := by simp [escapedAt]

theorem opensAt_succ_of_visible (h : s[a]? = some c) (hc : isBlank c = false) :
    opensAt s (a + 1) = false := by
  have hindent : isIndent (s.take (a + 1)) = false := by
    simp [isIndent_take_succ h, ne_break_of_visible hc, hc]
  simp [opensAt, hindent]

theorem getElem?_of_opensAt (h : opensAt s p = true) : s[p]? = some '@' := by
  simp only [opensAt, Bool.and_eq_true, beq_iff_eq] at h
  exact h.1.1

theorem getElem?_of_escapedAt (h : escapedAt s p = true) : s[p]? = some '@' := by
  simp only [escapedAt, Bool.and_eq_true, beq_iff_eq] at h
  exact h.1

/-- No tag opens right after an `@`, and none is escaped there. -/
theorem after_at (h : s[p]? = some '@') : opensAt s (p + 1) = false ∧ escapedAt s (p + 1) = false :=
  ⟨opensAt_succ_of_visible h rfl, by simp [escapedAt_succ h]⟩

/-! The cuts of a text, one position after the other. -/

theorem cutsFrom_of_le (h : s.length ≤ a) : cutsFrom s a = [] := by
  simp [cutsFrom, Nat.sub_eq_zero_of_le h]

theorem cutsFrom_of_lt (h : a < s.length) :
    cutsFrom s a =
      if opensAt s a || escapedAt s a then a :: cutsFrom s (a + 1) else cutsFrom s (a + 1) := by
  have hlen : s.length - a = (s.length - (a + 1)) + 1 := by omega
  rw [cutsFrom, hlen, List.range'_succ, List.filter_cons]
  rfl

theorem le_of_mem_cutsFrom (h : p ∈ cutsFrom s a) : a ≤ p := by
  simp only [cutsFrom, List.mem_filter, List.mem_range'_1] at h
  exact h.1.1

theorem mem_cutsFrom_zero : p ∈ cutsFrom s 0 ↔ opensAt s p = true ∨ escapedAt s p = true := by
  simp only [cutsFrom, List.mem_filter, List.mem_range'_1, Bool.or_eq_true, Nat.zero_le, true_and,
    Nat.sub_zero, Nat.zero_add, and_iff_right_iff_imp]
  rintro (h | h)
  · exact (List.getElem?_eq_some_iff.mp (getElem?_of_opensAt h)).1
  · exact (List.getElem?_eq_some_iff.mp (getElem?_of_escapedAt h)).1

theorem piece_of_le (h : s.length ≤ a) : piece s a = [] := by
  simp [piece, pieceEnd, cutsFrom_of_le h, h]

theorem cutsFrom_of_opensAt (h : opensAt s a = true) :
    cutsFrom s a = a :: cutsFrom s (a + 1) := by
  have hlt : a < s.length := (List.getElem?_eq_some_iff.mp (getElem?_of_opensAt h)).1
  simp [cutsFrom_of_lt hlt, h]

/-- A tag that opens at once leaves nothing before it. -/
theorem piece_of_opensAt (h : opensAt s a = true) (he : escapedAt s a = false) :
    piece s a = [] := by
  simp [piece, pieceEnd, cutsFrom_of_opensAt h, edge, he]

/-- What stands at a position where the text goes on: a tag, an escaped mark in two
characters, or a character of the piece. -/
theorem step_cases (h : s[a]? = some c) (he : escapedAt s a = false) :
    opensAt s a = true ∧ cutsFrom s a = a :: cutsFrom s (a + 1) ∧ piece s a = [] ∨
    c = '\\' ∧ s[a + 1]? = some '@' ∧ cutsFrom s a = (a + 1) :: cutsFrom s (a + 2) ∧
      piece s a = [] ∨
    opensAt s a = false ∧ escapedAt s (a + 1) = false ∧ cutsFrom s a = cutsFrom s (a + 1) ∧
      piece s a = c :: piece s (a + 1) := by
  have hlt : a < s.length := (List.getElem?_eq_some_iff.mp h).1
  by_cases ho : opensAt s a = true
  · exact .inl ⟨ho, cutsFrom_of_opensAt ho, piece_of_opensAt ho he⟩
  have ho : opensAt s a = false := by simpa using ho
  have hskip : cutsFrom s a = cutsFrom s (a + 1) := by simp [cutsFrom_of_lt hlt, ho, he]
  by_cases hmark : c = '\\' ∧ s[a + 1]? = some '@'
  · obtain ⟨rfl, hat⟩ := hmark
    have hescaped : escapedAt s (a + 1) = true := by simp [escapedAt_succ h, hat]
    have hlt' : a + 1 < s.length := (List.getElem?_eq_some_iff.mp hat).1
    have hcuts : cutsFrom s a = (a + 1) :: cutsFrom s (a + 2) := by
      simp [hskip, cutsFrom_of_lt hlt', hescaped]
    exact .inr (.inl ⟨rfl, hat, hcuts, by simp [piece, pieceEnd, hcuts, edge, hescaped]⟩)
  · have he' : escapedAt s (a + 1) = false := by
      rw [escapedAt_succ h, Bool.and_eq_false_imp]
      intro hat
      have hat : s[a + 1]? = some '@' := by simpa using hat
      simpa [hat] using hmark
    have hbound : a + 1 ≤ pieceEnd s (a + 1) := by
      unfold pieceEnd
      cases hp : (cutsFrom s (a + 1)).head? with
      | none => exact hlt
      | some p =>
        have hle := le_of_mem_cutsFrom (List.mem_of_head? hp)
        simp only [Option.map_some, Option.getD_some, edge]
        split
        next hcut =>
          -- an escaped cut stands behind its backslash, so it is not the next character
          have hne : p ≠ a + 1 := by
            rintro rfl
            simp [he'] at hcut
          omega
        next => exact hle
    have hend : pieceEnd s a = pieceEnd s (a + 1) := by simp [pieceEnd, hskip]
    refine .inr (.inr ⟨ho, he', hskip, ?_⟩)
    have hget : (s.take (pieceEnd s (a + 1)))[a]? = some c := by
      rw [List.getElem?_take_of_lt hbound, h]
    rw [piece, hend, drop_of_getElem? hget, piece]

/-! Marking and splitting, one character after the other. -/

theorem markTags_opening {rest : List Char} (hc : isBlank c = false) :
    markTags true ('@' :: c :: rest) = '\\' :: '@' :: markTags false (c :: rest) := by
  have hrest : markTags false (c :: rest) = c :: markTags false rest := by
    rw [markTags.eq_def]
    split
    next h => cases h
    next d tail h =>
      obtain ⟨rfl, rfl⟩ := List.cons.inj h
      simp
    next d tail _ h =>
      obtain ⟨rfl, rfl⟩ := List.cons.inj h
      have hline : (c == '\n') = false := by simpa using ne_break_of_visible hc
      simp [hline]
  rw [markTags, hrest]
  simp [hc, tagMark]

theorem markTags_cons {fresh : Bool} {rest : List Char}
    (h : ¬ (fresh = true ∧ c = '@' ∧ rest.head?.any isVisible = true)) :
    markTags fresh (c :: rest) = c :: markTags (c == '\n' || (fresh && isBlank c)) rest := by
  rw [markTags.eq_def]
  split
  next h' => cases h'
  next d tail h' =>
    obtain ⟨rfl, rfl⟩ := List.cons.inj h'
    have hstay : (fresh && !isBlank d) = false := by
      cases fresh <;> simp_all
    have hat : (('@' : Char) == '\n' || (fresh && isBlank '@')) = false := by simp
    rw [hstay, hat]
    rfl
  next d tail _ h' =>
    obtain ⟨rfl, rfl⟩ := List.cons.inj h'
    rfl

theorem head?_markTags {fresh : Bool} {rest : List Char}
    (h : (markTags fresh rest).head? = some '@') : rest.head? = some '@' := by
  cases rest with
  | nil => simp [markTags] at h
  | cons c rest =>
    by_cases ho : fresh = true ∧ c = '@' ∧ rest.head?.any isVisible = true
    · simp [ho.2.1]
    · simpa [markTags_cons ho] using h

theorem splitMarks_cons {m first : List Char} {more : List (List Char)}
    (h : ¬ (c = '\\' ∧ m.head? = some '@')) (hm : splitMarks m = first :: more) :
    splitMarks (c :: m) = (c :: first) :: more := by
  rw [splitMarks.eq_def]
  split
  next h' => cases h'
  next rest h' =>
    obtain ⟨rfl, rfl⟩ := List.cons.inj h'
    simp at h
  next d rest _ h' =>
    obtain ⟨rfl, rfl⟩ := List.cons.inj h'
    rw [hm]

/-- Marking and splitting the text from a position on gives its pieces. -/
theorem splitMarks_markTags (s : List Char) (a : Nat) (he : escapedAt s a = false) :
    splitMarks (markTags (isIndent (s.take a)) (s.drop a)) =
      piece s a :: (cutsFrom s a).map fun p => piece s (p + 1) := by
  -- the distance to the end decreases by one, or by two at an escaped mark
  induction hn : s.length - a using Nat.strong_induction_on generalizing a with
  | _ n ih =>
  cases hc : s[a]? with
  | none =>
    have hle : s.length ≤ a := List.getElem?_eq_none_iff.mp hc
    rw [List.drop_eq_nil_of_le hle, piece_of_le hle, cutsFrom_of_le hle]
    rfl
  | some c =>
    have hlt : a < s.length := (List.getElem?_eq_some_iff.mp hc).1
    rw [drop_of_getElem? hc]
    rcases step_cases hc he with ⟨ho, hcuts, hpiece⟩ | ⟨rfl, hat, hcuts, hpiece⟩ |
      ⟨ho, he', hcuts, hpiece⟩
    · have hstart := getElem?_of_opensAt ho
      obtain rfl : c = '@' := Option.some.inj (hc.symm.trans hstart)
      have hrest := ih _ (by omega) (a + 1) (after_at hstart).2 rfl
      simp only [opensAt, Bool.and_eq_true, beq_iff_eq, Option.any_eq_true] at ho
      obtain ⟨⟨-, hfresh⟩, d, hd, hvisible⟩ := ho
      have hnext := drop_of_getElem? hd
      have hfalse : isIndent (s.take (a + 1)) = false := by simp [isIndent_take_succ hc]
      rw [hfalse] at hrest
      rw [hfresh, hnext, markTags_opening (by simpa using hvisible), ← hnext, splitMarks, hrest,
        hcuts, hpiece, List.map_cons]
    · have hlt' : a + 1 < s.length := (List.getElem?_eq_some_iff.mp hat).1
      have hrest := ih _ (by omega) (a + 2) (after_at hat).2 rfl
      have hbackslash : isBlank '\\' = false := rfl
      have hfalse : isIndent (s.take (a + 1)) = false := by
        simp [isIndent_take_succ hc, hbackslash]
      have hfalse' : isIndent (s.take (a + 2)) = false := by simp [isIndent_take_succ hat]
      rw [hfalse'] at hrest
      rw [markTags_cons (by simp), drop_of_getElem? hat, hbackslash, Bool.and_false,
        markTags_cons (by simp)]
      simp only [Char.reduceBEq, Bool.or_self, Bool.false_and]
      rw [splitMarks, hrest, hcuts, hpiece, List.map_cons]
    · have hrest := ih _ (by omega) (a + 1) he' rfl
      have hnot : ¬ (isIndent (s.take a) = true ∧ c = '@' ∧
          (s.drop (a + 1)).head?.any isVisible = true) := by
        rintro ⟨hfresh, rfl, hnext⟩
        rw [List.head?_drop] at hnext
        simp [opensAt, hc, hfresh, hnext] at ho
      rw [isIndent_take_succ hc] at hrest
      rw [markTags_cons hnot, hcuts, hpiece]
      refine splitMarks_cons ?_ hrest
      rintro ⟨rfl, hhead⟩
      have hat := head?_markTags hhead
      rw [List.head?_drop] at hat
      simp [escapedAt_succ hc, hat] at he'

theorem isPrefixOf_tagMark_drop (h : s[a]? = some c) :
    tagMark.isPrefixOf (s.drop a) = (c == '\\' && s[a + 1]? == some '@') := by
  rw [drop_of_getElem? h, ← List.head?_drop]
  cases s.drop (a + 1) with
  | nil => simp [tagMark, List.isPrefixOf]
  | cons d rest => simp [tagMark, List.isPrefixOf, BEq.comm (a := c), BEq.comm (a := d)]

/-- The title of a piece that begins with one. -/
theorem takeWhile_piece (s : List Char) (a : Nat) (ho : opensAt s a = false)
    (he : escapedAt s a = false) : (piece s a).takeWhile isVisible = titleOf (s.drop a) := by
  induction hn : s.length - a using Nat.strong_induction_on generalizing a with
  | _ n ih =>
  cases hc : s[a]? with
  | none =>
    have hle : s.length ≤ a := List.getElem?_eq_none_iff.mp hc
    rw [piece_of_le hle, List.drop_eq_nil_of_le hle]
    rfl
  | some c =>
    have hlt : a < s.length := (List.getElem?_eq_some_iff.mp hc).1
    have hmark := isPrefixOf_tagMark_drop hc
    rw [drop_of_getElem? hc] at hmark ⊢
    rcases step_cases hc he with ⟨ho', -⟩ | ⟨rfl, hat, -, hpiece⟩ | ⟨-, he', -, hpiece⟩
    · simp [ho] at ho'
    · simp [hpiece, titleOf, hmark, hat]
    · rw [Bool.and_comm, ← escapedAt_succ hc, he'] at hmark
      cases hb : isBlank c with
      | true => simp [hpiece, titleOf, hb]
      | false =>
        have hrest := ih _ (by omega) (a + 1) (opensAt_succ_of_visible hc hb) he' rfl
        simp [hpiece, titleOf, hb, hmark, hrest]

theorem titleOf_prefix (rest : List Char) : titleOf rest <+: rest := by
  induction rest with
  | nil => exact List.nil_prefix
  | cons c rest ih =>
    rw [titleOf]
    split
    · exact List.nil_prefix
    · exact List.cons_prefix_cons.mpr ⟨rfl, ih⟩

end DocComment.Comment
