import DocComment.Proofs.Comment.Pieces

/-! The tags of a text, told by the positions of the `@` characters that open them.
Nothing of the text is lost and nothing changes its place, as long as no backslash
stands right before an `@`. -/

namespace DocComment.Comment

open Text

/-- The positions where tags open, in rising order. -/
def openings (s : List Char) : List Nat := (List.range s.length).filter (opensAt s)

/-- The first opening from a position on, or the end of the text. -/
def nextOpening (s : List Char) (a : Nat) : Nat := ((openings s).find? (a ≤ ·)).getD s.length

/-- The tag that is written from one position up to another: the visible characters
are its title, and its body begins with the next visible one. -/
def tagBetween (s : List Char) (a b : Nat) : WrittenTag :=
  let title := (s.drop a).takeWhile isVisible
  let body := ((s.take b).drop (a + title.length)).dropWhile isBlank
  ⟨String.ofList title, if body.isEmpty then none else some (String.ofList body)⟩

variable {s : List Char} {a p : Nat}

theorem cutsFrom_eq_filter (s : List Char) (a : Nat) :
    cutsFrom s a = (cutsFrom s 0).filter (a ≤ ·) := by
  induction a with
  | zero => exact (List.filter_eq_self.mpr (by simp)).symm
  | succ a ih =>
    have hstep : cutsFrom s (a + 1) = (cutsFrom s a).filter (a + 1 ≤ ·) := by
      have hlater : (cutsFrom s (a + 1)).filter (a + 1 ≤ ·) = cutsFrom s (a + 1) := by
        rw [List.filter_eq_self]
        intro p hp
        simpa using le_of_mem_cutsFrom hp
      by_cases hlt : a < s.length
      · rw [cutsFrom_of_lt hlt]
        split
        · rw [List.filter_cons, hlater]
          simp
        · rw [hlater]
      · rw [cutsFrom_of_le (by omega), cutsFrom_of_le (by omega)]
        rfl
    have hfilter : ∀ p, (decide (a + 1 ≤ p) && decide (a ≤ p)) = decide (a + 1 ≤ p) := by
      intro p
      by_cases hp : a + 1 ≤ p
      · have hle : a ≤ p := by omega
        simp [hp, hle]
      · simp [hp]
    rw [hstep, ih, List.filter_filter]
    simp only [hfilter]

section Plain

variable (h : ¬ tagMark <:+: s)

include h

theorem escapedAt_of_plain (p : Nat) : escapedAt s p = false := by
  rw [Bool.eq_false_iff]
  intro he
  have hat := getElem?_of_escapedAt he
  simp only [escapedAt, Bool.and_eq_true, beq_iff_eq] at he
  obtain ⟨front, hfront⟩ := List.getLast?_eq_some_iff.mp he.2
  have hs : s = front ++ tagMark ++ s.drop (p + 1) := by
    calc s = s.take p ++ s.drop p := (List.take_append_drop p s).symm
      _ = (front ++ ['\\']) ++ '@' :: s.drop (p + 1) := by rw [hfront, drop_of_getElem? hat]
      _ = front ++ tagMark ++ s.drop (p + 1) := by simp [tagMark]
  exact h ⟨front, s.drop (p + 1), hs.symm⟩

theorem cutsFrom_zero_of_plain : cutsFrom s 0 = openings s := by
  simp [cutsFrom, openings, escapedAt_of_plain h, List.range_eq_range']

theorem pieceEnd_of_plain (a : Nat) : pieceEnd s a = nextOpening s a := by
  have hedge : edge s = id := by
    funext p
    simp [edge, escapedAt_of_plain h]
  rw [pieceEnd, cutsFrom_eq_filter, cutsFrom_zero_of_plain h, List.head?_filter, hedge,
    Option.map_id, nextOpening]
  rfl

theorem titleOf_of_plain : titleOf s = s.takeWhile isVisible := by
  induction s with
  | nil => rfl
  | cons c rest ih =>
    have hrest : ¬ tagMark <:+: rest := fun hi => h (hi.trans (List.suffix_cons c rest).isInfix)
    have hmark : tagMark.isPrefixOf (c :: rest) = false := by
      rw [Bool.eq_false_iff]
      exact fun hp => h (List.isPrefixOf_iff_prefix.mp hp).isInfix
    rw [titleOf, hmark, Bool.or_false, ih hrest]
    cases hc : isBlank c <;> simp [hc]

/-- What is read from the piece at a position where no tag opens. -/
theorem tag?_piece (ho : opensAt s a = false) :
    tag? (piece s a) =
      if (piece s a).head?.any isVisible then some (tagBetween s a (nextOpening s a))
      else none := by
  have hdrop : ¬ tagMark <:+: s.drop a := fun hi => h (hi.trans (List.drop_suffix a s).isInfix)
  have htitle : (piece s a).takeWhile isVisible = (s.drop a).takeWhile isVisible := by
    rw [takeWhile_piece s a ho (escapedAt_of_plain h a), titleOf_of_plain hdrop]
  have hbody : (piece s a).dropWhile isVisible =
      (s.take (nextOpening s a)).drop (a + ((s.drop a).takeWhile isVisible).length) := by
    have hsplit : ((piece s a).takeWhile isVisible ++ (piece s a).dropWhile isVisible).drop
        ((piece s a).takeWhile isVisible).length = (piece s a).dropWhile isVisible :=
      List.drop_left
    rw [List.takeWhile_append_dropWhile, htitle] at hsplit
    rw [← hsplit, piece, pieceEnd_of_plain h, List.drop_drop]
  have hempty : ((piece s a).takeWhile isVisible).isEmpty = !(piece s a).head?.any isVisible := by
    cases piece s a with
    | nil => rfl
    | cons c rest => cases hc : isVisible c <;> simp [hc]
  have hcut : cutWord (piece s a) = ((s.drop a).takeWhile isVisible, trimLeft
      ((s.take (nextOpening s a)).drop (a + ((s.drop a).takeWhile isVisible).length))) := by
    rw [cutWord, htitle, hbody]
  rw [htitle] at hempty
  simp only [tag?, hcut, hempty]
  cases (piece s a).head?.any isVisible <;> rfl

end Plain

theorem head?_piece_of_opening (h : ¬ tagMark <:+: s) (hp : opensAt s p = true) :
    (piece s (p + 1)).head?.any isVisible = true := by
  obtain ⟨ho, he⟩ := after_at (getElem?_of_opensAt hp)
  simp only [opensAt, Bool.and_eq_true, Option.any_eq_true] at hp
  obtain ⟨-, c, hc, hvisible⟩ := hp
  rcases step_cases hc he with ⟨ho', -⟩ | ⟨rfl, hat, -⟩ | ⟨-, -, -, hpiece⟩
  · simp [ho] at ho'
  · have hescaped := escapedAt_of_plain h (p + 1 + 1)
    simp [escapedAt_succ hc, hat] at hescaped
  · simp [hpiece, hvisible]

theorem tag?_lead (h : ¬ tagMark <:+: s) :
    tag? (piece s 0) =
      if (s.take (nextOpening s 0)).head?.any isVisible then some (tagBetween s 0 (nextOpening s 0))
      else none := by
  have hpiece : piece s 0 = s.take (nextOpening s 0) := by
    rw [piece, pieceEnd_of_plain h, List.drop_zero]
  rw [← hpiece]
  by_cases ho : opensAt s 0 = true
  · rw [piece_of_opensAt ho (escapedAt_zero s)]
    rfl
  · exact tag?_piece h (by simpa using ho)

theorem filterMap_openings (h : ¬ tagMark <:+: s) :
    ((openings s).map fun p => piece s (p + 1)).filterMap tag? =
      (openings s).map fun p => tagBetween s (p + 1) (nextOpening s (p + 1)) := by
  have hread : ∀ p ∈ openings s,
      tag? (piece s (p + 1)) = some (tagBetween s (p + 1) (nextOpening s (p + 1))) := by
    intro p hp
    have hopen : opensAt s p = true := (List.mem_filter.mp hp).2
    have htag := tag?_piece h (after_at (getElem?_of_opensAt hopen)).1
    rwa [head?_piece_of_opening h hopen, if_pos rfl] at htag
  generalize openings s = ps at hread
  induction ps with
  | nil => rfl
  | cons p ps ih =>
    have hfirst := hread p List.mem_cons_self
    have hrest := ih fun q hq => hread q (List.mem_cons_of_mem p hq)
    rw [List.map_cons, List.map_cons, List.filterMap_cons, hfirst, hrest]

/-- In a text where no backslash stands before an `@`, there is one tag for every
opening, in the order of the text. It has the visible characters after the `@` as
its title and the rest up to the next opening as its body. The part before the first
opening counts as a tag as well, exactly when it begins with a visible character. -/
theorem tags_eq_openings (text : String) (h : ¬ tagMark <:+: text.toList) :
    let s := text.toList
    let first := nextOpening s 0
    tags text =
      (if (s.take first).head?.any isVisible then [tagBetween s 0 first] else []) ++
        (openings s).map fun p => tagBetween s (p + 1) (nextOpening s (p + 1)) := by
  have hpieces := splitMarks_markTags text.toList 0 (escapedAt_zero _)
  rw [List.take_zero, isIndent_nil, List.drop_zero, cutsFrom_zero_of_plain h] at hpieces
  dsimp only
  rw [tags, hpieces, List.filterMap_cons, tag?_lead h, filterMap_openings h]
  by_cases hfirst :
      (text.toList.take (nextOpening text.toList 0)).head?.any isVisible = true
  · simp only [hfirst, if_true]
    rfl
  · simp only [hfirst]
    rfl

/-- An `@` that is doubled, one inside a line, one before a blank, and lines that are
empty or end in a carriage return. -/
theorem tags_eq_openings_mixed :
    let text := "See a@b.\r\n\n \t@@twice x@y\n@ no\r\n\u3000@last"
    ¬ tagMark <:+: text.toList ∧ openings text.toList = [13, 32] ∧
      tags text = [⟨"See", some "a@b.\r\n\n \t"⟩, ⟨"@twice", some "x@y\n@ no\r\n\u3000"⟩,
        ⟨"last", none⟩] := by
  have hplain : ¬ tagMark <:+: "See a@b.\r\n\n \t@@twice x@y\n@ no\r\n\u3000@last".toList := by
    decide +kernel
  refine ⟨hplain, by decide +kernel, (tags_eq_openings _ hplain).trans ?_⟩
  decide +kernel

end DocComment.Comment
