import DocComment.Proofs.Comment.Pieces
import DocComment.Proofs.Comment.Wrapping

/-! Comments that hold one tag, with nothing behind its title and the body in the lines
below. The title is read up to the first visible character of the body, so the
indentation of the first line is lost; all that comes after it is kept. -/

namespace DocComment.Comment

open Text

/-- No tag begins in the line, and nothing in it looks like the mark of one. -/
structure IsPlainLine (line : String) : Prop where
  noBreak : '\n' ∉ line.toList
  noTag : (trimLeft line.toList).head? ≠ some '@'
  noMark : ¬ tagMark <:+: line.toList

variable {lines : List String}

theorem markTags_shown {line : List Char} (h : '\n' ∉ line) (rest : List Char) :
    markTags false (line ++ '\n' :: rest) = line ++ '\n' :: markTags true rest := by
  induction line with
  | nil => rw [List.nil_append, markTags_cons (by simp)]; rfl
  | cons c line ih =>
    simp only [List.mem_cons, not_or] at h
    have hc : (c == '\n') = false := by simpa using Ne.symm h.1
    rw [List.cons_append, markTags_cons (by simp), hc, Bool.false_and, Bool.or_false, ih h.2,
      List.cons_append]

theorem markTags_line {line : List Char} (h : '\n' ∉ line)
    (hfirst : (trimLeft line).head? ≠ some '@') (rest : List Char) :
    markTags true (line ++ '\n' :: rest) = line ++ '\n' :: markTags true rest := by
  induction line with
  | nil => rw [List.nil_append, markTags_cons (by simp)]; rfl
  | cons c line ih =>
    simp only [List.mem_cons, not_or] at h
    have hc : (c == '\n') = false := by simpa using Ne.symm h.1
    cases hb : isBlank c with
    | true =>
      have htrim : trimLeft (c :: line) = trimLeft line := by simp [trimLeft, hb]
      rw [htrim] at hfirst
      rw [List.cons_append, markTags_cons (by simp [ne_at_of_blank hb]), hc, hb, Bool.and_true,
        Bool.or_true, ih h.2 hfirst, List.cons_append]
    | false =>
      have hat : c ≠ '@' := by simpa [trimLeft, hb] using hfirst
      rw [List.cons_append, markTags_cons (by simp [hat]), hc, hb, Bool.and_false, Bool.or_false,
        markTags_shown h.2, List.cons_append]

theorem lineChars_cons (line : String) (lines : List String) :
    lineChars (line :: lines) = line.toList ++ '\n' :: lineChars lines := by
  simp [lineChars]

theorem markTags_lineChars (h : ∀ line ∈ lines, IsPlainLine line) :
    markTags true (lineChars lines) = lineChars lines := by
  induction lines with
  | nil => rfl
  | cons line lines ih =>
    have hline := h line List.mem_cons_self
    have hrest := ih fun other hother => h other (List.mem_cons_of_mem line hother)
    rw [lineChars_cons, markTags_line hline.noBreak hline.noTag, hrest]

theorem splitMarks_line {line m first : List Char} {more : List (List Char)}
    (h : ¬ tagMark <:+: line) (hm : splitMarks m = first :: more) :
    splitMarks (line ++ '\n' :: m) = (line ++ '\n' :: first) :: more := by
  induction line with
  | nil => exact splitMarks_cons (by simp) hm
  | cons c line ih =>
    have hrest := ih (mt (List.IsInfix.trans · (List.infix_cons (List.infix_refl line))) h)
    refine splitMarks_cons ?_ hrest
    rintro ⟨rfl, hhead⟩
    cases line with
    | nil => simp at hhead
    | cons d line =>
      obtain rfl : d = '@' := by simpa using hhead
      exact h (List.IsPrefix.isInfix ⟨line, rfl⟩)

theorem splitMarks_lineChars (h : ∀ line ∈ lines, ¬ tagMark <:+: line.toList) :
    splitMarks (lineChars lines) = [lineChars lines] := by
  induction lines with
  | nil => rfl
  | cons line lines ih =>
    have hrest := ih fun other hother => h other (List.mem_cons_of_mem line hother)
    rw [lineChars_cons, splitMarks_line (h line List.mem_cons_self) hrest]

/-- A line from its first visible character on. -/
def unindented (line : String) : String := String.ofList (trimLeft line.toList)

section Tag

variable {title first : String} {more : List String}

theorem trimLeft_lineChars (h : trimLeft first.toList ≠ []) :
    trimLeft ('\n' :: lineChars (first :: more)) = lineChars (unindented first :: more) := by
  have hbreak : isBlank '\n' = true := rfl
  have hne : (first.toList.dropWhile isBlank).isEmpty = false := by simpa [trimLeft] using h
  rw [lineChars_cons, lineChars_cons, unindented, String.toList_ofList, trimLeft,
    List.dropWhile_cons_of_pos hbreak, List.dropWhile_append, hne]
  rfl

theorem tag?_lineChars (hne : title ≠ "") (hvisible : ∀ c ∈ title.toList, isBlank c = false)
    (hfirst : trimLeft first.toList ≠ []) :
    tag? (lineChars (title :: first :: more)) =
      some ⟨title, some (String.ofList (lineChars (unindented first :: more)))⟩ := by
  have hword : ∀ c ∈ title.toList, (!isBlank c) = true := fun c hc => by simp [hvisible c hc]
  have hbreak : isBlank '\n' = true := rfl
  have hcut : cutWord (lineChars (title :: first :: more)) =
      (title.toList, lineChars (unindented first :: more)) := by
    rw [lineChars_cons, cutWord, List.takeWhile_append_of_pos hword,
      List.dropWhile_append_of_pos hword, List.takeWhile_cons_of_neg (by simp [hbreak]),
      List.dropWhile_cons_of_neg (by simp [hbreak]), trimLeft_lineChars hfirst, List.append_nil]
  have hbody : lineChars (unindented first :: more) ≠ [] := by simp [lineChars]
  simp [tag?, hcut, hne, hbody]

/-- What is read from such a comment. -/
theorem parse_wrap_tag (hne : title ≠ "") (hvisible : ∀ c ∈ title.toList, isBlank c = false)
    (hmark : ¬ tagMark <:+: title.toList) (hlines : ∀ line ∈ first :: more, IsPlainLine line)
    (hfirst : trimLeft first.toList ≠ []) (codeType : Option String) :
    parse (some (wrap (("@" ++ title) :: first :: more))) codeType =
      [⟨title, some (String.ofList (lineChars (unindented first :: more)))⟩] := by
  have hbreak : '\n' ∉ title.toList := fun hmem => absurd (hvisible _ hmem) (by decide)
  have hall : ∀ line ∈ ("@" ++ title) :: first :: more, '\n' ∉ line.toList := by
    intro line hline
    rcases List.mem_cons.mp hline with rfl | hline
    · simp [hbreak]
    · exact (hlines line hline).noBreak
  have htext : unwrap (some (wrap (("@" ++ title) :: first :: more))) =
      String.ofList ('@' :: lineChars (title :: first :: more)) := by
    rw [unwrap, Option.getD_some, unwrapChars_wrap hall]
    simp [lineChars]
  have hwith : withDescription (String.ofList ('@' :: lineChars (title :: first :: more)))
      codeType = String.ofList ('@' :: lineChars (title :: first :: more)) := by
    rw [withDescription, String.toList_ofList]
    rfl
  have hmarks : markTags true ('@' :: lineChars (title :: first :: more)) =
      '\\' :: '@' :: lineChars (title :: first :: more) := by
    obtain ⟨c, word, hword⟩ := List.exists_cons_of_ne_nil (mt String.toList_eq_nil_iff.mp hne)
    have hc : isBlank c = false := hvisible c (by rw [hword]; exact List.mem_cons_self)
    have hstart : lineChars (title :: first :: more) =
        c :: (word ++ '\n' :: lineChars (first :: more)) := by
      rw [lineChars_cons, hword, List.cons_append]
    rw [hstart, markTags_opening hc, ← hstart, lineChars_cons, markTags_shown hbreak,
      markTags_lineChars hlines]
  have hsplit : splitMarks (lineChars (title :: first :: more)) =
      [lineChars (title :: first :: more)] := by
    apply splitMarks_lineChars
    intro line hline
    rcases List.mem_cons.mp hline with rfl | hline
    · exact hmark
    · exact (hlines line hline).noMark
  have hempty : tag? [] = none := rfl
  rw [parse, htext, hwith, tags, String.toList_ofList, hmarks, splitMarks, hsplit,
    List.filterMap_cons, hempty, List.filterMap_cons, tag?_lineChars hne hvisible hfirst,
    List.filterMap_nil]

end Tag

end DocComment.Comment
