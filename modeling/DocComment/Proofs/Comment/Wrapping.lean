import DocComment.Proofs.Comment.SingleTag

/-! Comments laid out in the usual way, with a line for either delimiter and a star
before every line of text. Their text is the lines again, whatever these hold: a
margin is only looked for where a line begins, and the end mark only at the very
end, so nothing inside a line is taken for either. -/

namespace DocComment.Comment

/-- The comment with a starred line for each of the lines. -/
def wrap (lines : List String) : String :=
  "/**\n" ++ String.join (lines.map fun line => " * " ++ line ++ "\n") ++ " */"

/-- The characters of the lines, each with its line break. -/
def lineChars (lines : List String) : List Char := lines.flatMap fun line => line.toList ++ ['\n']

/-- The characters of the lines with a star before each. -/
def starredChars (lines : List String) : List Char :=
  lines.flatMap fun line => ' ' :: '*' :: ' ' :: (line.toList ++ ['\n'])

theorem dropMargins_blank {c : Char} (h : Text.isBlank c = true) (blanks rest : List Char) :
    dropMargins (some blanks) (c :: rest) = dropMargins (some (c :: blanks)) rest := by
  have hstar : c ≠ '*' := by
    rintro rfl
    simp [Text.isBlank] at h
  have hslash : c ≠ '\\' := by
    rintro rfl
    simp [Text.isBlank] at h
  rw [dropMargins.eq_def]
  dsimp only
  split
  next => exact absurd rfl hstar
  next => exact absurd rfl hstar
  next => exact absurd rfl hslash
  next => rw [if_pos h]

theorem dropMargins_star (blanks rest : List Char) :
    dropMargins (some blanks) (' ' :: '*' :: ' ' :: rest) = dropMargins none rest := by
  rw [dropMargins_blank rfl, dropMargins.eq_def]
  rfl

theorem dropMargins_endMark (blanks : List Char) :
    dropMargins (some blanks) (' ' :: endMark) = [] := by
  rw [dropMargins_blank rfl, endMark, dropMargins.eq_def]
  rfl

/-- Behind the margin a line stays as it is, and the next one begins after its break. -/
theorem dropMargins_append {line : List Char} (h : '\n' ∉ line) (rest : List Char) :
    dropMargins none (line ++ '\n' :: rest) = line ++ '\n' :: dropMargins (some []) rest := by
  induction line with
  | nil => exact dropMargins_none_cons '\n' rest
  | cons c line ih =>
    simp only [List.mem_cons, not_or] at h
    rw [List.cons_append, dropMargins_none_cons, if_neg (Ne.symm h.1), ih h.2, List.cons_append]

/-- White space that is held when the first star comes goes with the margin. -/
theorem dropMargins_starredChars {lines : List String} (h : ∀ line ∈ lines, '\n' ∉ line.toList)
    (blanks : List Char) :
    dropMargins (some blanks) (starredChars lines ++ ' ' :: endMark) = lineChars lines := by
  induction lines generalizing blanks with
  | nil => exact dropMargins_endMark blanks
  | cons line lines ih =>
    have hline : '\n' ∉ line.toList := h line List.mem_cons_self
    have hlines := ih (fun other hother => h other (List.mem_cons_of_mem line hother)) []
    have hfirst : starredChars (line :: lines) ++ ' ' :: endMark =
        ' ' :: '*' :: ' ' :: (line.toList ++ '\n' :: (starredChars lines ++ ' ' :: endMark)) := by
      simp [starredChars]
    rw [hfirst, dropMargins_star, dropMargins_append hline, hlines]
    simp [lineChars]

theorem markClosing_append (s : List Char) :
    markClosing (s ++ [' ', '*', '/']) = s ++ ' ' :: endMark := by
  simp [markClosing]

/-- The end mark is gone with the margin of the last line, and a line break ends the text. -/
theorem dropEndMark_lineChars (lines : List String) :
    dropEndMark (lineChars lines) = lineChars lines := by
  rcases List.eq_nil_or_concat lines with rfl | ⟨front, last, rfl⟩
  · rfl
  · simp [lineChars, dropEndMark]

theorem unwrapChars_wrap {lines : List String} (h : ∀ line ∈ lines, '\n' ∉ line.toList) :
    unwrapChars (wrap lines).toList = lineChars lines := by
  have hwrap : (wrap lines).toList =
      '/' :: '*' :: '*' :: (('\n' :: starredChars lines) ++ [' ', '*', '/']) := by
    simp [wrap, starredChars, String.toList_join, List.flatMap_map]
  have hopen :
      dropOpening ('/' :: '*' :: '*' :: (('\n' :: starredChars lines) ++ [' ', '*', '/'])) =
        ('\n' :: starredChars lines) ++ [' ', '*', '/'] := rfl
  rw [unwrapChars, hwrap, hopen, markClosing_append, List.cons_append, dropMargins_blank rfl,
    dropMargins_starredChars h, dropEndMark_lineChars]

/-- Unwrapping undoes wrapping: the text of a comment that has lines behind stars is
those lines, each with its line break. -/
theorem unwrap_wrap (lines : List String) (h : ∀ line ∈ lines, '\n' ∉ line.toList) :
    unwrap (some (wrap lines)) = String.join (lines.map (· ++ "\n")) := by
  have hchars : (String.join (lines.map (· ++ "\n"))).toList = lineChars lines := by
    simp [lineChars, String.toList_join, List.flatMap_map]
  rw [unwrap, Option.getD_some, unwrapChars_wrap h, ← hchars, String.ofList_toList]

/-- Lines that look like margins, delimiters or the end mark, and blank ones. -/
theorem unwrap_wrap_lookalikes :
    let lines := ["* a", " ** /**", "", "\\Z", " \t", "b */", "\\Z \r"]
    (∀ line ∈ lines, '\n' ∉ line.toList) ∧
      unwrap (some (wrap lines)) = "* a\n ** /**\n\n\\Z\n \t\nb */\n\\Z \r\n" := by
  have hlines : ∀ line ∈ ["* a", " ** /**", "", "\\Z", " \t", "b */", "\\Z \r"],
      '\n' ∉ line.toList := by decide
  exact ⟨hlines, unwrap_wrap _ hlines⟩

end DocComment.Comment
