import DocComment.Proofs.Text.Pieces
import DocComment.Text.Blank
import DocComment.Text.Indent
import Mathlib.Data.List.TakeWhile

/-! Taking the common indentation off a text that is given by its lines. Nothing is
taken off when the first line has none, so lines that lose the indentation of the
first one beforehand keep all of theirs. -/

namespace DocComment.Text

section Blank

variable {c : Char} {s : List Char}

theorem isIndent_iff : isIndent c = true ↔ c = ' ' ∨ c = '\t' := by simp [isIndent]

theorem not_isIndent_of_visible (h : isBlank c = false) : isIndent c = false := by
  cases hi : isIndent c with
  | false => rfl
  | true =>
    rcases isIndent_iff.mp hi with rfl | rfl <;> simp [isBlank] at h

theorem exists_visible (h : trimLeft s ≠ []) :
    ∃ c rest, trimLeft s = c :: rest ∧ isBlank c = false := by
  obtain ⟨c, rest, hs⟩ := List.exists_cons_of_ne_nil h
  have hfirst := List.head?_dropWhile_not isBlank s
  rw [← trimLeft, hs] at hfirst
  exact ⟨c, rest, hs, hfirst⟩

end Blank

section Dedent

/-- A line of nothing but indentation counts as empty. -/
def cleared (row : List Char) : List Char := if row.all isIndent then [] else row

/-- How much indentation the lines have in common. -/
def commonWidth (rows : List (List Char)) : Nat := ((margin (rows.map cleared)).getD []).length

theorem notMem_drop_cleared {row : List Char} (h : '\n' ∉ row) (n : Nat) :
    '\n' ∉ (cleared row).drop n := by
  intro hmem
  have hclear := List.mem_of_mem_drop hmem
  unfold cleared at hclear
  split at hclear
  · simp at hclear
  · exact h hclear

/-- The lines as they are left. -/
def dedented (rows : List (List Char)) : List (List Char) :=
  rows.map fun row => (cleared row).drop (commonWidth rows)

theorem dedent_joinWith {rows : List (List Char)} (hne : rows ≠ []) (h : ∀ row ∈ rows, '\n' ∉ row) :
    dedent (joinWith ['\n'] rows) = joinWith ['\n'] (dedented rows) := by
  rw [dedent, lines_joinWith hne h]
  exact congrArg (joinWith ['\n']) List.map_map

theorem dedent_joinWith_inj {rows others : List (List Char)} (hne : rows ≠ []) (hne' : others ≠ [])
    (h : ∀ row ∈ rows, '\n' ∉ row) (h' : ∀ row ∈ others, '\n' ∉ row) :
    dedent (joinWith ['\n'] rows) = dedent (joinWith ['\n'] others) ↔
      dedented rows = dedented others := by
  have hfree : ∀ rows : List (List Char), (∀ row ∈ rows, '\n' ∉ row) →
      ∀ row ∈ dedented rows, '\n' ∉ row := by
    intro rows hrows row hrow
    obtain ⟨other, hother, rfl⟩ := List.mem_map.mp hrow
    exact notMem_drop_cleared (hrows other hother) _
  rw [dedent_joinWith hne h, dedent_joinWith hne' h']
  exact joinWith_inj (by simpa [dedented] using hne) (by simpa [dedented] using hne')
    (hfree rows h) (hfree others h')

/-- A line that is neither empty nor indented. -/
structure IsFlush (row : List Char) : Prop where
  ne_nil : row ≠ []
  first : row.head?.any isIndent = false

section

variable {indent row : List Char} {more : List (List Char)}

theorem IsFlush.cleared_append (h : IsFlush row) (indent : List Char) :
    cleared (indent ++ row) = indent ++ row := by
  obtain ⟨c, rest, rfl⟩ := List.exists_cons_of_ne_nil h.ne_nil
  have hc : isIndent c = false := by simpa using h.first
  simp [cleared, hc]

theorem IsFlush.takeWhile_append (h : IsFlush row) (indent : List Char)
    (hindent : ∀ c ∈ indent, isIndent c = true) :
    (indent ++ row).takeWhile isIndent = indent := by
  obtain ⟨c, rest, rfl⟩ := List.exists_cons_of_ne_nil h.ne_nil
  have hc : isIndent c = false := by simpa using h.first
  rw [List.takeWhile_append_of_pos hindent]
  simp [hc]

theorem commonWidth_flush (h : IsFlush row) (more : List (List Char)) :
    commonWidth (row :: more) = 0 := by
  have hclear : cleared row = row := h.cleared_append []
  have hown : row.takeWhile isIndent = [] := h.takeWhile_append [] (by simp)
  rw [commonWidth, List.map_cons, hclear, margin, if_neg (by simp [h.ne_nil]), hown]
  cases margin (more.map cleared) <;> rfl

theorem commonWidth_single (h : IsFlush row) (hindent : ∀ c ∈ indent, isIndent c = true) :
    commonWidth [indent ++ row] = indent.length := by
  have hmargin : margin [indent ++ row] = some indent := by
    rw [margin, if_neg (by simp [h.ne_nil]), h.takeWhile_append indent hindent]
    rfl
  rw [commonWidth, List.map_singleton, h.cleared_append, hmargin]
  rfl

theorem dedented_flush (h : IsFlush row) (more : List (List Char)) :
    dedented (row :: more) = row :: more.map cleared := by
  have hclear : cleared row = row := h.cleared_append []
  simp [dedented, commonWidth_flush h, hclear]

/-- A line that is not blank shows how much was taken off. -/
theorem commonWidth_eq_zero {rows : List (List Char)} {line : List Char}
    (h : line.all isIndent = false)
    (hkept : cleared line = (cleared line).drop (commonWidth rows)) : commonWidth rows = 0 := by
  have hkeep : cleared line = line := by simp [cleared, h]
  have hpos : 0 < line.length := by
    apply List.length_pos_iff.mpr
    rintro rfl
    simp at h
  have hlen := congrArg List.length hkept
  rw [hkeep, List.length_drop] at hlen
  omega

/-- Losing the indentation of the first line beforehand makes no difference only to a
single line, or when there is none. -/
theorem dedent_unindented_iff (h : IsFlush row) (hindent : ∀ c ∈ indent, isIndent c = true)
    (hbreak : ∀ line ∈ (indent ++ row) :: more, '\n' ∉ line)
    (hlast : ∀ line ∈ more.getLast?, line.all isIndent = false) :
    dedent (joinWith ['\n'] (row :: more)) = dedent (joinWith ['\n'] ((indent ++ row) :: more)) ↔
      more = [] ∨ indent = [] := by
  have hrow : ∀ line ∈ row :: more, '\n' ∉ line := by
    intro line hline
    rcases List.mem_cons.mp hline with rfl | hline
    · exact fun hmem => hbreak _ List.mem_cons_self (List.mem_append_right indent hmem)
    · exact hbreak line (List.mem_cons_of_mem _ hline)
  rw [dedent_joinWith_inj (by simp) (by simp) hrow hbreak, dedented_flush h]
  constructor
  · intro heq
    simp only [dedented, List.map_cons, h.cleared_append, List.cons.injEq] at heq
    obtain ⟨hfirst, hmore⟩ := heq
    rcases List.eq_nil_or_concat more with hnil | ⟨front, last, rfl⟩
    · exact .inl hnil
    · rw [List.concat_eq_append] at hmore hlast hfirst
      have hends := congrArg List.getLast? hmore
      have hzero := commonWidth_eq_zero (hlast last (by simp)) (by simpa using hends)
      have hlen := congrArg List.length hfirst
      rw [hzero, List.drop_zero, List.length_append] at hlen
      exact .inr (List.length_eq_zero_iff.mp (by omega))
  · rintro (rfl | rfl)
    · simp [dedented, commonWidth_single h hindent, h.cleared_append]
    · exact (dedented_flush h more).symm

end

end Dedent

section DropEnd

variable {p : Char → Bool} {s t : List Char} {c : Char}

theorem mem_of_mem_dropEnd (h : c ∈ dropEnd p s) : c ∈ s := by
  rw [dropEnd, List.mem_reverse] at h
  exact List.mem_reverse.mp ((List.dropWhile_suffix p).subset h)

theorem mem_dropEnd (h : c ∈ s) (hc : p c = false) : c ∈ dropEnd p s := by
  have hsplit : c ∈ s.reverse.takeWhile p ++ s.reverse.dropWhile p := by
    rw [List.takeWhile_append_dropWhile]
    exact List.mem_reverse.mpr h
  rcases List.mem_append.mp hsplit with hbefore | hafter
  · have hp := List.mem_takeWhile_imp hbefore
    simp [hc] at hp
  · exact List.mem_reverse.mpr hafter

theorem dropEnd_append_of_ne_nil (h : dropEnd p t ≠ []) :
    dropEnd p (s ++ t) = s ++ dropEnd p t := by
  have hne : t.reverse.dropWhile p ≠ [] := by simpa [dropEnd] using h
  simp [dropEnd, List.dropWhile_append, hne]

theorem dropEnd_concat (h : p c = true) (s : List Char) : dropEnd p (s ++ [c]) = dropEnd p s := by
  simp [dropEnd, h]

theorem dropEnd_dropWhile_concat (h : p c = true) (s : List Char) :
    dropEnd p ((s ++ [c]).dropWhile p) = dropEnd p (s.dropWhile p) := by
  rw [List.dropWhile_append]
  split
  next hs => rw [List.dropWhile_cons_of_pos h, List.dropWhile_nil, List.isEmpty_iff.mp hs]
  next => exact dropEnd_concat h _

theorem dropEnd_cons (h : p c = false) (s : List Char) : dropEnd p (c :: s) = c :: dropEnd p s := by
  simp only [dropEnd, List.reverse_cons, List.dropWhile_append]
  split
  next hs => simp [h, List.isEmpty_iff.mp hs]
  next => simp

theorem dropEnd_joinWith {sep last : List Char} (h : dropEnd p last ≠ [])
    (rows : List (List Char)) :
    dropEnd p (joinWith sep (rows ++ [last])) = joinWith sep (rows ++ [dropEnd p last]) := by
  rw [joinWith_concat, dropEnd_append_of_ne_nil h, joinWith_concat]

end DropEnd

end DocComment.Text
