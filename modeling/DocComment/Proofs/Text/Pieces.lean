import DocComment.Text.Replace
import Mathlib.Data.List.Basic

/-! Texts and their pieces. Pieces without the separator are found again in the text
that joins them, and no piece that is found has the separator in it. -/

namespace DocComment.Text

section Split

variable {p : Char → Bool} {s : List Char}

theorem splitWhere_of_notMem (h : ∀ c ∈ s, p c = false) : splitWhere p s = [s] := by
  induction s with
  | nil => rfl
  | cons c s ih =>
    have hc : p c = false := h c List.mem_cons_self
    have hs := ih fun d hd => h d (List.mem_cons_of_mem c hd)
    simp [splitWhere, hc, hs]

theorem splitWhere_append {sep : Char} (h : ∀ c ∈ s, p c = false) (hsep : p sep = true)
    (rest : List Char) : splitWhere p (s ++ sep :: rest) = s :: splitWhere p rest := by
  induction s with
  | nil => simp [splitWhere, hsep]
  | cons c s ih =>
    have hc : p c = false := h c List.mem_cons_self
    have hs := ih fun d hd => h d (List.mem_cons_of_mem c hd)
    simp [splitWhere, hc, hs]

theorem eq_false_of_mem_splitWhere {piece : List Char} (h : piece ∈ splitWhere p s) :
    ∀ c ∈ piece, p c = false := by
  induction s generalizing piece with
  | nil =>
    obtain rfl : piece = [] := by simpa [splitWhere] using h
    simp
  | cons c s ih =>
    rw [splitWhere] at h
    split at h
    next hc =>
      rcases List.mem_cons.mp h with rfl | h
      · simp
      · exact ih h
    next hc =>
      have hc' : p c = false := by simpa using hc
      split at h
      next hs =>
        obtain rfl : piece = [c] := by simpa using h
        simpa using hc'
      next first more hs =>
        rcases List.mem_cons.mp h with rfl | h
        · have hfirst : ∀ d ∈ first, p d = false := ih (by simp [hs])
          simpa [hc'] using hfirst
        · exact ih (by simp [hs, h])

end Split

section Join

variable {rows others : List (List Char)}

theorem joinWith_cons {sep row : List Char} (hne : rows ≠ []) :
    joinWith sep (row :: rows) = row ++ sep ++ joinWith sep rows := by
  cases rows with
  | nil => exact absurd rfl hne
  | cons next rows => rfl

theorem joinWith_concat (sep last : List Char) (rows : List (List Char)) :
    joinWith sep (rows ++ [last]) = rows.flatMap (· ++ sep) ++ last := by
  induction rows with
  | nil => rfl
  | cons row rows ih =>
    rw [List.cons_append, joinWith_cons (by simp), ih]
    simp

theorem joinWith_eq_intercalate (sep : List Char) (rows : List (List Char)) :
    joinWith sep rows = sep.intercalate rows := by
  induction rows with
  | nil => rfl
  | cons row rows ih =>
    cases rows with
    | nil => simp [joinWith]
    | cons next rows => rw [joinWith_cons (by simp), ih, List.intercalate_cons_cons]

theorem splitWhere_joinWith {sep : Char} (hne : rows ≠ []) (h : ∀ row ∈ rows, sep ∉ row) :
    splitWhere (· == sep) (joinWith [sep] rows) = rows := by
  induction rows with
  | nil => exact absurd rfl hne
  | cons row rows ih =>
    have hrow : ∀ c ∈ row, (c == sep) = false := by
      intro c hc
      rw [beq_eq_false_iff_ne]
      rintro rfl
      exact h row List.mem_cons_self hc
    by_cases hr : rows = []
    · subst rows
      exact splitWhere_of_notMem hrow
    · have hrest := ih hr fun other hother => h other (List.mem_cons_of_mem row hother)
      rw [joinWith_cons hr, List.append_assoc]
      exact (splitWhere_append hrow (beq_self_eq_true sep) _).trans (congrArg (row :: ·) hrest)

theorem lines_joinWith (hne : rows ≠ []) (h : ∀ row ∈ rows, '\n' ∉ row) :
    lines (joinWith ['\n'] rows) = rows :=
  splitWhere_joinWith hne h

theorem joinWith_inj (hne : rows ≠ []) (hne' : others ≠ []) (h : ∀ row ∈ rows, '\n' ∉ row)
    (h' : ∀ row ∈ others, '\n' ∉ row) :
    joinWith ['\n'] rows = joinWith ['\n'] others ↔ rows = others := by
  refine ⟨fun heq => ?_, fun heq => by rw [heq]⟩
  rw [← lines_joinWith hne h, heq, lines_joinWith hne' h']

end Join

end DocComment.Text
