import DocComment.Text.Blank

/-! Texts that trimming leaves alone: those that neither begin nor end with white space. -/

namespace DocComment.Text

variable {s : List Char}

theorem trimLeft_eq_self_iff : trimLeft s = s ↔ ∀ c ∈ s.head?, isBlank c = false := by
  constructor
  · intro h c hc
    have hfirst := List.head?_dropWhile_not isBlank s
    rw [← trimLeft, h, Option.mem_def.mp hc] at hfirst
    exact hfirst
  · intro h
    cases s with
    | nil => rfl
    | cons c s => rw [trimLeft, List.dropWhile_cons_of_neg (by simp [h c rfl])]

theorem trimRight_eq_self_iff : trimRight s = s ↔ ∀ c ∈ s.getLast?, isBlank c = false := by
  have hleft := trimLeft_eq_self_iff (s := s.reverse)
  rw [List.head?_reverse] at hleft
  rw [← hleft, trimRight, dropEnd, trimLeft, List.reverse_eq_iff]

theorem trimLeft_sublist (s : List Char) : (trimLeft s).Sublist s :=
  (List.dropWhile_suffix isBlank).sublist

theorem trimRight_sublist (s : List Char) : (trimRight s).Sublist s := by
  have h := (List.dropWhile_suffix isBlank (l := s.reverse)).sublist.reverse
  rwa [List.reverse_reverse] at h

theorem trim_sublist (s : List Char) : (trim s).Sublist s :=
  (trimRight_sublist (trimLeft s)).trans (trimLeft_sublist s)

theorem trim_eq_self_iff :
    trim s = s ↔ (∀ c ∈ s.head?, isBlank c = false) ∧ ∀ c ∈ s.getLast?, isBlank c = false := by
  rw [← trimLeft_eq_self_iff, ← trimRight_eq_self_iff]
  constructor
  · intro h
    -- trimming on the left alone cannot take more away than on both sides
    have hleft : trimLeft s = s := by
      have hright := (trimRight_sublist (trimLeft s)).length_le
      rw [← trim, h] at hright
      exact (trimLeft_sublist s).eq_of_length_le hright
    exact ⟨hleft, by rwa [trim, hleft] at h⟩
  · rintro ⟨hleft, hright⟩
    rw [trim, hleft, hright]

end DocComment.Text
