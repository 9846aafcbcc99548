import DocComment.Proofs.Longname.Parent

/-! How a written longname ends. The name of the global object goes from the
beginning and a namespace goes before the last part, so a bracket that closes the
text closes the longname too. Nothing is left of a text only when it is the name of
the global object. -/

namespace DocComment.Longname

theorem getLast?_append_iff {α : Type} {p t : List α} {c : α} (h : p.getLast? ≠ some c) :
    (p ++ t).getLast? = some c ↔ t.getLast? = some c := by
  rw [List.getLast?_append]
  cases ht : t.getLast? with
  | none => simp [h]
  | some d => simp

theorem getLast?_of_suffix {α : Type} {s t : List α} (h : t <:+ s) (ht : t ≠ []) :
    s.getLast? = t.getLast? := by
  obtain ⟨p, rfl⟩ := h
  obtain ⟨c, hc⟩ := Option.ne_none_iff_exists'.mp (mt List.getLast?_eq_none_iff.mp ht)
  rw [List.getLast?_append, hc]
  rfl

/-- The text ends in a closing bracket. -/
def EndsClosed (s : List Char) : Prop := s.getLast? = some ')'

instance (s : List Char) : Decidable (EndsClosed s) := inferInstanceAs (Decidable (_ = _))

theorem endsClosed_dropGlobalChars_iff (s : List Char) :
    EndsClosed (dropGlobalChars s) ↔ EndsClosed s := by
  by_cases hg : globalName <+: s
  · obtain ⟨t, rfl⟩ := hg
    by_cases hpoint : ∃ u, t = '.' :: u
    · obtain ⟨u, rfl⟩ := hpoint
      have hsplit : globalName ++ '.' :: u = (globalName ++ ['.']) ++ u := by simp
      rw [dropGlobalChars_point, hsplit]
      exact (getLast?_append_iff (by decide)).symm
    · rw [dropGlobalChars_other fun u hu => hpoint ⟨u, hu⟩]
      exact (getLast?_append_iff (by decide)).symm
  · rw [dropGlobalChars_of_not_global hg]

theorem endsClosed_lastPart_iff (kind : Option (List Char)) (b : List Char) :
    EndsClosed (lastPart kind b) ↔ EndsClosed b := by
  cases kind with
  | none => exact Iff.rfl
  | some k =>
    unfold lastPart
    dsimp only
    split
    · exact Iff.rfl
    · have hsplit : k ++ ':' :: b = (k ++ [':']) ++ b := by simp
      have hcolon : (k ++ [':']).getLast? ≠ some ')' := by simp
      rw [hsplit]
      exact getLast?_append_iff hcolon

theorem endsClosed_written_iff (kind : Option (List Char)) (s : List Char) :
    EndsClosed (written kind s) ↔ EndsClosed s := by
  have hfront : ((splitChars (dropGlobalChars s)).parent ++
      (splitChars (dropGlobalChars s)).mark.toList).getLast? ≠ some ')' := by
    rcases parent_of_splitChars (dropGlobalChars s) with h | ⟨t, c, h, hc⟩
    · simp [h]
    · rw [h, List.getLast?_concat]
      rintro ⟨⟩
      simp [isMark_iff] at hc
  have hjoin : (splitChars (dropGlobalChars s)).parent ++
      (splitChars (dropGlobalChars s)).mark.toList ++ (splitChars (dropGlobalChars s)).name =
        dropGlobalChars s := join_splitChars _
  have hname : (dropGlobalChars s).getLast? = some ')' ↔
      (splitChars (dropGlobalChars s)).name.getLast? = some ')' := by
    have happ := getLast?_append_iff (t := (splitChars (dropGlobalChars s)).name) hfront
    rw [hjoin] at happ
    exact happ
  calc EndsClosed (written kind s)
      ↔ EndsClosed (lastPart kind (splitChars (dropGlobalChars s)).name) := by
        rw [written_eq]
        exact getLast?_append_iff hfront
    _ ↔ EndsClosed (splitChars (dropGlobalChars s)).name := endsClosed_lastPart_iff kind _
    _ ↔ EndsClosed (dropGlobalChars s) := hname.symm
    _ ↔ EndsClosed s := endsClosed_dropGlobalChars_iff s

theorem written_eq_nil_iff {kind : Option (List Char)} {s : List Char} :
    written kind s = [] ↔ kind = none ∧ dropGlobalChars s = [] := by
  constructor
  · intro h
    have hd : dropGlobalChars s = [] := Classical.byContradiction fun hd => written_ne_nil hd h
    cases kind with
    | none => exact ⟨rfl, hd⟩
    | some k => simp [written, hd, addNamespaceChars, splitChars, isNamespaced] at h
  · rintro ⟨rfl, hd⟩
    exact hd

end DocComment.Longname
