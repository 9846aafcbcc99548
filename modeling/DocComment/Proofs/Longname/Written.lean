import DocComment.Proofs.Longname.Prototype

/-! The longname that is written for a text: the name of the global object goes
from its beginning, and a kind that is a namespace goes before its last part. Two
texts of the same last part are mostly told apart by their lengths. -/

namespace DocComment.Longname

/-- The longname that is written for a text. -/
def written (kind : Option (List Char)) (s : List Char) : List Char :=
  match kind with
  | some k => addNamespaceChars (dropGlobalChars s) k
  | none => dropGlobalChars s

/-- The last part of a longname as it is written. -/
def lastPart (kind : Option (List Char)) (b : List Char) : List Char :=
  match kind with
  | some k => if isNamespaced b then b else k ++ ':' :: b
  | none => b

section Global

theorem isMark_of_mem_globalName {c : Char} (h : c ∈ globalName) : isMark c = false := by
  have hall : globalName.all (fun c => !isMark c) = true := by decide
  simpa using List.all_eq_true.mp hall c h

theorem dropGlobalChars_of_not_global {s : List Char} (h : ¬ globalName <+: s) :
    dropGlobalChars s = s := by
  unfold dropGlobalChars
  split
  next t ht => exact absurd ⟨_, (Text.dropStart?_eq_some.mp ht).symm⟩ h
  next t _ ht => exact absurd ⟨_, (Text.dropStart?_eq_some.mp ht).symm⟩ h
  next => rfl

theorem dropGlobalChars_point (s : List Char) : dropGlobalChars (globalName ++ '.' :: s) = s := by
  have hd : Text.dropStart? globalName (globalName ++ '.' :: s) = some ('.' :: s) :=
    Text.dropStart?_eq_some.mpr rfl
  simp [dropGlobalChars, hd]

theorem dropGlobalChars_other {s : List Char} (h : ∀ t, s ≠ '.' :: t) :
    dropGlobalChars (globalName ++ s) = s := by
  have hd : Text.dropStart? globalName (globalName ++ s) = some s :=
    Text.dropStart?_eq_some.mpr rfl
  unfold dropGlobalChars
  rw [hd]
  split
  next t ht => exact absurd (Option.some.inj ht) (h t)
  next t _ ht => exact (Option.some.inj ht).symm
  next ht => simp at ht

theorem length_dropGlobalChars_lt {s : List Char} (h : globalName <+: s) :
    (dropGlobalChars s).length < s.length := by
  have hlen : globalName.length = 8 := by decide
  obtain ⟨t, rfl⟩ := h
  by_cases hp : ∃ u, t = '.' :: u
  · obtain ⟨u, rfl⟩ := hp
    rw [dropGlobalChars_point]
    simp only [List.length_append, List.length_cons]
    omega
  · rw [dropGlobalChars_other fun u hu => hp ⟨u, hu⟩]
    simp only [List.length_append]
    omega

theorem length_dropGlobalChars_le (s : List Char) : (dropGlobalChars s).length ≤ s.length := by
  by_cases h : globalName <+: s
  · exact Nat.le_of_lt (length_dropGlobalChars_lt h)
  · exact Nat.le_of_eq (congrArg List.length (dropGlobalChars_of_not_global h))

theorem dropGlobalChars_eq_self_iff {s : List Char} :
    dropGlobalChars s = s ↔ ¬ globalName <+: s := by
  refine ⟨fun h hp => ?_, dropGlobalChars_of_not_global⟩
  have hlt := length_dropGlobalChars_lt hp
  rw [h] at hlt
  omega

theorem dropGlobalChars_eq_nil_iff {s : List Char} :
    dropGlobalChars s = [] ↔ s = [] ∨ s = globalName ∨ s = globalName ++ ['.'] := by
  constructor
  · intro h
    by_cases hp : globalName <+: s
    · obtain ⟨t, rfl⟩ := hp
      by_cases hpoint : ∃ u, t = '.' :: u
      · obtain ⟨u, rfl⟩ := hpoint
        rw [dropGlobalChars_point] at h
        rw [h]
        exact .inr (.inr rfl)
      · rw [dropGlobalChars_other fun u hu => hpoint ⟨u, hu⟩] at h
        rw [h, List.append_nil]
        exact .inr (.inl rfl)
    · rw [dropGlobalChars_of_not_global hp] at h
      exact .inl h
  · rintro (rfl | rfl | rfl) <;> decide

/-- The brackets in the name of the global object keep it in one piece. -/
theorem globalName_prefix_of_append {p s : List Char} (hp : p ≠ [])
    (ha : Nesting.after {} p = {}) (h : globalName <+: p ++ s) : globalName <+: p := by
  rcases List.prefix_or_prefix_of_prefix h (List.prefix_append p s) with h | h
  · exact h
  · have hopen : ∀ i ≤ 8, globalName.take i ≠ [] → Nesting.after {} (globalName.take i) = {} →
        globalName <+: globalName.take i := by
      decide
    have hlen : p.length ≤ 8 := List.IsPrefix.length_le h
    have ht : p = globalName.take p.length := List.prefix_iff_eq_take.mp h
    rw [ht] at hp ha ⊢
    exact hopen p.length hlen hp ha

theorem dropGlobalChars_append {p s : List Char} (hd : dropGlobalChars p ≠ [])
    (ha : Nesting.after {} p = {}) : dropGlobalChars (p ++ s) = dropGlobalChars p ++ s := by
  have hp : p ≠ [] := by
    rintro rfl
    exact hd rfl
  by_cases hg : globalName <+: p
  · obtain ⟨t, rfl⟩ := hg
    by_cases hpoint : ∃ u, t = '.' :: u
    · obtain ⟨u, rfl⟩ := hpoint
      simp only [List.append_assoc, List.cons_append, dropGlobalChars_point]
    · have ht : ∀ u, t ≠ '.' :: u := fun u hu => hpoint ⟨u, hu⟩
      rw [dropGlobalChars_other ht] at hd ⊢
      obtain ⟨c, t, rfl⟩ := List.exists_cons_of_ne_nil hd
      have hc : ∀ u, c :: t ++ s ≠ '.' :: u := by
        intro u hu
        exact ht t (by rw [(List.cons.inj hu).1])
      rw [List.append_assoc, dropGlobalChars_other hc]
  · rw [dropGlobalChars_of_not_global hg,
      dropGlobalChars_of_not_global (mt (globalName_prefix_of_append hp ha) hg)]

end Global

theorem splitLast_eq_none_of_append {n : Nesting} {a b : List Char}
    (h : splitLast n (a ++ b) = none) : splitLast (n.after a) b = none := by
  cases hb : splitLast (n.after a) b with
  | none => rfl
  | some found =>
    obtain ⟨x, c, y⟩ := found
    obtain ⟨rfl, hc, hx, hy⟩ := splitLast_eq_some hb
    have hax : n.after (a ++ x) = {} := by rw [Nesting.after_append, hx]
    rw [← List.append_assoc, splitLast_append hax hc hy] at h
    simp at h

theorem splitLast_dropGlobalChars {b : List Char} (h : splitLast {} b = none) :
    splitLast {} (dropGlobalChars b) = none := by
  unfold dropGlobalChars
  split
  next t ht =>
    -- a point after the name of the global object would be a place to split
    rw [Text.dropStart?_eq_some.mp ht] at h
    exact absurd rfl (after_ne_of_splitLast_eq_none h rfl)
  next t _ ht =>
    rw [Text.dropStart?_eq_some.mp ht] at h
    exact splitLast_eq_none_of_append h
  next => exact h

theorem isNamespaced_of_not_letter {c : Char} {s : List Char} (h : isLetter c = false) :
    isNamespaced (c :: s) = false := by
  simp [isNamespaced, h]

theorem isNamespaced_mark_cons {c : Char} {s : List Char} (h : isMark c = true) :
    isNamespaced (c :: s) = false := by
  apply isNamespaced_of_not_letter
  rcases isMark_iff.mp h with rfl | rfl | rfl <;> decide

section Written

variable {kind : Option (List Char)} {p b : List Char} {mark : Char}

/-- The number of characters that a namespace puts in. -/
def namespaceLength (kind : Option (List Char)) : Nat := (kind.map (·.length + 1)).getD 0

theorem length_lastPart_le (kind : Option (List Char)) (b : List Char) :
    (lastPart kind b).length ≤ namespaceLength kind + b.length := by
  cases kind with
  | none => simp [lastPart]
  | some k =>
    simp only [lastPart, namespaceLength]
    split
    · omega
    · simp
      omega

theorem length_lastPart {b : List Char} (h : isNamespaced b = false) :
    (lastPart kind b).length = namespaceLength kind + b.length := by
  cases kind with
  | none => simp [lastPart, namespaceLength]
  | some k =>
    simp only [lastPart, namespaceLength, h]
    simp
    omega

theorem addNamespaceChars_eq {k : List Char} {s : List Char} :
    addNamespaceChars s k =
      (splitChars s).parent ++ (splitChars s).mark.toList ++
        lastPart (some k) (splitChars s).name := by
  unfold addNamespaceChars lastPart
  dsimp only
  split
  · exact (join_splitChars s).symm
  · simp

theorem written_eq (kind : Option (List Char)) (s : List Char) :
    written kind s =
      (splitChars (dropGlobalChars s)).parent ++ (splitChars (dropGlobalChars s)).mark.toList ++
        lastPart kind (splitChars (dropGlobalChars s)).name := by
  cases kind with
  | none => exact (join_splitChars (dropGlobalChars s)).symm
  | some k => exact addNamespaceChars_eq

theorem written_append (hd : dropGlobalChars p ≠ []) (ha : Nesting.after {} p = {})
    (hmark : isMark mark = true) (hb : splitLast {} b = none) :
    written kind (p ++ mark :: b) = dropGlobalChars p ++ mark :: lastPart kind b := by
  have hda : Nesting.after {} (dropGlobalChars p) = {} := (after_dropGlobalChars p).trans ha
  rw [written_eq, dropGlobalChars_append hd ha, splitChars_append hd hda hmark hb]
  simp

theorem written_plain (hb : splitLast {} b = none) :
    written kind b = lastPart kind (dropGlobalChars b) := by
  rw [written_eq, splitChars_of_splitLast_eq_none (splitLast_dropGlobalChars hb)]
  rfl

theorem written_global (hmark : isMark mark = true) (hb : splitLast {} b = none) :
    written kind (globalName ++ mark :: b) =
      if mark = '.' then lastPart kind b else lastPart kind (mark :: b) := by
  split
  next h =>
    rw [written_eq, h, dropGlobalChars_point, splitChars_of_splitLast_eq_none hb]
    rfl
  next h =>
    have hd : dropGlobalChars (globalName ++ mark :: b) = mark :: b :=
      dropGlobalChars_other fun t ht => h (List.cons.inj ht).1
    rw [written_eq, hd, splitChars_mark_cons hmark hb]
    rfl

theorem written_global_point (hmark : isMark mark = true) (hb : splitLast {} b = none) :
    written kind (globalName ++ '.' :: mark :: b) = lastPart kind (mark :: b) := by
  rw [written_eq, dropGlobalChars_point, splitChars_mark_cons hmark hb]
  rfl

theorem written_ne_nil {s : List Char} (h : dropGlobalChars s ≠ []) : written kind s ≠ [] := by
  cases kind with
  | none => exact h
  | some k =>
    unfold written addNamespaceChars
    dsimp only
    split
    · exact h
    · simp

theorem written_append_ne_nil (hmark : isMark mark = true) (hb : b ≠ []) :
    written kind (p ++ mark :: b) ≠ [] := by
  apply written_ne_nil
  intro h
  rcases dropGlobalChars_eq_nil_iff.mp h with h | h | h
  · simp at h
  · have hmem : mark ∈ globalName := by simp [← h]
    rw [isMark_of_mem_globalName hmem] at hmark
    simp at hmark
  · obtain ⟨t, c, rfl⟩ := (List.eq_nil_or_concat b).resolve_left hb
    have happ : (p ++ mark :: t) ++ [c] = globalName ++ ['.'] := by simpa using h
    have hp := (List.append_inj' happ rfl).1
    have hmem : mark ∈ globalName := by simp [← hp]
    rw [isMark_of_mem_globalName hmem] at hmark
    simp at hmark

theorem lastPart_dropGlobalChars_eq_iff :
    lastPart kind (dropGlobalChars b) = lastPart kind b ↔ ¬ globalName <+: b := by
  refine ⟨fun h hp => ?_, fun h => by rw [dropGlobalChars_of_not_global h]⟩
  have hlt := length_dropGlobalChars_lt hp
  obtain ⟨t, rfl⟩ := hp
  have hn : isNamespaced (globalName ++ t) = false := isNamespaced_of_not_letter (by decide)
  have hle := length_lastPart_le kind (dropGlobalChars (globalName ++ t))
  rw [h, length_lastPart hn] at hle
  omega

/-- A name that lost the global object as its parent is written as before only
when a single point stood between them. -/
theorem written_eq_written_global_iff (hp : p ≠ []) (hd : dropGlobalChars p = [])
    (hmark : isMark mark = true) (hb : splitLast {} b = none) :
    written kind b = written kind (p ++ mark :: b) ↔
      p = globalName ∧ mark = '.' ∧ ¬ globalName <+: b := by
  have hne : lastPart kind (dropGlobalChars b) ≠ lastPart kind (mark :: b) := by
    intro h
    have hle := length_lastPart_le kind (dropGlobalChars b)
    have hdrop := length_dropGlobalChars_le b
    rw [h, length_lastPart (isNamespaced_mark_cons hmark), List.length_cons] at hle
    omega
  rw [written_plain hb]
  rcases dropGlobalChars_eq_nil_iff.mp hd with rfl | rfl | rfl
  · exact absurd rfl hp
  · rw [written_global hmark hb]
    by_cases h : mark = '.'
    · simp [h, lastPart_dropGlobalChars_eq_iff]
    · simp [h, hne]
  · rw [List.append_assoc, List.cons_append, List.nil_append, written_global_point hmark hb]
    simp [hne]

theorem lastPart_ne_global_append : lastPart kind b ≠ globalName ++ mark :: lastPart kind b := by
  intro h
  have hlen := congrArg List.length h
  simp only [List.length_append, List.length_cons] at hlen
  omega

theorem lastPart_mark_ne_global_append {k : Char} (hk : isMark k = true) :
    lastPart kind (k :: b) ≠ globalName ++ mark :: lastPart kind b := by
  intro h
  have hglobal : globalName.length = 8 := by decide
  have hlen := congrArg List.length h
  rw [length_lastPart (isNamespaced_mark_cons hk), List.length_append, List.length_cons,
    List.length_cons, hglobal] at hlen
  have hb : namespaceLength kind + b.length ≤ (lastPart kind b).length + 7 → False := by omega
  cases kind with
  | none => exact hb (by simp [namespaceLength, lastPart])
  | some kd =>
    cases hn : isNamespaced b with
    | false => exact hb (by rw [length_lastPart hn]; omega)
    | true =>
      -- the kind and its colon would have to make up the name of the global object
      simp only [lastPart, isNamespaced_mark_cons hk, hn] at h
      have happ : (kd ++ [':']) ++ k :: b = globalName ++ mark :: b := by simpa using h
      have hs : kd ++ [':'] = globalName := (List.append_inj' happ rfl).1
      have hlast : (kd ++ [':']).getLast? = some '>' := by rw [hs]; decide
      simp at hlast

/-- The parent and the name that a text was taken apart into are written like the
text itself when its mark is kept and its parent is. -/
theorem written_parentChars_eq_iff {k : Char} (hp : parentChars p ≠ [])
    (ha : Nesting.after {} p = {}) (hend : parentChars p ≠ globalName ++ ['.'])
    (hk : isMark k = true) (hmark : isMark mark = true) (hb : splitLast {} b = none) :
    written kind (parentChars p ++ k :: b) = written kind (p ++ mark :: b) ↔
      k = mark ∧ ¬ prototypeName <:+: dropGlobalChars p ∧ ¬ globalName <+: parentChars p := by
  have hd : dropGlobalChars p ≠ [] := mt parentChars_eq_nil_iff.mpr hp
  have hpa : Nesting.after {} (parentChars p) = {} := (after_parentChars p).trans ha
  rw [written_append hd ha hmark hb, ← parentChars_eq_self_iff]
  by_cases hg : dropGlobalChars (parentChars p) = []
  · -- only the global object itself is left of the parent
    obtain hg : parentChars p = globalName := by
      rcases dropGlobalChars_eq_nil_iff.mp hg with h | h | h
      · exact absurd h hp
      · exact h
      · exact absurd h hend
    have hq : dropGlobalChars p = globalName := by
      rw [← parentChars_eq_of_not_mem (by rw [hg]; decide), hg]
    rw [hg, hq, written_global hk hb]
    refine iff_of_false ?_ fun h => h.2.2 (List.prefix_refl _)
    split
    · exact lastPart_ne_global_append
    · exact lastPart_mark_ne_global_append hk
  · rw [written_append hg hpa hk hb]
    constructor
    · intro h
      obtain ⟨hq, hmk⟩ := List.append_inj' h (by simp)
      have hle := length_parentChars_le p
      have hself : dropGlobalChars (parentChars p) = parentChars p := by
        by_cases hgp : globalName <+: parentChars p
        · have hlt := length_dropGlobalChars_lt hgp
          rw [hq] at hlt
          omega
        · exact dropGlobalChars_of_not_global hgp
      exact ⟨(List.cons.inj hmk).1, hself.symm.trans hq, dropGlobalChars_eq_self_iff.mp hself⟩
    · rintro ⟨rfl, hq, hgp⟩
      rw [dropGlobalChars_of_not_global hgp, hq]

end Written

end DocComment.Longname
