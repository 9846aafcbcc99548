import DocComment.Longname

/-! Where a longname is split. The search runs with the state of its brackets and
quotes, and splits at the last mark that it meets outside of them; a mark at the
very beginning is never a place to split. Nothing is lost by splitting, and what
is put together from parts that fit is split into these parts again. -/

namespace DocComment.Longname

/-- The state of the search after a text. -/
def Nesting.after (n : Nesting) (s : List Char) : Nesting := s.foldl Nesting.step n

@[simp] theorem Nesting.after_nil (n : Nesting) : n.after [] = n := rfl

@[simp] theorem Nesting.after_cons (n : Nesting) (c : Char) (s : List Char) :
    n.after (c :: s) = (n.step c).after s := rfl

@[simp] theorem Nesting.after_append (n : Nesting) (s t : List Char) :
    n.after (s ++ t) = (n.after s).after t := List.foldl_append

theorem Nesting.outside_iff {n : Nesting} : n.outside = true ↔ n = {} := by
  obtain ⟨depth, quote⟩ := n
  simp [Nesting.outside]

theorem isMark_iff {c : Char} : isMark c = true ↔ c = '~' ∨ c = '#' ∨ c = '.' := by
  simp [isMark, marks]

theorem Nesting.step_mark {c : Char} (hc : isMark c = true) : Nesting.step {} c = {} := by
  rcases isMark_iff.mp hc with rfl | rfl | rfl <;> rfl

theorem splitLast_append {n : Nesting} {a b : List Char} {c : Char} (ha : n.after a = {})
    (hc : isMark c = true) (hb : splitLast {} b = none) :
    splitLast n (a ++ c :: b) = some (a, c, b) := by
  induction a generalizing n with
  | nil =>
    obtain rfl : n = {} := ha
    simp [splitLast, Nesting.step_mark hc, hb, hc, Nesting.outside]
  | cons d a ih => simp [splitLast, ih ha]

theorem splitLast_eq_some {n : Nesting} {s a b : List Char} {c : Char}
    (h : splitLast n s = some (a, c, b)) :
    s = a ++ c :: b ∧ isMark c = true ∧ n.after a = {} ∧ splitLast {} b = none := by
  induction s generalizing n a with
  | nil => simp [splitLast] at h
  | cons d s ih =>
    cases hs : splitLast (n.step d) s with
    | some found =>
      obtain ⟨x, y, z⟩ := found
      simp only [splitLast, hs, Option.some.injEq, Prod.mk.injEq] at h
      obtain ⟨rfl, rfl, rfl⟩ := h
      obtain ⟨rfl, hc, ha, hb⟩ := ih hs
      exact ⟨rfl, hc, ha, hb⟩
    | none =>
      -- no mark further on, so the search stops at the first character or fails
      simp only [splitLast, hs] at h
      split at h
      next hd =>
        simp only [Option.some.injEq, Prod.mk.injEq] at h
        obtain ⟨rfl, rfl, rfl⟩ := h
        rw [Bool.and_eq_true, Nesting.outside_iff] at hd
        obtain ⟨rfl, hd⟩ := hd
        rw [Nesting.step_mark hd] at hs
        exact ⟨rfl, hd, rfl, hs⟩
      next => simp at h

/-- Without a place to split, every mark stands in brackets or quotes. -/
theorem after_ne_of_splitLast_eq_none {n : Nesting} {a b : List Char} {c : Char}
    (h : splitLast n (a ++ c :: b) = none) (hc : isMark c = true) : n.after a ≠ {} := by
  intro ha
  cases hb : splitLast {} b with
  | none => simp [splitLast_append ha hc hb] at h
  | some found =>
    -- the last mark outside is then a later one
    obtain ⟨x, y, z⟩ := found
    obtain ⟨rfl, hy, hx, hz⟩ := splitLast_eq_some hb
    have hax : n.after (a ++ c :: x) = {} := by simp [ha, Nesting.step_mark hc, hx]
    have hs := splitLast_append hax hy hz
    simp only [List.append_assoc, List.cons_append] at hs
    simp [hs] at h

theorem splitChars_append {p b : List Char} {c : Char} (hp : p ≠ [])
    (ha : Nesting.after {} p = {}) (hc : isMark c = true) (hb : splitLast {} b = none) :
    splitChars (p ++ c :: b) = ⟨p, some c, b⟩ := by
  cases p with
  | nil => exact absurd rfl hp
  | cons d p =>
    have hs : splitLast (Nesting.step {} d) (p ++ c :: b) = some (p, c, b) :=
      splitLast_append ha hc hb
    simp [splitChars, hs]

theorem splitChars_of_splitLast_eq_none {s : List Char} (h : splitLast {} s = none) :
    splitChars s = ⟨[], none, s⟩ := by
  cases s with
  | nil => rfl
  | cons c s =>
    have hs : splitLast (Nesting.step {} c) s = none := by
      cases hs : splitLast (Nesting.step {} c) s with
      | none => rfl
      | some found => simp [splitLast, hs] at h
    simp [splitChars, hs]

theorem splitChars_mark_cons {c : Char} {s : List Char} (hc : isMark c = true)
    (h : splitLast {} s = none) : splitChars (c :: s) = ⟨[], none, c :: s⟩ := by
  simp [splitChars, Nesting.step_mark hc, h]

/-- A longname has no parent, or it is split at its last mark outside of brackets
and quotes. -/
theorem splitChars_cases (s : List Char) :
    splitChars s = ⟨[], none, s⟩ ∨
      ∃ p c b, splitChars s = ⟨p, some c, b⟩ ∧ s = p ++ c :: b ∧ p ≠ [] ∧ isMark c = true ∧
        Nesting.after {} p = {} ∧ splitLast {} b = none := by
  cases s with
  | nil => exact .inl rfl
  | cons d s =>
    cases hs : splitLast (Nesting.step {} d) s with
    | none => exact .inl (by simp [splitChars, hs])
    | some found =>
      obtain ⟨a, c, b⟩ := found
      obtain ⟨rfl, hc, ha, hb⟩ := splitLast_eq_some hs
      exact .inr ⟨d :: a, c, b, by simp [splitChars, hs], rfl, by simp, hc, ha, hb⟩

theorem join_splitChars (s : List Char) : (splitChars s).join = s := by
  rcases splitChars_cases s with h | ⟨p, c, b, h, hs, -⟩
  · simp [h, Parts.join]
  · rw [h, hs]
    simp [Parts.join]

/-- Every mark of the text stands in brackets or quotes. -/
def HidesMarks (s : List Char) : Prop :=
  ∀ a c b, s = a ++ c :: b → isMark c = true → (Nesting.after {} a).outside = false

theorem splitLast_eq_none_iff {s : List Char} : splitLast {} s = none ↔ HidesMarks s := by
  constructor
  · intro h a c b hs hc
    rw [hs] at h
    have hne : Nesting.after {} a ≠ {} := after_ne_of_splitLast_eq_none h hc
    exact Bool.eq_false_iff.mpr (mt Nesting.outside_iff.mp hne)
  · intro h
    cases hs : splitLast {} s with
    | none => rfl
    | some found =>
      obtain ⟨a, c, b⟩ := found
      obtain ⟨hsplit, hc, ha, -⟩ := splitLast_eq_some hs
      have houtside : (Nesting.after {} a).outside = true := Nesting.outside_iff.mpr ha
      rw [h a c b hsplit hc] at houtside
      simp at houtside

theorem eq_append_of_splitChars {s p b : List Char} {c : Char} (h : splitChars s = ⟨p, some c, b⟩) :
    s = p ++ c :: b ∧ p ≠ [] ∧ isMark c = true ∧ Nesting.after {} p = {} ∧
      splitLast {} b = none := by
  rcases splitChars_cases s with hs | ⟨p', c', b', hs, he⟩
  · rw [h] at hs
    simp at hs
  · rw [h] at hs
    simp only [Parts.mk.injEq, Option.some.injEq] at hs
    obtain ⟨rfl, rfl, rfl⟩ := hs
    exact he

theorem splitChars_append_iff {p b : List Char} {c : Char} :
    splitChars (p ++ c :: b) = ⟨p, some c, b⟩ ↔
      p ≠ [] ∧ Nesting.after {} p = {} ∧ isMark c = true ∧ splitLast {} b = none := by
  constructor
  · intro h
    obtain ⟨-, hp, hc, ha, hb⟩ := eq_append_of_splitChars h
    exact ⟨hp, ha, hc, hb⟩
  · rintro ⟨hp, ha, hc, hb⟩
    exact splitChars_append hp ha hc hb

/-- Splitting loses nothing, and it finds again the parts of a longname exactly when
the parent is not empty and ends outside of brackets and quotes, and the name keeps its
marks inside of them. -/
theorem split_append_iff :
    (∀ s : String, String.ofList (split s).join = s) ∧
      ∀ (parent name : String) (mark : Char),
        split (parent ++ String.singleton mark ++ name) =
            ⟨parent.toList, some mark, name.toList⟩ ↔
          parent ≠ "" ∧ (Nesting.after {} parent.toList).outside = true ∧ isMark mark = true ∧
            HidesMarks name.toList := by
  refine ⟨fun s => ?_, fun parent name mark => ?_⟩
  · rw [split, join_splitChars, String.ofList_toList]
  · have htext : (parent ++ String.singleton mark ++ name).toList =
        parent.toList ++ mark :: name.toList := by simp
    have hparent : parent ≠ "" ↔ parent.toList ≠ [] := by simp
    rw [split, htext, splitChars_append_iff, splitLast_eq_none_iff, Nesting.outside_iff, hparent]

/-- A bracket that is never closed hides the marks behind it, and one that is closed
without having been opened hides nothing. -/
example :
    split "Foo.bar)#<baz.qux" =
      ⟨"Foo.bar)".toList, some '#', "<baz.qux".toList⟩ := by decide

end DocComment.Longname
