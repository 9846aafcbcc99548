import DocComment.Proofs.Longname.Written
import Mathlib.Data.List.TakeWhile

/-! A namespace before the last part of a longname. The letters of a namespace and its
colon open, close and divide nothing, so the longname is split where it was before. A last
part that is one line then has a namespace, and no further one is put before it. -/

namespace DocComment.Longname

/-- Letters are no quotes, brackets or marks. -/
theorem isPlain_of_isLetter {c : Char} (h : isLetter c = true) : IsPlain c ∧ isMark c = false := by
  have hfalse : ∀ d, isLetter d = false → c ≠ d := by
    rintro d hd rfl
    rw [hd] at h
    simp at h
  have hopening : Nesting.isOpening c = false := by
    simp only [Nesting.isOpening, Bool.or_eq_false_iff, beq_eq_false_iff_ne]
    exact ⟨⟨⟨hfalse _ rfl, hfalse _ rfl⟩, hfalse _ rfl⟩, hfalse _ rfl⟩
  have hclosing : Nesting.isClosing c = false := by
    simp only [Nesting.isClosing, Bool.or_eq_false_iff, beq_eq_false_iff_ne]
    exact ⟨⟨⟨hfalse _ rfl, hfalse _ rfl⟩, hfalse _ rfl⟩, hfalse _ rfl⟩
  have hmark : ¬ isMark c = true := by
    rw [isMark_iff]
    rintro (hc | hc | hc) <;> exact hfalse _ rfl hc
  exact ⟨⟨hfalse '"' rfl, hfalse '\'' rfl, hopening, hclosing⟩, Bool.eq_false_iff.mpr hmark⟩

section Plain

variable {k b : List Char}

theorem splitLast_plain_append (hk : ∀ c ∈ k, IsPlain c ∧ isMark c = false)
    (hb : splitLast {} b = none) : splitLast {} (k ++ b) = none := by
  induction k with
  | nil => exact hb
  | cons c k ih =>
    obtain ⟨hplain, hmark⟩ := hk c List.mem_cons_self
    have hstep : Nesting.step {} c = {} := Nesting.isProper_empty.step_plain hplain
    have hrest := ih fun d hd => hk d (List.mem_cons_of_mem c hd)
    rw [List.cons_append, splitLast, hstep, hrest]
    simp [hmark]

theorem splitLast_lastPart (hk : ∀ c ∈ k, isLetter c = true) (hb : splitLast {} b = none) :
    splitLast {} (lastPart (some k) b) = none := by
  unfold lastPart
  dsimp only
  split
  · exact hb
  · have hcolon : IsPlain ':' ∧ isMark ':' = false := by decide
    have hsplit : k ++ ':' :: b = (k ++ [':']) ++ b := by simp
    rw [hsplit]
    refine splitLast_plain_append (fun c hc => ?_) hb
    rcases List.mem_append.mp hc with hc | hc
    · exact isPlain_of_isLetter (hk c hc)
    · obtain rfl : c = ':' := List.mem_singleton.mp hc
      exact hcolon

theorem isLine_of_notMem (hb : b ≠ []) (hline : '\n' ∉ b) : isLine b = true := by
  have hall : b.takeWhile (· != '\n') = b := by
    refine List.takeWhile_eq_self_iff.mpr fun c hc => ?_
    rw [bne_iff_ne]
    rintro rfl
    exact hline hc
  simp [isLine, hall, hb]

theorem isNamespaced_append (hne : k ≠ []) (hk : ∀ c ∈ k, isLetter c = true) :
    isNamespaced (k ++ ':' :: b) = isLine b := by
  have hcolon : ¬ isLetter ':' = true := by decide
  have htake : (k ++ ':' :: b).takeWhile isLetter = k := by
    rw [List.takeWhile_append_of_pos hk, List.takeWhile_cons_of_neg hcolon, List.append_nil]
  have hdrop : (k ++ ':' :: b).dropWhile isLetter = ':' :: b := by
    rw [List.dropWhile_append_of_pos hk, List.dropWhile_cons_of_neg hcolon]
  obtain ⟨c, k, rfl⟩ := List.exists_cons_of_ne_nil hne
  rw [isNamespaced, htake, hdrop]
  rfl

theorem isNamespaced_lastPart (hne : k ≠ []) (hk : ∀ c ∈ k, isLetter c = true) (hb : b ≠ [])
    (hline : '\n' ∉ b) : isNamespaced (lastPart (some k) b) = true := by
  unfold lastPart
  dsimp only
  split
  next h => exact h
  next => rw [isNamespaced_append hne hk, isLine_of_notMem hb hline]

end Plain

section Split

variable {s k : List Char}

/-- A text without a parent has no place to split at all unless it begins with a mark. -/
theorem splitLast_eq_none_of_root (hroot : (splitChars s).parent = [])
    (hhead : ∀ c, s.head? = some c → isMark c = false) : splitLast {} s = none := by
  cases hs : splitLast {} s with
  | none => rfl
  | some found =>
    obtain ⟨a, c, b⟩ := found
    obtain ⟨rfl, hc, ha, hb⟩ := splitLast_eq_some hs
    cases a with
    | nil =>
      rw [hhead c rfl] at hc
      simp at hc
    | cons d a =>
      rw [splitChars_append (List.cons_ne_nil d a) ha hc hb] at hroot
      simp at hroot

theorem splitChars_addNamespaceChars (hk : ∀ c ∈ k, isLetter c = true)
    (hhead : (splitChars s).parent = [] → ∀ c, s.head? = some c → isMark c = false) :
    splitChars (addNamespaceChars s k) =
      { splitChars s with name := lastPart (some k) (splitChars s).name } := by
  rw [addNamespaceChars_eq]
  rcases splitChars_cases s with h | ⟨p, c, b, h, -, hp, hc, ha, hb⟩
  · have hroot : (splitChars s).parent = [] := by rw [h]
    have hnone : splitLast {} s = none := splitLast_eq_none_of_root hroot (hhead hroot)
    rw [h]
    exact splitChars_of_splitLast_eq_none (splitLast_lastPart hk hnone)
  · have hjoin : p ++ [c] ++ lastPart (some k) b = p ++ c :: lastPart (some k) b := by simp
    rw [h]
    dsimp only [Option.toList_some]
    rw [hjoin, splitChars_append hp ha hc (splitLast_lastPart hk hb)]

theorem addNamespaceChars_of_isNamespaced (h : isNamespaced (splitChars s).name = true) :
    addNamespaceChars s k = s := by
  simp [addNamespaceChars, h]

end Split

/-- A namespace stays when another is put before the last part, and neither the parent
nor its mark changes. -/
theorem addNamespace_addNamespace {s kind : String} (hname : (split s).name ≠ [])
    (hline : '\n' ∉ (split s).name)
    (hhead : (split s).parent = [] → ∀ c, s.toList.head? = some c → isMark c = false)
    (hne : kind ≠ "") (hkind : ∀ c ∈ kind.toList, isLetter c = true) (other : String) :
    addNamespace (addNamespace s kind) other = addNamespace s kind ∧
      split (addNamespace s kind) =
        { split s with name := lastPart (some kind.toList) (split s).name } := by
  have hsplit : split (addNamespace s kind) =
      { split s with name := lastPart (some kind.toList) (split s).name } := by
    rw [split, addNamespace, String.toList_ofList]
    exact splitChars_addNamespaceChars hkind hhead
  have hlast : isNamespaced (split (addNamespace s kind)).name = true := by
    rw [hsplit]
    exact isNamespaced_lastPart (by simpa using hne) hkind hname hline
  refine ⟨?_, hsplit⟩
  rw [addNamespace, addNamespaceChars_of_isNamespaced hlast, String.ofList_toList]

/-- The last part holds a colon and an unclosed quote with a mark behind it. -/
theorem addNamespace_addNamespace_unclosed :
    ((split "Foo<a.b>#9:on'x.y").name ≠ [] ∧ '\n' ∉ (split "Foo<a.b>#9:on'x.y").name ∧
        (split "Foo<a.b>#9:on'x.y").parent ≠ [] ∧ "event" ≠ "" ∧
        ∀ c ∈ "event".toList, isLetter c = true) ∧
      addNamespace (addNamespace "Foo<a.b>#9:on'x.y" "event") "module" =
        "Foo<a.b>#event:9:on'x.y" ∧
      split "Foo<a.b>#event:9:on'x.y" =
        ⟨"Foo<a.b>".toList, some '#', "event:9:on'x.y".toList⟩ := by
  have hname : (split "Foo<a.b>#9:on'x.y").name ≠ [] := by decide
  have hline : '\n' ∉ (split "Foo<a.b>#9:on'x.y").name := by decide
  have hparent : (split "Foo<a.b>#9:on'x.y").parent ≠ [] := by decide
  have hne : "event" ≠ "" := by decide
  have hkind : ∀ c ∈ "event".toList, isLetter c = true :=
    List.all_eq_true.mp (by decide)
  obtain ⟨hsticks, hsplit⟩ :=
    addNamespace_addNamespace hname hline (fun hroot => absurd hroot hparent) hne hkind "module"
  have hevent : addNamespace "Foo<a.b>#9:on'x.y" "event" = "Foo<a.b>#event:9:on'x.y" := by decide
  have hparts : { split "Foo<a.b>#9:on'x.y" with
      name := lastPart (some "event".toList) (split "Foo<a.b>#9:on'x.y").name } =
        ⟨"Foo<a.b>".toList, some '#', "event:9:on'x.y".toList⟩ := by decide
  rw [hevent] at hsticks hsplit
  exact ⟨⟨hname, hline, hparent, hne, hkind⟩, by rw [hevent, hsticks], hsplit.trans hparts⟩

end DocComment.Longname
