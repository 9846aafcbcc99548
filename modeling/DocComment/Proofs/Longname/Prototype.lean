import DocComment.Proofs.Longname.Split

/-! How prototypes are read. A name is read once and for all: what has been read,
and every end of it, reads as itself. A parent loses each of its prototypes, so
it stays as it is exactly when it has none; its brackets and quotes stay as they
are in any case. -/

namespace DocComment.Text

variable {rule : List Char → Option (List Char × Nat)}

theorem replaceFrom_length_append (x v : List Char) :
    replaceFrom rule x.length (x ++ v) = replaceFrom rule 0 v := by
  induction x with
  | nil => rfl
  | cons c x ih => exact ih

theorem replaceFrom_of_some {x v r : List Char} (hx : x ≠ [])
    (h : rule (x ++ v) = some (r, x.length)) :
    replaceFrom rule 0 (x ++ v) = r ++ replaceFrom rule 0 v := by
  obtain ⟨c, x, rfl⟩ := List.exists_cons_of_ne_nil hx
  rw [List.cons_append] at h ⊢
  simp only [replaceFrom, h, List.length_cons, Nat.add_sub_cancel, replaceFrom_length_append]

theorem replaceFrom_of_none {c : Char} {s : List Char} (h : rule (c :: s) = none) :
    replaceFrom rule 0 (c :: s) = c :: replaceFrom rule 0 s := by
  simp only [replaceFrom, h]

theorem replaceFrom_eq_self {s : List Char} (h : ∀ t, t <:+ s → rule t = none) :
    replaceFrom rule 0 s = s := by
  induction s with
  | nil => rfl
  | cons c s ih =>
    have hs := ih fun t ht => h t (ht.trans (List.suffix_cons c s))
    rw [replaceFrom_of_none (h _ (List.suffix_refl _)), hs]

end DocComment.Text

namespace DocComment.Longname

open Text (replaceFrom replaceFrom_eq_self replaceFrom_of_some replaceFrom_of_none)

/-- No prototype is left to be read in any end of the text. -/
def IsRead (s : List Char) : Prop := ∀ t, t <:+ s → memberRule t = none

theorem IsRead.suffix {s t : List Char} (h : IsRead s) (ht : t <:+ s) : IsRead t :=
  fun u hu => h u (hu.trans ht)

theorem memberChars_of_isRead {s : List Char} (h : IsRead s) : memberChars s = s :=
  replaceFrom_eq_self h

theorem memberRule_eq_some {s r : List Char} {k : Nat} (h : memberRule s = some (r, k)) :
    r = ['#'] ∧ ∃ v, s = prototypeName ++ v ∧ (v = [] ∨ v = ['\n'] ∨ ∃ w, v = '.' :: w) := by
  unfold memberRule at h
  split at h
  next w hw => exact ⟨by simp_all, _, Text.dropStart?_eq_some.mp hw, .inr (.inr ⟨w, rfl⟩)⟩
  next hw => exact ⟨by simp_all, _, Text.dropStart?_eq_some.mp hw, .inl rfl⟩
  next hw => exact ⟨by simp_all, _, Text.dropStart?_eq_some.mp hw, .inr (.inl rfl)⟩
  next => simp at h

theorem memberRule_ne_none {v : List Char} (h : v = [] ∨ v = ['\n'] ∨ ∃ w, v = '.' :: w) :
    memberRule (prototypeName ++ v) ≠ none := by
  have hd : Text.dropStart? prototypeName (prototypeName ++ v) = some v :=
    Text.dropStart?_eq_some.mpr rfl
  rw [memberRule, hd]
  rcases h with rfl | rfl | ⟨w, rfl⟩ <;> simp

theorem eq_append_of_replaceFrom {s u v : List Char} (hu : '#' ∉ u)
    (h : replaceFrom memberRule 0 s = u ++ v) :
    ∃ w, s = u ++ w ∧ replaceFrom memberRule 0 w = v := by
  induction u generalizing s with
  | nil => exact ⟨s, rfl, h⟩
  | cons d u ih =>
    cases s with
    | nil => simp [replaceFrom] at h
    | cons c s =>
      cases hr : memberRule (c :: s) with
      | some found =>
        obtain ⟨r, k⟩ := found
        obtain ⟨rfl, -⟩ := memberRule_eq_some hr
        simp only [replaceFrom, hr, List.cons_append, List.nil_append, List.cons.injEq] at h
        exact absurd (h.1 ▸ List.mem_cons_self) hu
      | none =>
        simp only [replaceFrom, hr, List.cons_append, List.cons.injEq] at h
        obtain ⟨w, rfl, hw⟩ := ih (fun hm => hu (List.mem_cons_of_mem d hm)) h.2
        exact ⟨w, by rw [h.1, List.cons_append], hw⟩

theorem replaceFrom_memberRule_ne_nil {s : List Char} (h : s ≠ []) :
    replaceFrom memberRule 0 s ≠ [] := by
  cases s with
  | nil => exact absurd rfl h
  | cons c s =>
    cases hr : memberRule (c :: s) with
    | some found =>
      obtain ⟨r, k⟩ := found
      obtain ⟨rfl, -⟩ := memberRule_eq_some hr
      simp [replaceFrom, hr]
    | none => simp [replaceFrom, hr]

theorem memberChars_ne_nil {s : List Char} (h : s ≠ []) : memberChars s ≠ [] :=
  replaceFrom_memberRule_ne_nil h

theorem memberRule_cons_replaceFrom {c : Char} {s : List Char} (h : memberRule (c :: s) = none) :
    memberRule (c :: replaceFrom memberRule 0 s) = none := by
  cases hr : memberRule (c :: replaceFrom memberRule 0 s) with
  | none => rfl
  | some found =>
    obtain ⟨r, k⟩ := found
    obtain ⟨-, v, hv, hend⟩ := memberRule_eq_some hr
    have hp : prototypeName = '.' :: prototypeName.tail := rfl
    rw [hp, List.cons_append, List.cons.injEq] at hv
    obtain ⟨rfl, hv⟩ := hv
    obtain ⟨w, rfl, hw⟩ := eq_append_of_replaceFrom (by decide) hv
    refine absurd h ?_
    rw [← List.cons_append, ← hp]
    apply memberRule_ne_none
    rcases hend with rfl | rfl | ⟨x, rfl⟩
    · exact .inl (Classical.byContradiction fun hne => replaceFrom_memberRule_ne_nil hne hw)
    · obtain ⟨y, rfl, hy⟩ := eq_append_of_replaceFrom (u := ['\n']) (v := []) (by decide) hw
      have : y = [] := Classical.byContradiction fun hne => replaceFrom_memberRule_ne_nil hne hy
      exact .inr (.inl (by rw [this]; rfl))
    · obtain ⟨y, rfl, -⟩ := eq_append_of_replaceFrom (u := ['.']) (v := x) (by decide) hw
      exact .inr (.inr ⟨y, rfl⟩)

theorem isRead_cons {c : Char} {s : List Char} (h : memberRule (c :: s) = none) (hs : IsRead s) :
    IsRead (c :: s) := by
  intro t ht
  rcases List.suffix_cons_iff.mp ht with rfl | ht
  · exact h
  · exact hs t ht

theorem isRead_replaceFrom (k : Nat) (s : List Char) : IsRead (replaceFrom memberRule k s) := by
  induction s generalizing k with
  | nil =>
    intro t ht
    rw [replaceFrom, List.suffix_nil] at ht
    rw [ht]
    rfl
  | cons c s ih =>
    cases k with
    | succ k => exact ih k
    | zero =>
      cases hr : memberRule (c :: s) with
      | some found =>
        obtain ⟨r, k⟩ := found
        obtain ⟨rfl, -⟩ := memberRule_eq_some hr
        simp only [replaceFrom, hr, List.cons_append, List.nil_append]
        exact isRead_cons rfl (ih (k - 1))
      | none =>
        simp only [replaceFrom, hr]
        exact isRead_cons (memberRule_cons_replaceFrom hr) (ih 0)

theorem isRead_memberChars (s : List Char) : IsRead (memberChars s) := isRead_replaceFrom 0 s

def prototypeRule (s : List Char) : Option (List Char × Nat) :=
  if prototypeName.isPrefixOf s then some (['#'], prototypeName.length) else none

theorem prototypeName_length : prototypeName.length = 9 + 1 := by decide

theorem prototypeName_ne_nil : prototypeName ≠ [] := by decide

theorem prototypeRule_of_begins {s : List Char} (h : prototypeName <+: s) :
    prototypeRule s = some (['#'], prototypeName.length) :=
  if_pos (List.isPrefixOf_iff_prefix.mpr h)

theorem prototypeRule_of_not_begins {s : List Char} (h : ¬ prototypeName <+: s) :
    prototypeRule s = none :=
  if_neg fun hp => h (List.isPrefixOf_iff_prefix.mp hp)

theorem replaceFrom_prototypeRule_prototype (v : List Char) :
    replaceFrom prototypeRule 0 (prototypeName ++ v) = '#' :: replaceFrom prototypeRule 0 v :=
  replaceFrom_of_some prototypeName_ne_nil
    (prototypeRule_of_begins (List.prefix_append prototypeName v))

theorem replaceFrom_prototypeRule_cons {c : Char} {s : List Char}
    (h : ¬ prototypeName <+: c :: s) :
    replaceFrom prototypeRule 0 (c :: s) = c :: replaceFrom prototypeRule 0 s :=
  replaceFrom_of_none (prototypeRule_of_not_begins h)

theorem parentChars_eq (s : List Char) :
    parentChars s = replaceFrom prototypeRule 0 (dropGlobalChars s) := rfl

theorem replaceFrom_prototypeRule_eq_self {s : List Char} (h : ¬ prototypeName <:+: s) :
    replaceFrom prototypeRule 0 s = s := by
  apply replaceFrom_eq_self
  intro t ht
  have hp : ¬ prototypeName <+: t := fun hp => h (List.infix_iff_prefix_suffix.mpr ⟨t, hp, ht⟩)
  exact prototypeRule_of_not_begins hp

/-- Up to its first prototype a parent stays as it is, and there it differs. -/
theorem exists_first_prototype {s : List Char} (h : prototypeName <:+: s) :
    ∃ a b c, s = a ++ '.' :: b ∧ replaceFrom prototypeRule 0 s = a ++ '#' :: c := by
  induction s with
  | nil => exact absurd (List.infix_nil.mp h) (by decide)
  | cons d s ih =>
    by_cases hp : prototypeName <+: d :: s
    · obtain ⟨t, ht⟩ := hp
      have hd : d = '.' := (List.cons.inj ht).1.symm
      exact ⟨[], s, _, by rw [hd]; rfl, by rw [← ht]; exact replaceFrom_prototypeRule_prototype t⟩
    · have hs : prototypeName <:+: s := (List.infix_cons_iff.mp h).resolve_left hp
      obtain ⟨a, b, c, rfl, hc⟩ := ih hs
      exact ⟨d :: a, b, c, rfl, by rw [replaceFrom_prototypeRule_cons hp, hc]; rfl⟩

theorem parentChars_eq_self_iff {s : List Char} :
    parentChars s = dropGlobalChars s ↔ ¬ prototypeName <:+: dropGlobalChars s := by
  rw [parentChars_eq]
  refine ⟨fun h hp => ?_, replaceFrom_prototypeRule_eq_self⟩
  obtain ⟨a, b, c, hs, hc⟩ := exists_first_prototype hp
  rw [h, hs] at hc
  simp at hc

theorem parentChars_eq_nil_iff {s : List Char} : parentChars s = [] ↔ dropGlobalChars s = [] := by
  rw [parentChars_eq]
  cases dropGlobalChars s with
  | nil => simp [replaceFrom]
  | cons c s =>
    by_cases hp : prototypeName <+: c :: s
    · simp [replaceFrom, prototypeRule_of_begins hp]
    · simp [replaceFrom, prototypeRule_of_not_begins hp]

theorem length_replaceFrom_prototypeRule_le (k : Nat) (s : List Char) :
    (replaceFrom prototypeRule k s).length ≤ s.length := by
  induction s generalizing k with
  | nil => simp [replaceFrom]
  | cons c s ih =>
    cases k with
    | succ k => exact Nat.le_succ_of_le (ih k)
    | zero =>
      have h₀ := ih 0
      have h₉ := ih (prototypeName.length - 1)
      by_cases hp : prototypeName <+: c :: s
      · simp [replaceFrom, prototypeRule_of_begins hp]
        omega
      · simp [replaceFrom, prototypeRule_of_not_begins hp]
        omega

theorem length_parentChars_le (s : List Char) :
    (parentChars s).length ≤ (dropGlobalChars s).length :=
  length_replaceFrom_prototypeRule_le 0 _

theorem parentChars_eq_of_not_mem {s : List Char} (h : '#' ∉ parentChars s) :
    parentChars s = dropGlobalChars s := by
  rw [parentChars_eq_self_iff]
  intro hp
  obtain ⟨a, b, c, -, hc⟩ := exists_first_prototype hp
  rw [parentChars_eq, hc] at h
  simp at h

section Nesting

/-- The search waits for quotes only. -/
def Nesting.IsProper (n : Nesting) : Prop := ∀ q, n.quote = some q → q = '"' ∨ q = '\''

/-- A character that opens and closes nothing. -/
def IsPlain (c : Char) : Prop :=
  c ≠ '"' ∧ c ≠ '\'' ∧ Nesting.isOpening c = false ∧ Nesting.isClosing c = false

theorem Nesting.IsProper.step {n : Nesting} (h : n.IsProper) (c : Char) : (n.step c).IsProper := by
  intro q hq
  unfold Nesting.step at hq
  split at hq
  next p hp =>
    split at hq
    · simp at hq
    · exact h q hq
  next hp =>
    split at hq
    next hc =>
      obtain rfl : c = q := by simpa using hq
      simpa using hc
    next => split at hq <;> (try split at hq) <;> simp [hp] at hq

theorem Nesting.IsProper.step_plain {n : Nesting} (h : n.IsProper) {c : Char} (hc : IsPlain c) :
    n.step c = n := by
  obtain ⟨h₁, h₂, h₃, h₄⟩ := hc
  unfold Nesting.step
  split
  next q hq =>
    have hne : c ≠ q := by
      rintro rfl
      rcases h c hq with rfl | rfl
      · exact h₁ rfl
      · exact h₂ rfl
    simp [hne]
  next => simp [h₁, h₂, h₃, h₄]

instance (c : Char) : Decidable (IsPlain c) := inferInstanceAs (Decidable (_ ∧ _))

theorem isPlain_of_mem_prototypeName {c : Char} (h : c ∈ prototypeName) : IsPlain c := by
  have hall : prototypeName.all (fun c => decide (IsPlain c)) = true := by decide
  exact of_decide_eq_true (List.all_eq_true.mp hall c h)

/-- The characters that a replacement swallows and the one that it puts in are
plain, so the search passes through both texts alike. -/
theorem after_replaceFrom_prototypeRule {n : Nesting} (hn : n.IsProper) (k : Nat) (s : List Char)
    (hk : ∀ c ∈ s.take k, IsPlain c) :
    n.after (replaceFrom prototypeRule k s) = n.after s := by
  induction s generalizing n k with
  | nil => rfl
  | cons c s ih =>
    cases k with
    | succ k =>
      have hc : IsPlain c := hk c (by simp)
      rw [replaceFrom, ih hn k (fun d hd => hk d (by simp [hd])), Nesting.after_cons,
        hn.step_plain hc]
    | zero =>
      by_cases hp : prototypeName <+: c :: s
      · have hr := prototypeRule_of_begins hp
        have hplain : ∀ d ∈ (c :: s).take prototypeName.length, IsPlain d := by
          rw [← List.prefix_iff_eq_take.mp hp]
          exact fun d => isPlain_of_mem_prototypeName
        rw [prototypeName_length, List.take_succ_cons] at hplain
        have hc : IsPlain c := hplain c List.mem_cons_self
        have hs := ih hn 9 fun d hd => hplain d (List.mem_cons_of_mem c hd)
        simp only [replaceFrom, hr, List.cons_append, List.nil_append, Nesting.after_cons,
          prototypeName_length, Nat.add_sub_cancel]
        rw [hn.step_plain (c := '#') (by decide), hs, hn.step_plain hc]
      · rw [replaceFrom_prototypeRule_cons hp, Nesting.after_cons, Nesting.after_cons]
        exact ih (hn.step c) 0 (by simp)

theorem Nesting.isProper_empty : Nesting.IsProper {} := by
  intro q hq
  simp at hq

theorem after_dropGlobalChars (s : List Char) :
    Nesting.after {} (dropGlobalChars s) = Nesting.after {} s := by
  unfold dropGlobalChars
  split
  next rest h => rw [Text.dropStart?_eq_some.mp h, Nesting.after_append]; rfl
  next rest _ h => rw [Text.dropStart?_eq_some.mp h, Nesting.after_append]; rfl
  next => rfl

theorem after_parentChars (s : List Char) :
    Nesting.after {} (parentChars s) = Nesting.after {} s := by
  rw [parentChars_eq, after_replaceFrom_prototypeRule Nesting.isProper_empty 0 _ (by simp),
    after_dropGlobalChars]

end Nesting

end DocComment.Longname
