import DocComment.Proofs.Longname.Written

/-! The two readings of a prototype side by side. A parent gives up each
`.prototype` wherever it stands and keeps the point after it. A name gives one up
only before a point, which goes too, or at the end. So both are read alike
exactly when no prototype stands before the end. -/

namespace DocComment.Longname

open Text (replaceFrom replaceFrom_of_some replaceFrom_of_none)

section Member

theorem memberRule_of_not_prototype {s : List Char} (h : ¬ prototypeName <+: s) :
    memberRule s = none := by
  cases hr : memberRule s with
  | none => rfl
  | some found =>
    obtain ⟨r, k⟩ := found
    obtain ⟨-, v, rfl, -⟩ := memberRule_eq_some hr
    exact absurd (List.prefix_append prototypeName v) h

theorem memberChars_cons {c : Char} {s : List Char} (h : memberRule (c :: s) = none) :
    memberChars (c :: s) = c :: memberChars s :=
  replaceFrom_of_none h

theorem memberChars_point (w : List Char) :
    memberChars (prototypeName ++ '.' :: w) = '#' :: memberChars w := by
  have hsplit : prototypeName ++ '.' :: w = (prototypeName ++ ['.']) ++ w := by simp
  have hd : Text.dropStart? prototypeName (prototypeName ++ '.' :: w) = some ('.' :: w) :=
    Text.dropStart?_eq_some.mpr rfl
  have hr : memberRule ((prototypeName ++ ['.']) ++ w) =
      some (['#'], (prototypeName ++ ['.']).length) := by
    rw [← hsplit, memberRule, hd, List.length_append]
    rfl
  rw [hsplit]
  exact replaceFrom_of_some (by simp) hr

theorem memberChars_end {v : List Char} (h : v = [] ∨ v = ['\n']) :
    memberChars (prototypeName ++ v) = '#' :: v := by
  have hd : Text.dropStart? prototypeName (prototypeName ++ v) = some v :=
    Text.dropStart?_eq_some.mpr rfl
  have hr : memberRule (prototypeName ++ v) = some (['#'], prototypeName.length) := by
    rw [memberRule, hd]
    rcases h with rfl | rfl <;> rfl
  have hv : memberChars v = v := by
    rcases h with rfl | rfl <;> rfl
  have hs : memberChars (prototypeName ++ v) = ['#'] ++ memberChars v :=
    replaceFrom_of_some prototypeName_ne_nil hr
  rw [hs, hv]
  rfl

theorem head?_memberChars_of_some {s : List Char} (h : memberRule s ≠ none) :
    ∃ t, memberChars s = '#' :: t := by
  obtain ⟨⟨r, k⟩, hr⟩ := Option.ne_none_iff_exists'.mp h
  obtain ⟨-, v, rfl, rfl | rfl | ⟨w, rfl⟩⟩ := memberRule_eq_some hr
  · exact ⟨[], memberChars_end (.inl rfl)⟩
  · exact ⟨['\n'], memberChars_end (.inr rfl)⟩
  · exact ⟨memberChars w, memberChars_point w⟩

/-- A text without a point is passed over. -/
theorem memberChars_append_of_notMem {u : List Char} (h : '.' ∉ u) (v : List Char) :
    memberChars (u ++ v) = u ++ memberChars v := by
  induction u with
  | nil => rfl
  | cons c u ih =>
    have hc : '.' ≠ c := fun he => h (he ▸ List.mem_cons_self)
    have hu : '.' ∉ u := fun hm => h (List.mem_cons_of_mem c hm)
    have hp : ¬ prototypeName <+: c :: (u ++ v) := fun hp => hc (List.cons_prefix_cons.mp hp).1
    rw [List.cons_append, memberChars_cons (memberRule_of_not_prototype hp), ih hu,
      List.cons_append]

end Member

section Alike

/-- A prototype stands at the end only, perhaps before a line end. -/
def PrototypeEnds (s : List Char) : Prop :=
  ∀ before after, s = before ++ prototypeName ++ after → after = [] ∨ after = ['\n']

theorem prototypeEnds_cons {c : Char} {s : List Char} (h : ¬ prototypeName <+: c :: s) :
    PrototypeEnds (c :: s) ↔ PrototypeEnds s := by
  constructor
  · intro hs before after he
    exact hs (c :: before) after (by rw [he]; rfl)
  · intro hs before after he
    cases before with
    | nil => exact absurd ⟨after, he.symm⟩ h
    | cons d before =>
      have htail : s = before ++ prototypeName ++ after := (List.cons.inj he).2
      exact hs before after htail

/-- The point that a parent keeps is never made up for by what follows it. -/
theorem replaceFrom_point_ne_memberChars (r : List Char) :
    replaceFrom prototypeRule 0 ('.' :: r) ≠ memberChars r := by
  induction r with
  | nil => decide
  | cons c r ih =>
    intro he
    by_cases hp : prototypeName <+: '.' :: c :: r
    · obtain ⟨v, hv⟩ := hp
      have hc : c = 'p' := (List.cons.inj (List.cons.inj hv).2).1.symm
      have hr : ¬ prototypeName <+: c :: r := by
        rw [hc]
        exact fun h => absurd (List.cons_prefix_cons.mp h).1 (by decide)
      rw [← hv, replaceFrom_prototypeRule_prototype,
        memberChars_cons (memberRule_of_not_prototype hr), hc] at he
      exact absurd (List.cons.inj he).1 (by decide)
    · rw [replaceFrom_prototypeRule_cons hp] at he
      by_cases hr : memberRule (c :: r) = none
      · rw [memberChars_cons hr] at he
        obtain ⟨rfl, htail⟩ := List.cons.inj he
        exact ih htail
      · obtain ⟨t, ht⟩ := head?_memberChars_of_some hr
        rw [ht] at he
        exact absurd (List.cons.inj he).1 (by decide)

theorem prototypeEnds_prototype_iff {v : List Char} :
    PrototypeEnds (prototypeName ++ v) ↔ v = [] ∨ v = ['\n'] := by
  refine ⟨fun h => h [] v rfl, fun hv before after he => ?_⟩
  cases before with
  | nil => exact List.append_cancel_left he ▸ hv
  | cons d before =>
    -- one more character in front leaves none behind
    have hlen := congrArg List.length he
    have hshort : v.length ≤ 1 := by rcases hv with rfl | rfl <;> simp
    simp only [List.length_append, List.length_cons] at hlen
    exact .inl (List.length_eq_zero_iff.mp (by omega))

theorem replaceFrom_eq_memberChars_prototype_iff (v : List Char) :
    replaceFrom prototypeRule 0 (prototypeName ++ v) = memberChars (prototypeName ++ v) ↔
      v = [] ∨ v = ['\n'] := by
  rw [replaceFrom_prototypeRule_prototype]
  by_cases hend : v = [] ∨ v = ['\n']
  · have hparent : replaceFrom prototypeRule 0 v = v := by
      rcases hend with rfl | rfl <;> rfl
    rw [memberChars_end hend, hparent]
    exact iff_of_true rfl hend
  · refine iff_of_false (fun he => ?_) hend
    by_cases hr : memberRule (prototypeName ++ v) = none
    · have hmember : memberChars (prototypeName ++ v) =
          '.' :: memberChars (prototypeName.tail ++ v) := memberChars_cons hr
      rw [hmember] at he
      exact absurd (List.cons.inj he).1 (by decide)
    · obtain ⟨⟨r, k⟩, hfound⟩ := Option.ne_none_iff_exists'.mp hr
      obtain ⟨-, u, hu, hcases⟩ := memberRule_eq_some hfound
      obtain rfl := List.append_cancel_left hu
      rcases hcases with h | h | ⟨w, rfl⟩
      · exact hend (.inl h)
      · exact hend (.inr h)
      · rw [memberChars_point] at he
        exact replaceFrom_point_ne_memberChars w (List.cons.inj he).2

theorem replaceFrom_eq_memberChars_iff (s : List Char) :
    replaceFrom prototypeRule 0 s = memberChars s ↔ PrototypeEnds s := by
  induction s with
  | nil =>
    refine iff_of_true rfl fun before after he => ?_
    have hlen := congrArg List.length he
    simp only [List.length_append, List.length_nil, prototypeName_length] at hlen
    omega
  | cons c s ih =>
    by_cases hp : prototypeName <+: c :: s
    · obtain ⟨v, hv⟩ := hp
      rw [← hv, replaceFrom_eq_memberChars_prototype_iff, prototypeEnds_prototype_iff]
    · rw [replaceFrom_prototypeRule_cons hp, memberChars_cons (memberRule_of_not_prototype hp),
        prototypeEnds_cons hp, ← ih]
      exact ⟨fun he => (List.cons.inj he).2, fun he => by rw [he]⟩

end Alike

section Global

/-- The name of the global object stands before a prototype that a name gives
up. -/
def IsGlobalPrototype (s : List Char) : Prop := ∃ v, s = globalName ++ v ∧ memberRule v ≠ none

theorem dropGlobalChars_memberChars {s : List Char} (h : ¬ IsGlobalPrototype s) :
    dropGlobalChars (memberChars s) = memberChars (dropGlobalChars s) := by
  have hpoint : '.' ∉ globalName := by decide
  by_cases hg : globalName <+: s
  · obtain ⟨v, rfl⟩ := hg
    have hv : memberRule v = none := Classical.byContradiction fun hv => h ⟨v, rfl, hv⟩
    rw [memberChars_append_of_notMem hpoint]
    cases v with
    | nil => decide
    | cons c w =>
      rw [memberChars_cons hv]
      by_cases hc : c = '.'
      · rw [hc, dropGlobalChars_point, dropGlobalChars_point]
      · rw [dropGlobalChars_other (fun t ht => hc (List.cons.inj ht).1),
          dropGlobalChars_other (fun t ht => hc (List.cons.inj ht).1), memberChars_cons hv]
  · have hm : ¬ globalName <+: memberChars s := by
      rintro ⟨v, hv⟩
      obtain ⟨w, rfl, -⟩ := eq_append_of_replaceFrom (by decide) hv.symm
      exact hg (List.prefix_append globalName w)
    rw [dropGlobalChars_of_not_global hg, dropGlobalChars_of_not_global hm]

theorem parentChars_ne_of_global {s : List Char} (h : IsGlobalPrototype s) :
    parentChars s ≠ dropGlobalChars (memberChars s) := by
  obtain ⟨v, rfl, hv⟩ := h
  obtain ⟨t, ht⟩ := head?_memberChars_of_some hv
  have hmember : dropGlobalChars (memberChars (globalName ++ v)) = '#' :: t := by
    rw [memberChars_append_of_notMem (by decide), ht,
      dropGlobalChars_other (fun u hu => absurd (List.cons.inj hu).1 (by decide))]
  obtain ⟨⟨r, k⟩, hr⟩ := Option.ne_none_iff_exists'.mp hv
  obtain ⟨-, w, rfl, -⟩ := memberRule_eq_some hr
  have hdrop : dropGlobalChars (globalName ++ (prototypeName ++ w)) = prototypeName.tail ++ w :=
    dropGlobalChars_point _
  have hparent : parentChars (globalName ++ (prototypeName ++ w)) =
      'p' :: replaceFrom prototypeRule 0 ("rototype".toList ++ w) := by
    rw [parentChars_eq, hdrop]
    exact replaceFrom_prototypeRule_cons fun hp =>
      absurd (List.cons_prefix_cons.mp hp).1 (by decide)
  rw [hmember, hparent]
  exact fun he => absurd (List.cons.inj he).1 (by decide)

theorem parentChars_eq_memberChars_iff (s : List Char) :
    parentChars s = memberChars (dropGlobalChars s) ↔ PrototypeEnds (dropGlobalChars s) := by
  rw [parentChars_eq]
  exact replaceFrom_eq_memberChars_iff (dropGlobalChars s)

theorem parentChars_eq_dropGlobalChars_iff (s : List Char) :
    parentChars s = dropGlobalChars (memberChars s) ↔
      PrototypeEnds (dropGlobalChars s) ∧ ¬ IsGlobalPrototype s := by
  by_cases hg : IsGlobalPrototype s
  · exact iff_of_false (parentChars_ne_of_global hg) fun h => h.2 hg
  · rw [dropGlobalChars_memberChars hg, parentChars_eq_memberChars_iff]
    exact ⟨fun h => ⟨h, hg⟩, fun h => h.1⟩

end Global

end DocComment.Longname
