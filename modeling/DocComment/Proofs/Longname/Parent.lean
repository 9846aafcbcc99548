import DocComment.Proofs.Longname.Written

/-! When a written longname begins with its parent and a mark. It does for most
parents. It need not when a namespace is put into the parent, when the parent has
lost a prototype, and when the parent begins with the name of the global object,
which goes from the longname but stays in the parent. -/

namespace DocComment.Longname

section Period

variable {h s r t : List Char}

/-- A text that repeats `h` as far as it goes holds nothing else. -/
theorem mem_of_prefix_append (hh : h ≠ []) (h₁ : t <+: h ++ s) (h₂ : t <+: s ++ r) :
    ∀ c ∈ t, c ∈ h := by
  induction hn : t.length using Nat.strongRecOn generalizing t with
  | ind n ih =>
    rcases List.prefix_or_prefix_of_prefix h₁ (List.prefix_append h s) with hp | ⟨q, rfl⟩
    · exact fun c hc => hp.subset hc
    · have hq : q <+: s := (List.prefix_append_right_inj h).mp h₁
      have hqs : q <+: s ++ r := hq.trans (List.prefix_append s r)
      have hqt : q <+: h ++ q := List.prefix_of_prefix_length_le hqs h₂ (by simp)
      have hlen : q.length < n := by
        have := List.length_pos_iff.mpr hh
        rw [← hn, List.length_append]
        omega
      have hmem := ih q.length hlen (hqt.trans h₁) hqs rfl
      intro c hc
      rcases List.mem_append.mp hc with hc | hc
      · exact hc
      · exact hmem c hc

/-- The name of the global object and the point after it. -/
def globalPoint : List Char := globalName ++ ['.']

theorem eq_replicate_of_prefix {k : Char} (hk : isMark k = true)
    (h₁ : t ++ [k] <+: globalPoint ++ s) (h₂ : t ++ [k] <+: s ++ r) :
    ∃ j, t ++ [k] = (List.replicate (j + 1) globalPoint).flatten := by
  induction hn : t.length using Nat.strongRecOn generalizing t with
  | ind n ih =>
    rcases List.prefix_or_prefix_of_prefix h₁ (List.prefix_append globalPoint s) with
      ⟨q, hq⟩ | ⟨q, hq⟩
    · rcases List.eq_nil_or_concat q with rfl | ⟨q, c, rfl⟩
      · exact ⟨0, by simpa using hq⟩
      · have happ : (t ++ [k] ++ q) ++ [c] = globalName ++ ['.'] := by simpa [globalPoint] using hq
        have hmem : k ∈ globalName := by
          rw [← (List.append_inj' happ rfl).1]
          simp
        rw [isMark_of_mem_globalName hmem] at hk
        simp at hk
    · rcases List.eq_nil_or_concat q with rfl | ⟨q, c, rfl⟩
      · exact ⟨0, by simpa using hq.symm⟩
      · have happ : (globalPoint ++ q) ++ [c] = t ++ [k] := by simpa using hq
        obtain ⟨ht, hc⟩ := List.append_inj' happ rfl
        obtain rfl : c = k := by simpa using hc
        rw [← ht] at h₁ h₂ hn
        have hqs : q ++ [c] <+: s := by
          rw [List.append_assoc] at h₁
          exact (List.prefix_append_right_inj globalPoint).mp h₁
        have hqr : q ++ [c] <+: s ++ r := hqs.trans (List.prefix_append s r)
        have hqt : q ++ [c] <+: globalPoint ++ q ++ [c] :=
          List.prefix_of_prefix_length_le hqr h₂ (by simp)
        have hlen : q.length < n := by
          rw [← hn, List.length_append]
          simp [globalPoint]
        obtain ⟨j, hj⟩ := ih q.length hlen (hqt.trans h₁) hqr rfl
        refine ⟨j + 1, ?_⟩
        rw [← ht, List.append_assoc, hj]
        rfl

end Period

/-- What stands after a longname: nothing, or something in brackets. -/
def IsShown (s : List Char) : Prop := s = [] ∨ ∃ t, s = '(' :: t

theorem IsShown.prefix_iff {shown s t : List Char} (h : IsShown shown) (ht : '(' ∉ t) :
    t <+: s ++ shown ↔ t <+: s := by
  refine ⟨fun hp => ?_, fun hp => hp.trans (List.prefix_append s shown)⟩
  rcases List.prefix_or_prefix_of_prefix hp (List.prefix_append s shown) with hts | ⟨q, rfl⟩
  · exact hts
  · have hq : q <+: shown := (List.prefix_append_right_inj s).mp hp
    rcases h with rfl | ⟨u, rfl⟩
    · rw [List.append_nil] at hp
      exact hp
    · rcases List.prefix_cons_iff.mp hq with rfl | ⟨v, rfl, -⟩
      · exact ⟨[], by simp⟩
      · simp at ht

/-- The namespaces hold no mark, and do not look like the global object. -/
def IsNamespace (kind : Option (List Char)) : Prop :=
  ∀ k, kind = some k → k ≠ [] ∧ ∀ c ∈ k, isMark c = false ∧ c ≠ '<'

section Written

variable {kind : Option (List Char)} {m b p shown : List Char} {k mark : Char}

theorem written_cases (kind : Option (List Char)) (s : List Char) :
    ((kind = none ∨ isNamespaced (splitChars (dropGlobalChars s)).name = true) ∧
        written kind s = dropGlobalChars s) ∨
      ∃ w, kind = some w ∧ isNamespaced (splitChars (dropGlobalChars s)).name = false ∧
        written kind s = (splitChars (dropGlobalChars s)).parent ++
          (splitChars (dropGlobalChars s)).mark.toList ++
            (w ++ ':' :: (splitChars (dropGlobalChars s)).name) := by
  cases kind with
  | none => exact .inl ⟨.inl rfl, rfl⟩
  | some w =>
    cases hn : isNamespaced (splitChars (dropGlobalChars s)).name with
    | true => exact .inl ⟨.inr rfl, by simp [written, addNamespaceChars, hn]⟩
    | false => exact .inr ⟨w, rfl, rfl, by simp [written, addNamespaceChars, hn]⟩

theorem mem_of_append_eq_concat {u v t : List Char} {c : Char} (h : u ++ v = t ++ [c])
    (hlen : u.length < t.length + 1) : c ∈ v := by
  rcases List.eq_nil_or_concat v with rfl | ⟨v, d, rfl⟩
  · have := congrArg List.length h
    simp at this
    omega
  · have happ : (u ++ v) ++ [d] = t ++ [c] := by simpa using h
    have hd := (List.append_inj' happ rfl).2
    simp_all

theorem parent_length_of_splitChars (s : List Char) :
    (splitChars s).mark.toList.length ≤ 1 ∧
      ((splitChars s).parent.length = 0 ∨ (splitChars s).mark.toList.length = 1) := by
  rcases splitChars_cases s with h | ⟨p, c, b, h, -⟩ <;> simp [h]

theorem parent_of_splitChars (s : List Char) :
    (splitChars s).parent ++ (splitChars s).mark.toList = [] ∨
      ∃ t c, (splitChars s).parent ++ (splitChars s).mark.toList = t ++ [c] ∧ isMark c = true := by
  rcases splitChars_cases s with h | ⟨p, c, b, h, -, -, hc, -⟩
  · exact .inl (by simp [h])
  · exact .inr ⟨p, c, by simp [h], hc⟩

theorem not_global_append (hg : ¬ globalName <+: m) (hk : isMark k = true) :
    ¬ globalName <+: m ++ k :: b := by
  intro h
  have hmk : m ++ [k] <+: m ++ k :: b := ⟨b, by simp⟩
  rcases List.prefix_or_prefix_of_prefix h (List.prefix_append m (k :: b)) with hp | hp
  · exact hg hp
  · rcases List.prefix_or_prefix_of_prefix h hmk with hp' | hp'
    · rcases List.prefix_concat_iff.mp hp' with heq | hp'
      · have hmem : k ∈ globalName := by simp [heq]
        rw [isMark_of_mem_globalName hmem] at hk
        simp at hk
      · exact hg hp'
    · have hmem : k ∈ globalName := hp'.subset (by simp)
      rw [isMark_of_mem_globalName hmem] at hk
      simp at hk

/-- A namespace goes before the last part only, so the longname begins with a
parent that reaches no further. -/
theorem prefix_written_iff (hkind : IsNamespace kind) (hg : ¬ globalName <+: m) (hm : m ≠ [])
    (hk : isMark k = true) :
    m ++ [k] <+: written kind (m ++ k :: b) ++ shown ↔
      kind = none ∨ isNamespaced (splitChars (m ++ k :: b)).name = true ∨
        m.length ≤ (splitChars (m ++ k :: b)).parent.length := by
  have hd : dropGlobalChars (m ++ k :: b) = m ++ k :: b :=
    dropGlobalChars_of_not_global (not_global_append hg hk)
  have hself : m ++ [k] <+: m ++ k :: b := ⟨b, by simp⟩
  have hcases := written_cases kind (m ++ k :: b)
  rw [hd] at hcases
  rcases hcases with ⟨hplain, hw⟩ | ⟨w, rfl, hn, hw⟩
  · rw [hw]
    refine iff_of_true (hself.trans (List.prefix_append _ _)) ?_
    rcases hplain with h | h
    · exact .inl h
    · exact .inr (.inl h)
  · obtain ⟨hne, hword⟩ := hkind w rfl
    have hjoin : (splitChars (m ++ k :: b)).parent ++ (splitChars (m ++ k :: b)).mark.toList ++
        (splitChars (m ++ k :: b)).name = m ++ k :: b := join_splitChars _
    have hreach := parent_length_of_splitChars (m ++ k :: b)
    rw [hw, hn]
    generalize splitChars (m ++ k :: b) = parts at hjoin hreach ⊢
    generalize hfront : parts.parent ++ parts.mark.toList = front at hjoin ⊢
    have hlen := congrArg List.length hfront
    rw [List.length_append] at hlen
    have hm' := List.length_pos_iff.mpr hm
    by_cases hle : m.length + 1 ≤ front.length
    · have h : m ++ [k] <+: front :=
        List.prefix_of_prefix_length_le hself ⟨parts.name, hjoin⟩ (by simpa using hle)
      refine iff_of_true (h.trans ⟨w ++ ':' :: parts.name ++ shown, by simp⟩) (.inr (.inr ?_))
      omega
    · -- the namespace stands inside of the parent, and would have to hold its mark
      obtain ⟨u, hu⟩ : front <+: m ++ [k] :=
        List.prefix_of_prefix_length_le ⟨parts.name, hjoin⟩ hself (by simp; omega)
      have hname : parts.name = u ++ b := by
        have happ : front ++ parts.name = front ++ (u ++ b) := by
          rw [hjoin, ← List.append_assoc, hu]
          simp
        exact List.append_cancel_left happ
      refine iff_of_false (fun h => ?_) ?_
      · have hmem : k ∈ u := mem_of_append_eq_concat hu (by simpa using hle)
        rw [← hu, List.append_assoc, List.prefix_append_right_inj] at h
        have hrest : u <+: (w ++ [':']) ++ (parts.name ++ shown) := by simpa using h
        have hagain : u <+: (parts.name ++ shown) ++ [] := by
          rw [hname]
          exact ⟨b ++ shown, by simp⟩
        have hwhere := List.mem_append.mp (mem_of_prefix_append (by simp) hrest hagain k hmem)
        rcases hwhere with hkw | hkw
        · rw [(hword k hkw).1] at hk
          simp at hk
        · obtain rfl : k = ':' := by simpa using hkw
          simp [isMark, marks] at hk
      · rintro (h | h | h)
        · simp at h
        · simp at h
        · omega

theorem le_length_parent_splitChars (hm : m ≠ []) (ha : Nesting.after {} m = {})
    (hk : isMark k = true) : m.length ≤ (splitChars (m ++ k :: b)).parent.length := by
  obtain ⟨c, m, rfl⟩ := List.exists_cons_of_ne_nil hm
  have hm' : (Nesting.step {} c).after m = {} := ha
  rcases hs : splitLast (Nesting.step {} c) (m ++ k :: b) with _ | ⟨x, d, y⟩
  · exact absurd hm' (after_ne_of_splitLast_eq_none hs hk)
  · obtain ⟨heq, hd, hx, hy⟩ := splitLast_eq_some hs
    have hparent : (splitChars (c :: m ++ k :: b)).parent = c :: x := by
      rw [List.cons_append]
      simp [splitChars, hs]
    rw [hparent]
    refine Nat.succ_le_succ (Nat.le_of_not_lt fun hlt => ?_)
    -- the mark would then stand outside in what follows the place to split
    obtain ⟨z, hz⟩ : x ++ [d] <+: m :=
      List.prefix_of_prefix_length_le ⟨y, by rw [heq]; simp⟩ (List.prefix_append m (k :: b))
        (by rw [List.length_append]; exact hlt)
    have hyz : y = z ++ k :: b := by
      have happ : x ++ [d] ++ y = x ++ [d] ++ (z ++ k :: b) := by
        rw [← List.append_assoc, hz, heq]
        simp
      exact List.append_cancel_left happ
    rw [hyz] at hy
    refine after_ne_of_splitLast_eq_none hy hk ?_
    rw [← hz, Nesting.after_append, Nesting.after_append, hx] at hm'
    simpa [Nesting.step_mark hd] using hm'

theorem global_cases (hg : globalName <+: m) (k : Char) :
    ∃ h s, (h = globalPoint ∨ h = globalName) ∧ m ++ [k] = h ++ s ∧
      ∀ b, dropGlobalChars (m ++ k :: b) = s ++ b := by
  obtain ⟨t, rfl⟩ := hg
  by_cases hpoint : ∃ u, t ++ [k] = '.' :: u
  · obtain ⟨u, hu⟩ := hpoint
    refine ⟨globalPoint, u, .inl rfl, by simp [globalPoint, hu], fun b => ?_⟩
    have hrest : globalName ++ t ++ k :: b = globalName ++ '.' :: (u ++ b) := by
      rw [← List.cons_append, ← hu]
      simp
    rw [hrest, dropGlobalChars_point]
  · refine ⟨globalName, t ++ [k], .inr rfl, by simp, fun b => ?_⟩
    have hrest : globalName ++ t ++ k :: b = globalName ++ (t ++ [k] ++ b) := by simp
    rw [hrest, dropGlobalChars_other]
    intro u hu
    cases t with
    | nil => exact hpoint ⟨[], by simpa using (List.cons.inj hu).1⟩
    | cons c t => exact hpoint ⟨t ++ [k], by rw [← (List.cons.inj hu).1]; rfl⟩

/-- The text repeats the name of the global object with a point after it. -/
def IsGlobalChain (s : List Char) : Prop :=
  ∃ j, s = (List.replicate (j + 1) globalPoint).flatten

theorem globalChain_of_prefix {h s : List Char} (hh : h = globalPoint ∨ h = globalName)
    (hk : isMark k = true) (h₁ : p ++ [k] <+: h ++ s) (h₂ : p ++ [k] <+: s ++ b) :
    h = globalPoint ∧ IsGlobalChain (p ++ [k]) := by
  rcases hh with rfl | rfl
  · exact ⟨rfl, eq_replicate_of_prefix hk h₁ h₂⟩
  · have hmem := mem_of_prefix_append (by decide) h₁ h₂ k (by simp)
    rw [isMark_of_mem_globalName hmem] at hk
    simp at hk

theorem IsGlobalChain.exists_front {s u : List Char} (hc : IsGlobalChain p)
    (hs : p ++ u = globalPoint ++ s) : ∃ front, p = front ++ globalPoint ∧ s = front ++ u := by
  obtain ⟨j, rfl⟩ := hc
  refine ⟨(List.replicate j globalPoint).flatten, ?_, ?_⟩
  · rw [List.replicate_succ', List.flatten_append]
    simp
  · rw [List.replicate_succ, List.flatten_cons, List.append_assoc] at hs
    exact (List.append_cancel_left hs).symm

theorem IsGlobalChain.after_eq (hc : IsGlobalChain (m ++ [k])) :
    m ≠ [] ∧ Nesting.after {} m = {} := by
  obtain ⟨j, hj⟩ := hc
  have hchain : ∀ i, Nesting.after {} (List.replicate i globalPoint).flatten = {} := by
    intro i
    induction i with
    | zero => rfl
    | succ i ih =>
      rw [List.replicate_succ, List.flatten_cons, Nesting.after_append]
      exact ih
  have happ : m ++ [k] = ((List.replicate j globalPoint).flatten ++ globalName) ++ ['.'] := by
    rw [hj, List.replicate_succ', List.flatten_append]
    simp [globalPoint]
  have hm : m = (List.replicate j globalPoint).flatten ++ globalName :=
    (List.append_inj' happ (by simp)).1
  rw [hm]
  refine ⟨List.append_ne_nil_of_right_ne_nil _ (by decide), ?_⟩
  rw [Nesting.after_append, hchain j]
  decide

theorem IsGlobalChain.dropGlobalChars_append (hc : IsGlobalChain (m ++ [k])) (b : List Char) :
    dropGlobalChars (m ++ k :: (globalPoint ++ b)) = m ++ k :: b := by
  obtain ⟨j, hj⟩ := hc
  have hx : m ++ k :: (globalPoint ++ b) =
      globalName ++ '.' :: ((List.replicate j globalPoint).flatten ++ globalPoint ++ b) := by
    have happ : m ++ k :: (globalPoint ++ b) = (m ++ [k]) ++ (globalPoint ++ b) := by simp
    rw [happ, hj, List.replicate_succ, List.flatten_cons]
    simp [globalPoint]
  have hy : (List.replicate j globalPoint).flatten ++ globalPoint = m ++ [k] := by
    rw [hj, List.replicate_succ', List.flatten_append]
    simp
  rw [hx, dropGlobalChars_point, hy]
  simp

section Global

variable {h s : List Char} (hh : h = globalPoint ∨ h = globalName) (hms : m ++ [k] = h ++ s)

include hh hms

theorem globalChain_of_prefix_rest (hk : isMark k = true) (hs : IsShown shown)
    (hp : m ++ [k] <+: s ++ b ++ shown) :
    IsGlobalChain (m ++ [k]) ∧ globalPoint <+: b := by
  rw [List.append_assoc] at hp
  obtain ⟨rfl, hc⟩ := globalChain_of_prefix hh hk (hms ▸ List.prefix_refl _) hp
  obtain ⟨front, hfront, hsf⟩ := hc.exists_front (u := []) (by rw [List.append_nil, hms])
  rw [List.append_nil] at hsf
  rw [hfront, hsf, List.prefix_append_right_inj, hs.prefix_iff (by decide)] at hp
  exact ⟨hc, hp⟩

theorem namespace_not_in_global {front u w name : List Char} (hw : w ≠ [])
    (hword : ∀ c ∈ w, isMark c = false ∧ c ≠ '<') (hu : front ++ u = m ++ [k]) (hne : u ≠ [])
    (hfront : front = [] ∨ ∃ t c, front = t ++ [c] ∧ isMark c = true)
    (hname : s ++ b = front ++ name) : ¬ u <+: w ++ ':' :: name ++ shown := by
  intro hp
  obtain ⟨c, w, rfl⟩ := List.exists_cons_of_ne_nil hw
  obtain ⟨d, u, rfl⟩ := List.exists_cons_of_ne_nil hne
  obtain ⟨z, hz⟩ := hp
  obtain rfl : d = c := (List.cons.inj hz).1
  have hd : d ≠ '<' := (hword d (by simp)).2
  rcases hfront with rfl | ⟨t, e, rfl, he⟩
  · rw [hms] at hu
    rcases hh with rfl | rfl <;> exact hd (List.cons.inj hu).1
  · have h₁ : t ++ [e] <+: h ++ s := ⟨d :: u, by rw [hu, hms]⟩
    have h₂ : t ++ [e] <+: s ++ b := ⟨name, hname.symm⟩
    obtain ⟨rfl, hc⟩ := globalChain_of_prefix hh he h₁ h₂
    obtain ⟨front, hfront, hs⟩ := hc.exists_front (hu.trans hms)
    rw [hs, hfront, List.append_assoc, List.append_assoc] at hname
    exact hd (List.cons.inj (List.append_cancel_left hname)).1

end Global

/-- A parent that begins with the name of the global object is found again only
when it repeats it throughout and the name does so once more. -/
theorem prefix_written_global_iff (hkind : IsNamespace kind) (hg : globalName <+: m)
    (hk : isMark k = true) (hs : IsShown shown) :
    m ++ [k] <+: written kind (m ++ k :: b) ++ shown ↔
      IsGlobalChain (m ++ [k]) ∧ globalPoint <+: b := by
  obtain ⟨h, s, hh, hms, hdrop⟩ := global_cases hg k
  have hcases := written_cases kind (m ++ k :: b)
  have hfront := parent_of_splitChars (dropGlobalChars (m ++ k :: b))
  have hjoin : (splitChars (dropGlobalChars (m ++ k :: b))).parent ++
      (splitChars (dropGlobalChars (m ++ k :: b))).mark.toList ++
      (splitChars (dropGlobalChars (m ++ k :: b))).name = s ++ b :=
    (join_splitChars _).trans (hdrop b)
  constructor
  · intro hp
    rcases hcases with ⟨-, hw⟩ | ⟨w, rfl, -, hw⟩
    · rw [hw, hdrop] at hp
      exact globalChain_of_prefix_rest hh hms hk hs hp
    · obtain ⟨hne, hword⟩ := hkind w rfl
      rw [hw] at hp
      generalize splitChars (dropGlobalChars (m ++ k :: b)) = parts at hp hjoin hfront
      generalize parts.parent ++ parts.mark.toList = front at hp hjoin hfront
      have hpre : front <+: front ++ (w ++ ':' :: parts.name) ++ shown := ⟨_, by simp; rfl⟩
      by_cases hle : m.length + 1 ≤ front.length
      · have hp' := List.prefix_of_prefix_length_le hp hpre (by simpa using hle)
        have hrest : m ++ [k] <+: s ++ b ++ [] :=
          hp'.trans ⟨parts.name, by rw [List.append_nil, hjoin]⟩
        exact globalChain_of_prefix_rest hh hms hk (.inl rfl) hrest
      · obtain ⟨u, hu⟩ := List.prefix_of_prefix_length_le hpre hp (by simp; omega)
        have hmem := mem_of_append_eq_concat hu (by omega)
        rw [← hu, List.append_assoc, List.prefix_append_right_inj] at hp
        exact absurd hp (namespace_not_in_global hh hms hne hword hu (List.ne_nil_of_mem hmem)
          hfront hjoin.symm)
  · rintro ⟨hc, b, rfl⟩
    obtain ⟨hm, ha⟩ := hc.after_eq
    have hy := hc.dropGlobalChars_append b
    have hself : m ++ [k] <+: m ++ k :: b := ⟨b, by simp⟩
    refine List.IsPrefix.trans ?_ (List.prefix_append _ shown)
    rw [hy] at hcases
    rcases hcases with ⟨-, hw⟩ | ⟨w, -, -, hw⟩
    · rw [hw]
      exact hself
    · have hle := le_length_parent_splitChars (b := b) hm ha hk
      have hlen := parent_length_of_splitChars (m ++ k :: b)
      have hm' := List.length_pos_iff.mpr hm
      have hfront : m ++ [k] <+: (splitChars (m ++ k :: b)).parent ++
          (splitChars (m ++ k :: b)).mark.toList := by
        refine List.prefix_of_prefix_length_le hself
          ⟨(splitChars (m ++ k :: b)).name, join_splitChars _⟩ ?_
        rw [List.length_append, List.length_append, List.length_singleton]
        omega
      rw [hw]
      exact hfront.trans (List.prefix_append _ _)

/-- What a name was taken apart into is found again in its longname when the mark
is kept and the parent has no prototype. -/
theorem prefix_written_parentChars_iff (hp : parentChars p ≠ []) (ha : Nesting.after {} p = {})
    (hmark : isMark mark = true) (hb : splitLast {} b = none) :
    parentChars p ++ [k] <+: written kind (p ++ mark :: b) ++ shown ↔
      k = mark ∧ ¬ prototypeName <:+: dropGlobalChars p := by
  have hd : dropGlobalChars p ≠ [] := mt parentChars_eq_nil_iff.mpr hp
  rw [written_append hd ha hmark hb, List.append_assoc]
  by_cases hproto : prototypeName <:+: dropGlobalChars p
  · obtain ⟨x, y, z, hx, hz⟩ := exists_first_prototype hproto
    rw [parentChars_eq, hz, hx]
    refine iff_of_false ?_ (by simp [← hx, hproto])
    rw [List.append_assoc, List.append_assoc, List.prefix_append_right_inj]
    rintro ⟨t, ht⟩
    simp at ht
  · rw [parentChars_eq_self_iff.mpr hproto, List.prefix_append_right_inj]
    simp [hproto, List.cons_prefix_cons]


end Written

end DocComment.Longname
