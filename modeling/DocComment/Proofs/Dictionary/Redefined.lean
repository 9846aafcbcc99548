import DocComment.Proofs.Dictionary.Accepted

/-! Dictionaries in which definitions may replace others. A replacing definition is
never refused, and it is found by all its synonyms. Whether its title leads to it is
another matter: a title that has been the synonym of another one stays so, and then
the older definition hides the new one. -/

namespace DocComment.Dictionary

open Text

/-- Dictionaries that come about by definitions. One that is refused changes nothing. -/
inductive Reachable : Dictionary → Prop where
  | empty : Reachable {}
  | define {d e : Dictionary} {t : TagDefinition} {replace : Bool} (h : Reachable d)
      (hdefine : d.define t replace = .ok e) : Reachable e

/-- Definitions stand under their own titles, and synonyms lead to definitions. -/
structure IsFiled (d : Dictionary) : Prop where
  titled : ∀ title t, d.definitions.lookup title = some t → lower t.title = title
  led : ∀ s title, d.synonyms.lookup s = some title → ∃ t, d.definitions.lookup title = some t

variable {d e : Dictionary} {t : TagDefinition}

theorem define_replace (d : Dictionary) (t : TagDefinition) : d.define t true = .ok (d.put t) := by
  simp [define]

theorem eq_put_of_define {replace : Bool} (h : d.define t replace = .ok e) : e = d.put t := by
  unfold define at h
  dsimp only at h
  split at h
  · cases h
  · exact (Except.ok.inj h).symm

theorem lookup_definitions_put (d : Dictionary) (t : TagDefinition) (title : String) :
    (d.put t).definitions.lookup title =
      if title = lower t.title then some t else d.definitions.lookup title := by
  by_cases h : title = lower t.title
  · rw [if_pos h, h]
    exact Assoc.lookup_insert_self _ _ _
  · rw [if_neg h]
    exact Assoc.lookup_insert_of_ne h _ _

theorem lookup_synonyms_put (d : Dictionary) (t : TagDefinition) (s : String) :
    (d.put t).synonyms.lookup s =
      if s ∈ t.synonyms.map lower then some (lower t.title) else d.synonyms.lookup s :=
  Assoc.lookup_foldl_insert lower (lower t.title) t.synonyms d.synonyms s

theorem IsFiled.put (h : d.IsFiled) (t : TagDefinition) : (d.put t).IsFiled := by
  constructor
  case titled =>
    intro title u hu
    rw [lookup_definitions_put] at hu
    by_cases htitle : title = lower t.title
    · rw [if_pos htitle] at hu
      rw [htitle, Option.some.inj hu]
    · rw [if_neg htitle] at hu
      exact h.titled title u hu
  case led =>
    intro s title hs
    rw [lookup_synonyms_put] at hs
    rw [lookup_definitions_put]
    by_cases htitle : title = lower t.title
    · exact ⟨t, if_pos htitle⟩
    · have hold : d.synonyms.lookup s = some title := by
        by_cases hmem : s ∈ t.synonyms.map lower
        · rw [if_pos hmem] at hs
          exact absurd (Option.some.inj hs).symm htitle
        · rwa [if_neg hmem] at hs
      rw [if_neg htitle]
      exact h.led s title hold

theorem Reachable.isFiled (h : d.Reachable) : d.IsFiled := by
  induction h with
  | empty => constructor <;> simp
  | define _ hdefine ih =>
    rw [eq_put_of_define hdefine]
    exact ih.put _

theorem normalise_put (d : Dictionary) (t : TagDefinition) (name : String) :
    (d.put t).normalise name =
      if lower name ∈ t.synonyms.map lower then lower t.title else d.normalise name := by
  simp only [normalise, lookup_synonyms_put]
  split <;> rfl

theorem lookUp_put_of_normalise {name : String} (h : (d.put t).normalise name = lower t.title) :
    (d.put t).lookUp name = some t := by
  rw [lookUp, h, lookup_definitions_put, if_pos rfl]

theorem lookUp_put_synonym {s : String} (h : s ∈ t.synonyms) : (d.put t).lookUp s = some t := by
  apply lookUp_put_of_normalise
  rw [normalise_put, if_pos (List.mem_map_of_mem h)]

/-- Nothing is in the way of a title that stood for itself, or that the definition also
has as a synonym. -/
theorem lookUp_put_title
    (h : d.normalise t.title = lower t.title ∨ lower t.title ∈ t.synonyms.map lower) :
    (d.put t).lookUp t.title = some t := by
  apply lookUp_put_of_normalise
  rw [normalise_put]
  split
  next => rfl
  next hown => exact h.resolve_right hown

theorem IsFiled.exists_lookUp (h : d.IsFiled) {name : String}
    (hname : d.normalise name ≠ lower name) :
    ∃ u, d.lookUp name = some u ∧ lower u.title = d.normalise name := by
  cases hs : d.synonyms.lookup (lower name) with
  | none => simp [normalise, hs] at hname
  | some title =>
    have htitle : d.normalise name = title := by simp [normalise, hs]
    obtain ⟨u, hu⟩ := h.led _ title hs
    rw [lookUp, htitle]
    exact ⟨u, hu, h.titled title u hu⟩

/-- The definition behind a title that stood for another one is still found. -/
theorem IsFiled.exists_hiding (h : d.IsFiled) (hother : d.normalise t.title ≠ lower t.title)
    (hown : lower t.title ∉ t.synonyms.map lower) :
    ∃ u, d.lookUp t.title = some u ∧ (d.put t).lookUp t.title = some u ∧
      lower u.title ≠ lower t.title := by
  obtain ⟨u, hu, htitle⟩ := h.exists_lookUp hother
  have hsame : (d.put t).lookUp t.title = d.lookUp t.title := by
    rw [lookUp, normalise_put, if_neg hown, lookup_definitions_put, if_neg hother, lookUp]
  exact ⟨u, hu, hsame.trans hu, htitle ▸ hother⟩

/-- A replacing definition is accepted by every dictionary that can come about, and each
of its synonyms leads to it. So does its title, exactly if it stood for no other title
before or is among the synonyms; else the definition that was found by it still is. -/
theorem lookUp_redefined_iff (d : Dictionary) (h : d.Reachable) (t : TagDefinition) :
    ∃ e, d.define t true = .ok e ∧
      (∀ s ∈ t.synonyms, e.lookUp s = some t) ∧
      (e.lookUp t.title = some t ↔
        d.normalise t.title = lower t.title ∨ lower t.title ∈ t.synonyms.map lower) ∧
      (e.lookUp t.title ≠ some t → ∃ u, d.lookUp t.title = some u ∧
        e.lookUp t.title = some u ∧ lower u.title ≠ lower t.title) := by
  refine ⟨d.put t, define_replace d t, fun s hs => lookUp_put_synonym hs, ?_⟩
  by_cases hclear : d.normalise t.title = lower t.title ∨ lower t.title ∈ t.synonyms.map lower
  · have hfound := lookUp_put_title hclear
    exact ⟨iff_of_true hfound hclear, fun hnot => absurd hfound hnot⟩
  · obtain ⟨hother, hown⟩ := not_or.mp hclear
    obtain ⟨u, hold, hu, hne⟩ := h.isFiled.exists_hiding hother hown
    have hhidden : (d.put t).lookUp t.title ≠ some t := by
      intro hfound
      obtain rfl : u = t := Option.some.inj (hu.symm.trans hfound)
      exact hne rfl
    exact ⟨iff_of_false hhidden hclear, fun _ => ⟨u, hold, hu, hne⟩⟩

/-- A title that was a synonym of another one, taken back by a definition that has it as
its own synonym too. -/
theorem lookUp_redefined_iff_taken_back :
    let description : TagDefinition := { title := "description", synonyms := ["desc"] }
    let desc : TagDefinition := { title := "desc", synonyms := ["Desc", "text"] }
    ∃ d e, ({} : Dictionary).define description false = .ok d ∧ d.Reachable ∧
      d.define desc true = .ok e ∧ e.lookUp "desc" = some desc ∧ e.lookUp "text" = some desc := by
  intro description desc
  have hfirst : ({} : Dictionary).define description false =
      .ok (({} : Dictionary).put description) :=
    define_of_free fun name _ => by simp [knownNames]
  have hreach := Reachable.empty.define hfirst
  obtain ⟨e, hdefine, hsynonyms, htitle, -⟩ := lookUp_redefined_iff _ hreach desc
  refine ⟨_, e, hfirst, hreach, hdefine, htitle.mpr (.inr ?_), hsynonyms "text" (by decide)⟩
  decide +kernel

/-- A title that was a synonym of another one and is redefined without more still leads
to the other definition. -/
theorem lookUp_redefined_synonym :
    let description : TagDefinition := { title := "description", synonyms := ["desc"] }
    let desc : TagDefinition := { title := "desc" }
    ∃ d e, ({} : Dictionary).define description false = .ok d ∧ d.Reachable ∧
      d.define desc true = .ok e ∧ e.lookUp desc.title = some description ∧
      e.lookUp desc.title ≠ some desc := by
  intro description desc
  have hfirst : ({} : Dictionary).define description false =
      .ok (({} : Dictionary).put description) :=
    define_of_free fun name _ => by simp [knownNames]
  have hfound : ((({} : Dictionary).put description).put desc).lookUp desc.title =
      some description := by decide +kernel
  refine ⟨_, _, hfirst, Reachable.empty.define hfirst, define_replace _ desc, hfound, ?_⟩
  rw [hfound]
  decide

end DocComment.Dictionary
