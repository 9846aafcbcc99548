import DocComment.Dictionary.Basic
import DocComment.Proofs.Data.Convey

/-! Dictionaries that are filled by definitions of which none replaces another. A
definition is refused when one of its names is known already, and then nothing
changes; a definition that was accepted is found by every one of its names, and by
no other. -/

namespace DocComment

namespace Assoc

variable {κ α β : Type} [BEq κ] [LawfulBEq κ]

/-- One value put under many keys. -/
theorem lookup_foldl_insert (f : β → κ) (a : α) (items : List β) (table : List (κ × α))
    (key : κ) :
    (items.foldl (fun table x => insert (f x) a table) table).lookup key =
      if key ∈ items.map f then some a else table.lookup key := by
  induction items generalizing table with
  | nil => simp
  | cons x items ih =>
    rw [List.foldl_cons, ih]
    by_cases hmem : key ∈ items.map f
    · have hcons : key ∈ (x :: items).map f := List.mem_cons_of_mem _ hmem
      rw [if_pos hmem, if_pos hcons]
    · rw [if_neg hmem]
      by_cases hkey : key = f x
      · subst hkey
        rw [lookup_insert_self, if_pos (by simp)]
      · rw [lookup_insert_of_ne hkey, if_neg (by simp [hkey, hmem])]

end Assoc

namespace Dictionary

open Text

/-- The titles and synonyms in the tables. -/
def knownNames (d : Dictionary) : List String :=
  d.definitions.map Prod.fst ++ d.synonyms.map Prod.fst

theorem isTaken_iff {d : Dictionary} {name : String} :
    d.isTaken name = true ↔ name ∈ d.knownNames := by
  rw [isTaken, Bool.or_eq_true, Assoc.contains_iff, Assoc.contains_iff, knownNames,
    List.mem_append]

theorem not_known_iff {d : Dictionary} {name : String} :
    name ∉ d.knownNames ↔
      d.definitions.lookup name = none ∧ d.synonyms.lookup name = none := by
  rw [knownNames, List.mem_append, not_or, Assoc.lookup_eq_none_iff_notMem,
    Assoc.lookup_eq_none_iff_notMem]

theorem define_of_free {d : Dictionary} {t : TagDefinition}
    (h : ∀ name ∈ t.names, name ∉ d.knownNames) : d.define t false = .ok (d.put t) := by
  have htaken : t.names.filter d.isTaken = [] := by
    apply List.filter_eq_nil_iff.mpr
    intro name hname
    rw [isTaken_iff]
    exact h name hname
  simp [define, htaken]

theorem define_of_known {d : Dictionary} {t : TagDefinition} {name : String}
    (hname : name ∈ t.names) (hknown : name ∈ d.knownNames) :
    d.define t false = .error (.titleTaken (lower t.title) (t.names.filter d.isTaken)) := by
  have htaken : t.names.filter d.isTaken ≠ [] := by
    apply List.ne_nil_of_mem
    exact List.mem_filter.mpr ⟨hname, isTaken_iff.mpr hknown⟩
  simp [define, htaken]

/-- A dictionary with the definitions that it was made from. -/
structure Filling where
  dictionary : Dictionary := {}
  accepted : List TagDefinition := []

/-- A definition that is refused leaves everything as it was. -/
def Filling.add (f : Filling) (t : TagDefinition) : Filling :=
  match f.dictionary.define t false with
  | .ok dictionary => { dictionary, accepted := f.accepted ++ [t] }
  | .error _ => f

/-- The dictionary that a row of definitions leads to. -/
def defineAll (calls : List TagDefinition) : Filling := calls.foldl Filling.add {}

/-- The tables of a dictionary say what the accepted definitions say. -/
structure Filling.IsSound (f : Filling) : Prop where
  title : ∀ t ∈ f.accepted, f.dictionary.definitions.lookup (lower t.title) = some t
  own : ∀ t ∈ f.accepted,
    (f.dictionary.synonyms.lookup (lower t.title)).getD (lower t.title) = lower t.title
  synonym : ∀ t ∈ f.accepted, ∀ s ∈ t.synonyms.map lower,
    f.dictionary.synonyms.lookup s = some (lower t.title)
  free : ∀ name, (∀ t ∈ f.accepted, name ∉ t.names) → name ∉ f.dictionary.knownNames
  size : f.dictionary.size = f.accepted.length

namespace Filling.IsSound

variable {f : Filling}

theorem known_iff (h : f.IsSound) {name : String} :
    name ∈ f.dictionary.knownNames ↔ ∃ t ∈ f.accepted, name ∈ t.names := by
  by_cases hsome : ∃ t ∈ f.accepted, name ∈ t.names
  · refine iff_of_true ?_ hsome
    obtain ⟨t, ht, hname⟩ := hsome
    apply Classical.not_not.mp
    intro hfree
    obtain ⟨hdefinition, hsynonym⟩ := not_known_iff.mp hfree
    rcases List.mem_cons.mp hname with rfl | hname
    · simp [h.title t ht] at hdefinition
    · simp [h.synonym t ht name hname] at hsynonym
  · exact iff_of_false (h.free name fun t ht hname => hsome ⟨t, ht, hname⟩) hsome

theorem normalise_eq (h : f.IsSound) {t : TagDefinition} (ht : t ∈ f.accepted) {title : String}
    (hname : lower title ∈ t.names) : f.dictionary.normalise title = lower t.title := by
  rcases List.mem_cons.mp hname with htitle | hsynonym
  · simp only [normalise, htitle]
    exact h.own t ht
  · simp [normalise, h.synonym t ht _ hsynonym]

theorem lookUp_eq_some (h : f.IsSound) {t : TagDefinition} (ht : t ∈ f.accepted) {title : String}
    (hname : lower title ∈ t.names) : f.dictionary.lookUp title = some t := by
  rw [lookUp, h.normalise_eq ht hname]
  exact h.title t ht

theorem lookUp_eq_none (h : f.IsSound) {title : String}
    (hfree : ∀ t ∈ f.accepted, lower title ∉ t.names) : f.dictionary.lookUp title = none := by
  obtain ⟨hdefinition, hsynonym⟩ := not_known_iff.mp (h.free _ hfree)
  simp only [lookUp, normalise, hsynonym, Option.getD_none]
  exact hdefinition

/-- A definition whose names are all new can be put beside the others. -/
theorem put (h : f.IsSound) {t : TagDefinition}
    (hnew : ∀ name ∈ t.names, name ∉ f.dictionary.knownNames) :
    ({ dictionary := f.dictionary.put t, accepted := f.accepted ++ [t] } : Filling).IsSound := by
  have happart : ∀ u ∈ f.accepted, ∀ name ∈ u.names, name ∉ t.names := by
    intro u hu name hname hother
    exact hnew name hother (h.known_iff.mpr ⟨u, hu, hname⟩)
  have htitle : lower t.title ∈ t.names := List.mem_cons_self
  obtain ⟨hdefinition, hsynonym⟩ := not_known_iff.mp (hnew _ htitle)
  constructor
  case title =>
    intro u hu
    dsimp only [Dictionary.put]
    rcases List.mem_append.mp hu with hu | hu
    · have hne : lower u.title ≠ lower t.title := by
        intro he
        exact happart u hu _ List.mem_cons_self (he ▸ htitle)
      rw [Assoc.lookup_insert_of_ne hne]
      exact h.title u hu
    · obtain rfl := List.mem_singleton.mp hu
      exact Assoc.lookup_insert_self _ _ _
  case own =>
    intro u hu
    dsimp only [Dictionary.put]
    rw [Assoc.lookup_foldl_insert]
    rcases List.mem_append.mp hu with hu | hu
    · have hnot : lower u.title ∉ t.synonyms.map lower := fun hmem =>
        happart u hu _ List.mem_cons_self (List.mem_cons_of_mem _ hmem)
      rw [if_neg hnot]
      exact h.own u hu
    · obtain rfl := List.mem_singleton.mp hu
      split
      · rfl
      · rw [hsynonym]
        rfl
  case synonym =>
    intro u hu s hs
    dsimp only [Dictionary.put]
    rw [Assoc.lookup_foldl_insert]
    rcases List.mem_append.mp hu with hu | hu
    · have hnot : s ∉ t.synonyms.map lower := fun hmem =>
        happart u hu _ (List.mem_cons_of_mem _ hs) (List.mem_cons_of_mem _ hmem)
      rw [if_neg hnot]
      exact h.synonym u hu s hs
    · obtain rfl := List.mem_singleton.mp hu
      rw [if_pos hs]
  case free =>
    intro name hfree
    have hother : name ∉ t.names := hfree t (by simp)
    have hold := h.free name fun u hu => hfree u (List.mem_append_left _ hu)
    obtain ⟨hnone, hnone'⟩ := not_known_iff.mp hold
    rw [not_known_iff]
    dsimp only [Dictionary.put]
    constructor
    · have hne : name ≠ lower t.title := fun he => hother (he ▸ htitle)
      rw [Assoc.lookup_insert_of_ne hne]
      exact hnone
    · rw [Assoc.lookup_foldl_insert, if_neg fun hmem => hother (List.mem_cons_of_mem _ hmem)]
      exact hnone'
  case size =>
    have hinsert := Assoc.insert_of_notMem (a := t)
      (Assoc.lookup_eq_none_iff_notMem.mp hdefinition)
    have hsize := h.size
    simp only [Dictionary.size] at hsize
    simp [Dictionary.size, Dictionary.put, hinsert, hsize]

theorem add (h : f.IsSound) (t : TagDefinition) : (f.add t).IsSound := by
  unfold Filling.add
  by_cases hknown : ∃ name ∈ t.names, name ∈ f.dictionary.knownNames
  · obtain ⟨name, hname, hknown⟩ := hknown
    rw [define_of_known hname hknown]
    exact h
  · have hnew : ∀ name ∈ t.names, name ∉ f.dictionary.knownNames :=
      fun name hname hmem => hknown ⟨name, hname, hmem⟩
    rw [define_of_free hnew]
    exact h.put hnew

theorem foldl_add (h : f.IsSound) (calls : List TagDefinition) :
    (calls.foldl Filling.add f).IsSound := by
  induction calls generalizing f with
  | nil => exact h
  | cons t calls ih => exact ih (h.add t)

end Filling.IsSound

theorem defineAll_concat (calls : List TagDefinition) (t : TagDefinition) :
    defineAll (calls ++ [t]) = (defineAll calls).add t := by
  simp [defineAll]

theorem defineAll_isSound (calls : List TagDefinition) : (defineAll calls).IsSound := by
  have hempty : ({} : Filling).IsSound := by
    constructor <;> simp [knownNames, size]
  exact hempty.foldl_add calls

/-- After any row of definitions the dictionary refuses exactly those of which a
name is known, and changes by the others only; every accepted definition is found
by its names without regard to case, nothing else is found, and none was lost. -/
theorem defineAll_isConsistent (calls : List TagDefinition) :
    let run := defineAll calls
    (∀ t,
      ((∃ title taken, run.dictionary.define t false = .error (.titleTaken title taken)) ↔
        ∃ name ∈ t.names, name ∈ run.dictionary.knownNames) ∧
      (∀ fault, run.dictionary.define t false = .error fault →
        defineAll (calls ++ [t]) = run) ∧
      (∀ dictionary, run.dictionary.define t false = .ok dictionary →
        defineAll (calls ++ [t]) = ⟨dictionary, run.accepted ++ [t]⟩)) ∧
    (∀ name, name ∈ run.dictionary.knownNames ↔ ∃ t ∈ run.accepted, name ∈ t.names) ∧
    (∀ t ∈ run.accepted, ∀ title, lower title ∈ t.names →
      run.dictionary.lookUp title = some t ∧ run.dictionary.normalise title = lower t.title) ∧
    (∀ title, (∀ t ∈ run.accepted, lower title ∉ t.names) →
      run.dictionary.lookUp title = none) ∧
    run.dictionary.size = run.accepted.length := by
  intro run
  have hsound : run.IsSound := defineAll_isSound calls
  refine ⟨fun t => ⟨⟨?_, ?_⟩, ?_, ?_⟩, fun name => hsound.known_iff, ?_, ?_, hsound.size⟩
  · rintro ⟨title, taken, hrefused⟩
    apply Classical.not_not.mp
    intro hnone
    have hnew : ∀ name ∈ t.names, name ∉ run.dictionary.knownNames :=
      fun name hname hknown => hnone ⟨name, hname, hknown⟩
    simp [define_of_free hnew] at hrefused
  · rintro ⟨name, hname, hknown⟩
    exact ⟨_, _, define_of_known hname hknown⟩
  · intro fault hrefused
    rw [defineAll_concat, Filling.add, hrefused]
  · intro dictionary haccepted
    rw [defineAll_concat, Filling.add, haccepted]
  · intro t ht title hname
    exact ⟨hsound.lookUp_eq_some ht hname, hsound.normalise_eq ht hname⟩
  · intro title hfree
    exact hsound.lookUp_eq_none hfree

theorem defineAll_isConsistent_refused :
    let foo : TagDefinition := { title := "Foo", synonyms := ["bar", "BAR", "foo"] }
    let baz : TagDefinition := { title := "baz", synonyms := ["Quux"] }
    let run := defineAll [foo, { title := "Bar" }, baz, { title := "x", synonyms := ["QUUX"] }]
    run.accepted = [foo, baz] ∧ run.dictionary.lookUp "bAr" = some foo ∧
      run.dictionary.normalise "FOO" = "foo" ∧ run.dictionary.lookUp "x" = none ∧
      run.dictionary.size = 2 := by
  intro foo baz run
  have haccepted : run.accepted = [foo, baz] := by decide +kernel
  obtain ⟨-, -, hfound, hnone, hsize⟩ := defineAll_isConsistent
    [foo, { title := "Bar" }, baz, { title := "x", synonyms := ["QUUX"] }]
  have hfoo : foo ∈ run.accepted := by simp [haccepted]
  refine ⟨haccepted, (hfound foo hfoo "bAr" (by decide +kernel)).1,
    (hfound foo hfoo "FOO" (by decide +kernel)).2.trans (by decide +kernel), ?_, ?_⟩
  · apply hnone
    rw [show (defineAll _).accepted = [foo, baz] from haccepted]
    decide +kernel
  · exact hsize.trans (congrArg List.length haccepted)

end Dictionary

end DocComment
