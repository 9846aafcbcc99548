import DocComment.Dictionary.Standard

/-! The table of the standard tags. All their titles are in lower case, and all of
them are in the table under their own titles. -/

namespace DocComment

namespace Text

/-- Characters without case stay in a text that is put in lower case. -/
theorem mem_lowerFrom {c : Char} (hc : lowerChar c = [c]) (hs : c ≠ capitalSigma) {s : List Char}
    (h : c ∈ s) (before : List Char) : c ∈ lowerFrom before s := by
  induction s generalizing before with
  | nil => simp at h
  | cons d s ih =>
    rcases List.mem_cons.mp h with rfl | h
    · simp [lowerFrom, hs, hc]
    · exact List.mem_append_right _ (ih h (d :: before))

end Text

namespace Dictionary

theorem standard_tables :
    standard.definitions = (standardDefinitions.map fun t => (t.title, t)) ∧
      standard.synonyms =
        (standardDefinitions.flatMap fun t => t.synonyms.map fun s => (s, t.title)) ∧
      standard.normalise "kind" = "kind" := by
  decide +kernel

theorem standard_definitions :
    standard.definitions = standardDefinitions.map fun t => (t.title, t) := standard_tables.1

theorem standard_synonyms :
    standard.synonyms =
      standardDefinitions.flatMap fun t => t.synonyms.map fun s => (s, t.title) :=
  standard_tables.2.1

theorem normalise_standard (title : String) :
    standard.normalise title =
      ((standardDefinitions.flatMap fun t => t.synonyms.map fun s => (s, t.title)).lookup
        (Text.lower title)).getD (Text.lower title) := by
  rw [normalise, standard_synonyms]

theorem lookUp_standard_eq (title : String) :
    standard.lookUp title =
      (standardDefinitions.map fun t => (t.title, t)).lookup (standard.normalise title) := by
  rw [lookUp, standard_definitions]

theorem mem_of_lookup_title {ts : List TagDefinition} {title : String} {t : TagDefinition}
    (h : (ts.map fun t => (t.title, t)).lookup title = some t) : t ∈ ts ∧ t.title = title := by
  obtain ⟨before, after, hs, -⟩ := List.lookup_eq_some_iff.mp h
  have hm : (title, t) ∈ ts.map fun t => (t.title, t) := by rw [hs]; simp
  obtain ⟨u, hu, he⟩ := List.mem_map.mp hm
  obtain ⟨rfl, rfl⟩ := Prod.mk.inj he
  exact ⟨hu, rfl⟩

theorem lookUp_standard {title : String} {t : TagDefinition} (h : standard.lookUp title = some t) :
    t ∈ standardDefinitions ∧ t.title = standard.normalise title := by
  rw [lookUp_standard_eq] at h
  exact mem_of_lookup_title h

theorem title_makeTag (dictionary : Dictionary) (title : String) (body : Option String) :
    (dictionary.makeTag title body).title = dictionary.normalise title := by
  unfold makeTag
  split <;> rfl

/-- The text of a type tag is always read as types. -/
def ReadsTypes (dictionary : Dictionary) : Prop :=
  ∀ title t, dictionary.lookUp title = some t → dictionary.normalise title = "type" →
    t.propertyHook = some .type

theorem readsTypes_standard : ReadsTypes standard := by
  have htable : ∀ t ∈ standardDefinitions, t.title = "type" → t.propertyHook = some .type := by
    decide
  intro title t h ht
  obtain ⟨hmem, htitle⟩ := lookUp_standard h
  exact htable t hmem (htitle.trans ht)

/-- The kind is set by its effect on the identity alone. -/
def SetsKinds (dictionary : Dictionary) : Prop :=
  dictionary.normalise "kind" = "kind" ∧
    ∃ t, dictionary.lookUp "kind" = some t ∧ t.hook = none

theorem setsKinds_standard : SetsKinds standard := by
  refine ⟨standard_tables.2.2, { title := "kind" }, ?_, rfl⟩
  rw [lookUp, standard_tables.2.2, standard_definitions]
  decide

/-- No tag writes the comment or the longname. -/
def KeepsLongnames (dictionary : Dictionary) : Prop :=
  ∀ title t, dictionary.lookUp title = some t →
    t.hook ≠ some (.setText .comment) ∧ t.hook ≠ some (.setText .longname)

theorem keepsLongnames_standard : KeepsLongnames standard := by
  have htable : ∀ t ∈ standardDefinitions,
      t.hook ≠ some (.setText .comment) ∧ t.hook ≠ some (.setText .longname) := by
    decide
  intro title t h
  exact htable t (lookUp_standard h).1

/-- What the building of doclets relies on. -/
structure IsRegular (dictionary : Dictionary) : Prop where
  readsTypes : dictionary.ReadsTypes
  setsKinds : dictionary.SetsKinds
  keepsLongnames : dictionary.KeepsLongnames

theorem isRegular_standard : IsRegular standard :=
  ⟨readsTypes_standard, setsKinds_standard, keepsLongnames_standard⟩

/-- Characters that no namespace holds, in lower case or not. -/
def foreign : List Char := ['~', '#', '.', '<']

theorem lower_foreign {c : Char} (h : c ∈ foreign) :
    Text.lowerChar c = [c] ∧ c ≠ Text.capitalSigma := by
  have hall : foreign.all (fun c => Text.lowerChar c == [c] && c != Text.capitalSigma) = true := by
    decide
  simpa using List.all_eq_true.mp hall c h

theorem foreign_not_mem_title {t : TagDefinition} (ht : t ∈ standardDefinitions)
    (hn : t.isNamespace = true) {c : Char} (hc : c ∈ foreign) : c ∉ t.title.toList := by
  have htable : standardDefinitions.all (fun t =>
      !t.isNamespace || foreign.all fun c => !t.title.toList.contains c) = true := by
    decide
  have hall := List.all_eq_true.mp htable t ht
  rw [hn, Bool.not_true, Bool.false_or] at hall
  simpa using List.all_eq_true.mp hall c hc

theorem foreign_not_mem_namespace {word : String} (h : standard.isNamespace (some word) = true)
    {c : Char} (hc : c ∈ foreign) : c ∉ word.toList := by
  simp only [isNamespace, Bool.and_eq_true, standard_definitions] at h
  obtain ⟨-, h⟩ := h
  split at h
  next t ht =>
    obtain ⟨hmem, htitle⟩ := mem_of_lookup_title ht
    obtain ⟨hsmall, hsigma⟩ := lower_foreign hc
    intro hword
    apply foreign_not_mem_title hmem h hc
    rw [htitle, Text.lower, String.toList_ofList]
    exact Text.mem_lowerFrom hsmall hsigma hword []
  next => simp at h

end Dictionary

end DocComment
