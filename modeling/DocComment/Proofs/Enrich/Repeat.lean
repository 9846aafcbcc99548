import DocComment.Proofs.Enrich.Absorb

/-! Running the passes again changes nothing. Each pass leaves a doclet in which it
finds nothing more to do, and the passes after it keep it so. Only the pass that
spreads a declaration over the doclet is left out. -/

namespace DocComment.Doclet

/-! The declaration of a function. -/

theorem said_said (x : Option String) : said (said x) = said x := by
  cases h : said x with
  | none => rfl
  | some s => exact said_eq_some.mpr ⟨rfl, (said_eq_some.mp h).2⟩

/-- A parameter that says all that its declaration tells. -/
structure SaysDeclared (name : String) (p : DeclaredParam) (doc : ParamDoc) : Prop where
  name : said doc.name = none → doc.name = (newParam name p).name
  optional : p.optional = true → doc.optional = some true
  default : said doc.default = none → p.defaultText = none
  types : ∀ t, p.type = some t → hasNames doc.types = true

theorem fillParam_of_saysDeclared {name : String} {p : DeclaredParam} {doc : ParamDoc}
    (h : SaysDeclared name p doc) : fillParam name p doc = doc := by
  have hname : (said doc.name).or (newParam name p).name = doc.name := by
    cases hs : said doc.name with
    | none => exact (h.name hs).symm
    | some s => exact (said_eq_some.mp hs).1.symm
  have hoptional : (if p.optional then some true else doc.optional) = doc.optional := by
    split
    next ho => exact (h.optional ho).symm
    next => rfl
  rw [fillParam, hname, hoptional]
  congr 1
  · cases ht : p.type with
    | none => rfl
    | some t => exact if_pos (h.types t ht)
  · cases hs : said doc.default with
    | none => simp [h.default hs]
    | some s => exact (said_eq_some.mp hs).1.symm

theorem saysDeclared_newParam (name : String) (p : DeclaredParam) :
    SaysDeclared name p (newParam name p) where
  name _ := rfl
  optional h := by simp [newParam, h]
  default h := by
    simp only [newParam, DeclaredParam.defaultText] at h ⊢
    rwa [said_said] at h
  types t h := by simp [newParam, h, hasNames]

theorem saysDeclared_fillParam (name : String) (p : DeclaredParam) (doc : ParamDoc) :
    SaysDeclared name p (fillParam name p doc) where
  name h := by
    cases hs : said doc.name with
    | none => simp [fillParam, hs, newParam]
    | some s =>
      have hn : (fillParam name p doc).name = said doc.name := by simp [fillParam, hs]
      rw [hn, said_said, hs] at h
      simp at h
  optional h := by simp [fillParam, h]
  default h := by
    cases hs : said doc.default with
    | some s =>
      have hd : (fillParam name p doc).default = said doc.default := by simp [fillParam, hs]
      rw [hd, said_said, hs] at h
      simp at h
    | none =>
      cases hp : p.defaultText with
      | none => rfl
      | some s =>
        have hd : (fillParam name p doc).default = p.defaultText := by simp [fillParam, hs, hp]
        rw [hd, DeclaredParam.defaultText, said_said] at h
        rw [← hp, DeclaredParam.defaultText, h]
  types t h := by
    simp only [fillParam, h]
    split
    next hn => exact hn
    next => rfl

/-- Types that a parameter gets elsewhere do not matter to its declaration. -/
theorem fillParam_withTypes (name : String) (p : DeclaredParam) (doc : ParamDoc)
    {names : List String} (h : names ≠ []) :
    fillParam name p { doc with types := some names } =
      { fillParam name p doc with types := some names } := by
  have htypes := hasNames_some h
  cases ht : p.type <;> simp [fillParam, ht, htypes]

theorem fillParam_mergeParam {name : String} {p : DeclaredParam} {doc : ParamDoc}
    (h : fillParam name p doc = doc) (settings : Settings) (other : Option String)
    (q : DeclaredParam) :
    fillParam name p (mergeParam settings other q doc).1 = (mergeParam settings other q doc).1 := by
  rw [mergeParam_eq]
  split
  · exact h
  · rw [fillParam_withTypes name p doc (growUnion_ne_nil _ _ _), h]

theorem fillParams_repeat (names : List String) (declared : List Param) (docs : List ParamDoc) :
    fillParams names declared (fillParams names declared docs) =
      fillParams names declared docs := by
  fun_induction fillParams names declared docs with
  | case1 declared docs => rfl
  | case2 name names declared ih =>
    rw [fillParams, fillParam_of_saysDeclared (saysDeclared_newParam _ _), ih]
  | case3 name names declared doc docs ih =>
    rw [fillParams, fillParam_of_saysDeclared (saysDeclared_fillParam _ _ _), ih]

theorem fillParams_mergeParams {names : List String} {declared : List Param}
    {docs : List ParamDoc} (h : fillParams names declared docs = docs) (settings : Settings)
    (others : List String) (qs : List Param) :
    fillParams names declared (mergeParams settings others qs docs).1 =
      (mergeParams settings others qs docs).1 := by
  induction docs generalizing names declared others qs with
  | nil => cases qs <;> exact h
  | cons doc docs ih =>
    cases qs with
    | nil => simpa only [mergeParams_nil] using h
    | cons q qs =>
      cases names with
      | nil => rfl
      | cons name names =>
        obtain ⟨hdoc, hdocs⟩ := List.cons.inj h
        rw [mergeParams_cons, fillParams, fillParam_mergeParam hdoc, ih hdocs]

theorem fillReturns_eq_self_iff {declared : TypeRef} {returns : List ResultDoc} :
    fillReturns declared returns = returns ↔
      declared.string = "" ∨ firstTyped returns = true := by
  by_cases hs : declared.string = ""
  · simp [fillReturns, hs]
  · cases returns with
    | nil => simp [fillReturns, hs, firstTyped]
    | cons first rest =>
      cases ht : hasNames first.types with
      | true => simp [fillReturns, hs, ht, firstTyped]
      | false =>
        have hne : ({ first with types := some [declared.typeId] } : ResultDoc) ≠ first := by
          intro heq
          rw [← heq] at ht
          simp [hasNames] at ht
        simp [fillReturns, hs, ht, firstTyped, hne]

theorem firstTyped_fillReturns (declared : TypeRef) (returns : List ResultDoc) :
    declared.string = "" ∨ firstTyped (fillReturns declared returns) = true := by
  by_cases hs : declared.string = ""
  · exact .inl hs
  · refine .inr ?_
    cases returns with
    | nil => simp [fillReturns, hs, firstTyped, hasNames]
    | cons first rest =>
      cases ht : hasNames first.types with
      | true => simp [fillReturns, hs, ht, firstTyped]
      | false =>
        have hone : hasNames (some [declared.typeId]) = true := rfl
        simp [fillReturns, hs, ht, firstTyped, hone]

/-- A doclet that says all that the declaration of its function tells. -/
structure SaysCallable (c : Callable) (d : Doclet) : Prop where
  access : isRestricted c.accessibility = true → d.access ≠ none
  typeParams : c.typeParams.string ≠ "" → d.typeParams ≠ none
  returns : c.returnType.string = "" ∨ d.returnSettled = true
  params : fillParams (d.place.code.paramNames.getD []) c.parameters (d.params.getD []) =
    d.params.getD []

theorem fillAccess_eq (d : Doclet) (level : Option String) :
    (if isRestricted level then d.setAccess level else d) =
      { d with access := if isRestricted level then d.access.or level else d.access } := by
  split
  next => exact setAccess_eq d level
  next => rfl

theorem isRestricted_ne_none {level : Option String} (h : isRestricted level = true) :
    level ≠ none := by
  rintro rfl
  simp [isRestricted] at h

theorem fillAccess_of_some {access level : Option String}
    (h : isRestricted level = true → access ≠ none) :
    (if isRestricted level then access.or level else access) = access := by
  split
  next hr =>
    obtain ⟨s, hs⟩ := Option.ne_none_iff_exists'.mp (h hr)
    simp [hs]
  next => rfl

theorem fillAccess_ne_none {access level : Option String} (h : isRestricted level = true) :
    (if isRestricted level then access.or level else access) ≠ none := by
  have hlevel := isRestricted_ne_none h
  rw [if_pos h]
  simp [hlevel]

theorem fillCallable_of_saysCallable {c : Callable} {d : Doclet} (h : SaysCallable c d)
    (hlists : d.withLists = d) : d.fillCallable c = d := by
  have htypes : (if c.typeParams.string = "" then d.typeParams
      else d.typeParams.or (some c.typeParams)) = d.typeParams := by
    split
    next => rfl
    next hs =>
      obtain ⟨params, hp⟩ := Option.ne_none_iff_exists'.mp (h.typeParams hs)
      simp [hp]
  have hreturns : fillReturns c.returnType (d.returns.getD []) = d.returns.getD [] := by
    rw [fillReturns_eq_self_iff, ← returnSettled_eq]
    exact h.returns
  rw [fillCallable, fillAccess_eq, fillAccess_of_some h.access]
  dsimp only
  rw [htypes, hreturns, h.params]
  exact hlists

theorem saysCallable_fillCallable (c : Callable) (d : Doclet) :
    SaysCallable c (d.fillCallable c) := by
  rw [fillCallable, fillAccess_eq]
  refine ⟨fillAccess_ne_none, fun h => ?_, ?_, fillParams_repeat _ _ _⟩
  · simp [h]
  · rw [returnSettled_eq]
    exact firstTyped_fillReturns _ _

theorem mergeTypeParams_ne_none {current : Option TypeParams} (h : current ≠ none) (grew : Bool)
    (declared : TypeParams) : mergeTypeParams current grew declared ≠ none := by
  unfold mergeTypeParams
  dsimp only
  split
  · simp
  · exact h

theorem SaysCallable.mergeSignature {c : Callable} {d : Doclet} (h : SaysCallable c d)
    {settings : Settings} {settled : Bool} (hs : settled = true → d.returnSettled = true)
    (other : Callable) : SaysCallable c (mergeSignature settings settled d other) where
  access := h.access
  typeParams hc := mergeTypeParams_ne_none (h.typeParams hc) _ _
  returns := h.returns.imp_right (returnSettled_mergeSignature hs other)
  params := fillParams_mergeParams h.params settings _ _

/-- A doclet to which the declaration of its function adds nothing. -/
structure IsBackfilled (d : Doclet) : Prop where
  lists : d.withLists = d
  declared : ∀ c, d.declaration? = some c → SaysCallable c d

theorem functionBackfill_of_isBackfilled {d : Doclet} (h : d.IsBackfilled) :
    d.functionBackfill = d := by
  unfold functionBackfill
  split
  next => exact h.lists
  next c hc =>
    rw [h.lists]
    exact fillCallable_of_saysCallable (h.declared c hc) h.lists

theorem declaration?_congr {d e : Doclet} (h : e.place = d.place) :
    e.declaration? = d.declaration? := by
  simp only [declaration?, firstFact?, facts, h]

theorem isBackfilled_functionBackfill (d : Doclet) : d.functionBackfill.IsBackfilled := by
  have hgaps : d.FillsGaps "" d.functionBackfill := functionBackfill_fillsGaps d
  have hdecl := declaration?_congr (place_eq_of_background hgaps.background)
  constructor
  · unfold functionBackfill
    split
    next => rfl
    next c hc => rw [fillCallable, fillAccess_eq]; rfl
  · intro c hc
    rw [hdecl] at hc
    simp only [functionBackfill, hc]
    exact saysCallable_fillCallable c _

theorem IsBackfilled.mergeSignature {d : Doclet} (h : d.IsBackfilled) {settings : Settings}
    {settled : Bool} (hs : settled = true → d.returnSettled = true) (c : Callable) :
    (mergeSignature settings settled d c).IsBackfilled :=
  ⟨rfl, fun declared hd => (h.declared declared hd).mergeSignature hs c⟩

theorem IsBackfilled.foldl_mergeSignature {d : Doclet} (h : d.IsBackfilled) {settings : Settings}
    {settled : Bool} (hs : settled = true → d.returnSettled = true) (cs : List Callable) :
    (cs.foldl (Doclet.mergeSignature settings settled) d).IsBackfilled := by
  induction cs generalizing d with
  | nil => exact h
  | cons c cs ih =>
    exact ih (h.mergeSignature hs c) fun hsettled =>
      returnSettled_mergeSignature hs c (hs hsettled)

theorem IsBackfilled.reconcileOverloads {d : Doclet} (h : d.IsBackfilled) (settings : Settings) :
    (d.reconcileOverloads settings).IsBackfilled := by
  by_cases hfacts : d.facts = []
  · simpa [Doclet.reconcileOverloads, hfacts] using h
  · rw [reconcileOverloads_eq_foldl settings hfacts, h.lists]
    exact h.foldl_mergeSignature id _

/-! Classes and fields. -/

/-- Nothing that has to do with calls differs. -/
structure SameCalls (d e : Doclet) : Prop where
  params : e.params = d.params
  returns : e.returns = d.returns
  typeParams : e.typeParams = d.typeParams
  signatures : e.signatures = d.signatures
  place : e.place = d.place

theorem SameCalls.returnSettled {d e : Doclet} (h : d.SameCalls e) :
    e.returnSettled = d.returnSettled := by
  rw [returnSettled_eq, returnSettled_eq, h.returns]

theorem SameCalls.withLists {d e : Doclet} (h : d.SameCalls e) (hd : d.withLists = d) :
    e.withLists = e := by
  have hparams : some (d.params.getD []) = d.params := congrArg Doclet.params hd
  have hreturns : some (d.returns.getD []) = d.returns := congrArg Doclet.returns hd
  rw [← h.params] at hparams
  rw [← h.returns] at hreturns
  rw [Doclet.withLists, hparams, hreturns]

theorem SameCalls.isBackfilled {d e : Doclet} (h : d.SameCalls e) (hd : d.IsBackfilled)
    (haccess : d.access ≠ none → e.access = d.access) : e.IsBackfilled := by
  refine ⟨h.withLists hd.lists, fun c hc => ?_⟩
  rw [declaration?_congr h.place] at hc
  have htold := hd.declared c hc
  refine ⟨fun hr => ?_, ?_, ?_, ?_⟩
  · rw [haccess (htold.access hr)]
    exact htold.access hr
  · rw [h.typeParams]
    exact htold.typeParams
  · rw [h.returnSettled]
    exact htold.returns
  · rw [h.place, h.params]
    exact htold.params

theorem SameCalls.isReconciled {d e : Doclet} (h : d.SameCalls e) {settings : Settings}
    (hd : d.IsReconciled settings) : e.IsReconciled settings := by
  have hfacts : e.facts = d.facts := by simp only [facts, h.place]
  intro hne
  rw [hfacts] at hne ⊢
  obtain ⟨hlists, habsorbs⟩ := hd hne
  refine ⟨h.withLists hlists, fun c hc => ?_⟩
  obtain ⟨hreturns, hparams, hrecorded⟩ := habsorbs c hc
  refine ⟨?_, ?_, ?_⟩
  · rw [h.returnSettled, h.returns]
    exact hreturns
  · rw [h.place, h.params]
    exact hparams
  · rw [h.signatures]
    exact hrecorded

theorem classBackfill_sameCalls (d : Doclet) : d.SameCalls d.classBackfill := by
  unfold classBackfill
  split <;> exact ⟨rfl, rfl, rfl, rfl, rfl⟩

theorem access_classBackfill (d : Doclet) : d.classBackfill.access = d.access := by
  unfold classBackfill
  split <;> rfl

/-- A doclet to which the declaration of its class adds nothing. -/
def SaysClass (d : Doclet) : Prop :=
  ∀ c, d.classDecl? = some c →
    (c.implements ≠ [] → d.implements.getD [] ≠ []) ∧
      (c.superClass.string ≠ "" → d.augments.getD [] ≠ [])

theorem classDecl?_congr {d e : Doclet} (h : e.place = d.place) : e.classDecl? = d.classDecl? := by
  simp only [classDecl?, firstFact?, facts, h]

theorem saysClass_classBackfill (d : Doclet) : d.classBackfill.SaysClass := by
  intro c hc
  rw [classDecl?_congr (classBackfill_sameCalls d).place] at hc
  simp only [classBackfill, hc, fillClass]
  constructor
  · intro hne
    split
    next => simpa using hne
    next hi => simpa [hne] using hi
  · intro hne
    split
    next => simp
    next ha => simpa [hne] using ha

theorem classBackfill_of_saysClass {d : Doclet} (h : d.SaysClass) : d.classBackfill = d := by
  unfold classBackfill
  split
  next => rfl
  next c hc =>
    obtain ⟨himplements, haugments⟩ := h c hc
    rw [fillClass, if_neg ?_, if_neg ?_]
    · intro hc
      rw [Bool.and_eq_true, List.isEmpty_iff, Bool.not_eq_true', List.isEmpty_eq_false_iff] at hc
      exact himplements hc.2 hc.1
    · intro hc
      rw [Bool.and_eq_true, bne_iff_ne, List.isEmpty_iff] at hc
      exact haugments hc.1 hc.2

/-- A doclet to which the declaration of a field adds nothing. -/
structure SaysField (c : ClassFieldFact) (d : Doclet) : Prop where
  access : isRestricted c.accessibility = true → d.access ≠ none
  types : c.declared.string ≠ "" → d.types ≠ none
  scope : c.static = true → d.scope = some Scope.static.name

theorem fillField_of_saysField {c : ClassFieldFact} {d : Doclet} (h : SaysField c d) :
    d.fillField c = d := by
  rw [fillField, fillAccess_eq, fillAccess_of_some h.access]
  dsimp only
  split
  next => rfl
  next hs =>
    obtain ⟨types, ht⟩ := Option.ne_none_iff_exists'.mp (h.types hs)
    rw [ht, Option.some_or, ← ht]

theorem classMemberBackfill_of_saysField {dictionary : Dictionary} {d : Doclet}
    (h : ∀ c, d.classField? = some c → SaysField c d) :
    (d.classMemberBackfill dictionary).doclet = d := by
  unfold classMemberBackfill
  split
  next => rfl
  next c hc =>
    have htold := h c hc
    simp only [fillField_of_saysField htold]
    rw [if_neg ?_]
    rw [Bool.and_eq_true, bne_iff_ne]
    exact fun hs => hs.2 (htold.scope hs.1)

theorem saysField_fillField (c : ClassFieldFact) (d : Doclet) :
    (isRestricted c.accessibility = true → (d.fillField c).access ≠ none) ∧
      (c.declared.string ≠ "" → (d.fillField c).types ≠ none) := by
  rw [fillField, fillAccess_eq]
  exact ⟨fillAccess_ne_none, fun h => by simp [h]⟩

theorem classField?_congr {d e : Doclet} (h : e.place = d.place) :
    e.classField? = d.classField? := by
  simp only [classField?, firstFact?, facts, h]

theorem saysField_classMemberBackfill (dictionary : Dictionary) {d : Doclet} {c : ClassFieldFact}
    (hc : d.classField? = some c) : SaysField c (d.classMemberBackfill dictionary).doclet := by
  obtain ⟨haccess, htypes⟩ := saysField_fillField c d
  simp only [classMemberBackfill, hc]
  split
  next =>
    -- naming the field anew keeps the scope it has just got
    let moved := { d.fillField c with scope := some Scope.static.name, longname := none }
    have hscope := scope_resolve dictionary (d := moved) rfl
    obtain ⟨n, hn⟩ := exists_resolve_eq dictionary moved
    change SaysField c (moved.resolve dictionary)
    refine ⟨fun hr => ?_, fun ht => ?_, fun _ => hscope⟩
    · rw [hn]
      exact haccess hr
    · rw [hn]
      exact htypes ht
  next hs =>
    refine ⟨haccess, htypes, fun hstatic => ?_⟩
    simpa [hstatic] using hs

theorem fillField_sameCalls (c : ClassFieldFact) (d : Doclet) : d.SameCalls (d.fillField c) := by
  rw [fillField, fillAccess_eq]
  exact ⟨rfl, rfl, rfl, rfl, rfl⟩

theorem classMemberBackfill_keeps (dictionary : Dictionary) (d : Doclet) :
    d.SameCalls (d.classMemberBackfill dictionary).doclet ∧
      (d.classMemberBackfill dictionary).doclet.implements = d.implements ∧
      (d.classMemberBackfill dictionary).doclet.augments = d.augments := by
  unfold classMemberBackfill
  split
  next => exact ⟨⟨rfl, rfl, rfl, rfl, rfl⟩, rfl, rfl⟩
  next c hc =>
    have hcalls := fillField_sameCalls c d
    have hlists : (d.fillField c).implements = d.implements ∧
        (d.fillField c).augments = d.augments := by
      rw [fillField, fillAccess_eq]
      exact ⟨rfl, rfl⟩
    dsimp only
    split
    next =>
      let moved := { d.fillField c with scope := some Scope.static.name, longname := none }
      obtain ⟨n, hn⟩ := exists_resolve_eq dictionary moved
      change d.SameCalls (moved.resolve dictionary) ∧
        (moved.resolve dictionary).implements = d.implements ∧
        (moved.resolve dictionary).augments = d.augments
      rw [hn]
      exact ⟨⟨hcalls.params, hcalls.returns, hcalls.typeParams, hcalls.signatures, hcalls.place⟩,
        hlists⟩
    next => exact ⟨hcalls, hlists⟩

/-! All passes. -/

theorem isStructural_of_background {d e : Doclet} (h : e.background = d.background) :
    e.isStructural = d.isStructural := by
  have hkind : e.background.kind = d.background.kind := by rw [h]
  change e.kind = d.kind at hkind
  rw [isStructural, isStructural, hkind]

section Plain

variable {context : Context} {d : Doclet} (hd : d.isStructural = false)

include hd

theorem isStructural_reconciled :
    (d.functionBackfill.reconcileOverloads context.settings).isStructural = false := by
  have hgaps := (functionBackfill_fillsGaps d).trans
    (reconcileOverloads_fillsGaps context.settings d.functionBackfill)
  rw [isStructural_of_background hgaps.background, hd]

theorem withFacts_of_plain :
    d.withFacts context =
      (d.functionBackfill.reconcileOverloads context.settings).classBackfill := by
  rw [withFacts, isStructural_reconciled hd]
  rfl

theorem enrich_ends_of_plain :
    (d.enrich context).Ends []
      ((d.functionBackfill.reconcileOverloads context.settings).classBackfill.classMemberBackfill
        context.dictionary).doclet := by
  have hends : (d.enrich context).Ends []
      ((d.withFacts context).classMemberBackfill context.dictionary).doclet :=
    enrich_ends_of_unrolls fun h => by simp [isStructural_reconciled hd] at h
  rwa [withFacts_of_plain hd] at hends

end Plain

/-- A doclet in which no pass but the structural one finds anything to do. -/
structure IsEnriched (settings : Settings) (d : Doclet) : Prop where
  function : d.IsBackfilled
  overloads : d.IsReconciled settings
  classes : d.SaysClass
  fields : ∀ c, d.classField? = some c → SaysField c d

/-- What each pass has left is followed through the passes after it. -/
theorem isEnriched_passes (context : Context) (d : Doclet) :
    ((d.functionBackfill.reconcileOverloads context.settings).classBackfill.classMemberBackfill
      context.dictionary).doclet.IsEnriched context.settings := by
  let reconciled := d.functionBackfill.reconcileOverloads context.settings
  have hclass := classBackfill_sameCalls reconciled
  obtain ⟨hfield, himplements, haugments⟩ :=
    classMemberBackfill_keeps context.dictionary reconciled.classBackfill
  refine ⟨?_, ?_, ?_, ?_⟩
  · have hfunction := (isBackfilled_functionBackfill d).reconcileOverloads context.settings
    have hafter := hclass.isBackfilled hfunction fun _ => access_classBackfill reconciled
    have hgaps : reconciled.classBackfill.FillsGaps ""
        (reconciled.classBackfill.classMemberBackfill context.dictionary).doclet :=
      classMemberBackfill_fillsGaps context.dictionary _
    exact hfield.isBackfilled hafter hgaps.access
  · have hoverloads := isReconciled_reconcileOverloads context.settings d.functionBackfill
    exact hfield.isReconciled (hclass.isReconciled hoverloads)
  · intro c hc
    rw [classDecl?_congr hfield.place] at hc
    rw [himplements, haugments]
    exact saysClass_classBackfill reconciled c hc
  · intro c hc
    rw [classField?_congr hfield.place] at hc
    exact saysField_classMemberBackfill context.dictionary hc

theorem IsEnriched.passes_eq {context : Context} {d : Doclet} (h : d.IsEnriched context.settings) :
    ((d.functionBackfill.reconcileOverloads context.settings).classBackfill.classMemberBackfill
      context.dictionary).doclet = d := by
  rw [functionBackfill_of_isBackfilled h.function, reconcileOverloads_of_isReconciled h.overloads,
    classBackfill_of_saysClass h.classes, classMemberBackfill_of_saysField h.fields]

/-- Running the passes a second time changes nothing, unless the declaration of the
kind is spread over the doclet. -/
theorem enrich_enrich (context : Context) (d : Doclet) (htypedef : d.kind ≠ some "typedef")
    (hinterface : d.kind ≠ some "interface") :
    let once := d.enrich context
    let twice := once.doclet.enrich context
    once.fault = none ∧ twice.fault = none ∧ twice.doclet = once.doclet := by
  have hplain : d.isStructural = false := by simp [isStructural, htypedef, hinterface]
  intro once twice
  have hends : once.Ends [] _ := enrich_ends_of_plain hplain
  have hgaps : d.FillsGaps context.settings.truncationMarker once.doclet := by
    rw [hends.doclet, ← withFacts_of_plain hplain]
    exact (withFacts_fillsGaps context d).trans (classMemberBackfill_fillsGaps _ _)
  have honce : once.doclet.isStructural = false := by
    rw [isStructural_of_background hgaps.background, hplain]
  have hagain : twice.Ends [] _ := enrich_ends_of_plain honce
  have henriched : once.doclet.IsEnriched context.settings := by
    rw [hends.doclet]
    exact isEnriched_passes context d
  exact ⟨hends.fault, hagain.fault, hagain.doclet.trans henriched.passes_eq⟩

/-- The union of two overloads is cut off once, and the static field is named anew
once. -/
theorem enrich_enrich_overloads :
    let overload (string type : String) : Fact :=
      .callable .declaredFunction { string, returnType := { string := type } }
    let d : Doclet :=
      { name := some "f", memberof := some "Foo", scope := some "instance", kind := some "member"
        place :=
          { facts := some [overload "f(): A" "A", overload "f(): B" "B",
              .classField { static := true }] } }
    let once := d.enrich {}
    once.doclet.returns = some [{ types := some ["A", "$ts:..."], description := some "" }] ∧
      once.doclet.longname = some "Foo.f" ∧
      (once.doclet.enrich {}).doclet = once.doclet := by
  refine ⟨by decide +kernel, by decide +kernel, ?_⟩
  exact (enrich_enrich {} _ (by decide) (by decide)).2.2

end DocComment.Doclet
