import DocComment.Proofs.Enrich.Members
import DocComment.Proofs.Naming.Resolve

/-! Static facts only fill gaps. Every pass keeps what the doclet says, so all of
them in a row do; only a static field may be named anew, because its scope was
another one. With the standard tags no pass fails. -/

namespace DocComment.Doclet

/-- A doclet without the fields that passes write to. -/
def background (d : Doclet) : Doclet :=
  { d with
    name := none, longname := none, memberof := none, scope := none, access := none
    types := none, typeParams := none, augments := none, implements := none
    params := none, returns := none, properties := none, signatures := none }

/-- The first field among the facts is static, and the doclet is not. -/
def MovesToStatic (d : Doclet) : Prop :=
  ∃ c, d.classField? = some c ∧ c.static = true ∧ d.scope ≠ some Scope.static.name

/-- What passes may make of a doclet, its names aside. -/
structure FillsGaps (marker : String) (d e : Doclet) : Prop where
  background : e.background = d.background
  access : d.access ≠ none → e.access = d.access
  types : d.types ≠ none → e.types = d.types
  augments : d.augments.getD [] ≠ [] → e.augments = d.augments
  implements : d.implements.getD [] ≠ [] → e.implements = d.implements
  signatures : d.signatures.getD [] <+: e.signatures.getD []
  params : KeptAlong (ParamDoc.Kept marker) (d.params.getD []) (e.params.getD [])
  returns : KeptAlong ResultDoc.Kept (d.returns.getD []) (e.returns.getD [])
  properties : KeptAlong PropertyDoc.Kept (d.properties.getD []) (e.properties.getD [])

variable {marker : String}

theorem FillsGaps.refl (marker : String) (d : Doclet) : d.FillsGaps marker d where
  background := rfl
  access _ := rfl
  types _ := rfl
  augments _ := rfl
  implements _ := rfl
  signatures := List.prefix_refl _
  params := .refl (ParamDoc.Kept.refl marker)
  returns := .refl ResultDoc.Kept.refl
  properties := .refl PropertyDoc.Kept.refl

theorem FillsGaps.trans {d e f : Doclet} (h : d.FillsGaps marker e) (h' : e.FillsGaps marker f) :
    d.FillsGaps marker f where
  background := h'.background.trans h.background
  access hd := (h'.access (h.access hd ▸ hd)).trans (h.access hd)
  types hd := (h'.types (h.types hd ▸ hd)).trans (h.types hd)
  augments hd := (h'.augments (h.augments hd ▸ hd)).trans (h.augments hd)
  implements hd := (h'.implements (h.implements hd ▸ hd)).trans (h.implements hd)
  signatures := h.signatures.trans h'.signatures
  params := h.params.trans (fun _ _ _ => ParamDoc.Kept.trans) h'.params
  returns := h.returns.trans (fun _ _ _ => ResultDoc.Kept.trans) h'.returns
  properties := h.properties.trans (fun _ _ _ => PropertyDoc.Kept.trans) h'.properties

/-! The declaration of a function. -/

theorem fillParam_kept (name : String) (p : DeclaredParam) (doc : ParamDoc) :
    doc.Kept marker (fillParam name p doc) where
  name s h := by simp [fillParam, h]
  description := rfl
  default s h := by simp [fillParam, h]
  nullable := rfl
  variadic := rfl
  optional h := by
    simp only [fillParam]
    split
    · rfl
    · exact h
  types h := by
    refine .inl ?_
    simp only [fillParam]
    split
    · rw [if_pos h]
    · rfl

theorem fillParams_kept (names : List String) (declared : List Param) (docs : List ParamDoc) :
    KeptAlong (ParamDoc.Kept marker) docs (fillParams names declared docs) := by
  fun_induction fillParams names declared docs with
  | case1 declared docs => exact .refl (ParamDoc.Kept.refl marker)
  | case2 name names declared ih => exact .nil
  | case3 name names declared doc docs ih => exact .cons (fillParam_kept _ _ _) ih

theorem fillReturns_kept (declared : TypeRef) (returns : List ResultDoc) :
    KeptAlong ResultDoc.Kept returns (fillReturns declared returns) := by
  unfold fillReturns
  split
  · exact .refl ResultDoc.Kept.refl
  · split
    · exact .nil
    · split
      · exact .refl ResultDoc.Kept.refl
      next h => exact .cons ⟨rfl, fun hn => absurd hn h⟩ (.refl ResultDoc.Kept.refl)

theorem setAccess_fillsGaps (d : Doclet) (level : Option String) :
    d.FillsGaps marker (d.setAccess level) := by
  unfold setAccess
  split
  next h => exact { FillsGaps.refl marker d with
    access := fun hd => absurd (Option.isNone_iff_eq_none.mp h) hd }
  next => exact .refl marker d

theorem withLists_fillsGaps (d : Doclet) : d.FillsGaps marker d.withLists :=
  { FillsGaps.refl marker d with }

theorem fillCallable_fillsGaps (c : Callable) (d : Doclet) :
    d.FillsGaps marker (d.fillCallable c) := by
  have ha : d.FillsGaps marker
      (if isRestricted c.accessibility then d.setAccess c.accessibility else d) := by
    split
    · exact setAccess_fillsGaps d _
    · exact .refl marker d
  refine ha.trans ?_
  exact { FillsGaps.refl marker _ with
    params := fillParams_kept _ _ _
    returns := fillReturns_kept _ _ }

theorem functionBackfill_fillsGaps (d : Doclet) : d.FillsGaps marker d.functionBackfill := by
  unfold functionBackfill
  split
  · exact withLists_fillsGaps d
  · exact (withLists_fillsGaps d).trans (fillCallable_fillsGaps _ _)

/-! Overloads. A result that no one documented grows with every signature, so its
entry is compared with what it was before the first of them. -/

theorem growUnion_cases (marker : String) (names : List String) (type : String) :
    names = [] ∨ (growUnion marker names type).1 = names ∨
      ∃ t, names = [t] ∧ (growUnion marker names type).1 = [t, marker] := by
  unfold growUnion
  split
  · exact .inr (.inl rfl)
  · split
    · exact .inl rfl
    next t _ => exact .inr (.inr ⟨t, rfl, rfl⟩)
    · exact .inr (.inl rfl)

theorem mergeParam_kept (settings : Settings) (name : Option String) (p : DeclaredParam)
    (doc : ParamDoc) : doc.Kept settings.truncationMarker (mergeParam settings name p doc).1 := by
  unfold mergeParam
  dsimp only
  split
  · exact .refl _ doc
  · refine { ParamDoc.Kept.refl settings.truncationMarker doc with types := fun h => ?_ }
    cases hd : doc.types with
    | none => simp [hd, hasNames] at h
    | some names =>
      rcases growUnion_cases settings.truncationMarker names ((p.type.map TypeRef.typeId).getD "")
        with rfl | hg | ⟨t, rfl, hg⟩
      · simp [hd, hasNames] at h
      · exact .inl (by simp [hg])
      · exact .inr ⟨t, rfl, by simp [hg]⟩

theorem mergeParams_kept (settings : Settings) (names : List String) (declared : List Param)
    (docs : List ParamDoc) :
    KeptAlong (ParamDoc.Kept settings.truncationMarker) docs
      (mergeParams settings names declared docs).1 := by
  fun_induction mergeParams settings names declared docs with
  | case1 names p declared doc docs merged grew hm rest more hr ih =>
    have hp := mergeParam_kept settings names.head? p.declared doc
    rw [hm] at hp
    rw [hr] at ih
    exact .cons hp ih
  | case2 => exact .refl (ParamDoc.Kept.refl _)

/-- At most the types of the first entry differ. -/
def ChangesFirst (xs ys : List ResultDoc) : Prop :=
  ∀ first rest, xs = first :: rest → ∃ types, ys = { first with types := types } :: rest

theorem ChangesFirst.trans {xs ys zs : List ResultDoc} (h : ChangesFirst xs ys)
    (h' : ChangesFirst ys zs) : ChangesFirst xs zs := by
  intro first rest hx
  obtain ⟨types, hy⟩ := h first rest hx
  exact h' { first with types := types } rest hy

theorem mergeReturn_changesFirst (marker : String) (declared : TypeRef) (returns : List ResultDoc) :
    ChangesFirst returns (mergeReturn marker declared returns).1 := by
  rintro first rest rfl
  unfold mergeReturn
  dsimp only
  split
  · exact ⟨first.types, rfl⟩
  · exact ⟨_, rfl⟩

theorem recordSignature_prefix (c : Callable) (signatures : List Signature) :
    signatures <+: recordSignature c signatures := by
  unfold recordSignature
  split
  · exact List.prefix_refl _
  · exact List.prefix_append _ _

theorem mergeSignature_fillsGaps (settings : Settings) (settled : Bool) (d : Doclet)
    (c : Callable) :
    d.FillsGaps settings.truncationMarker
      { mergeSignature settings settled d c with returns := d.returns } :=
  { FillsGaps.refl settings.truncationMarker d with
    signatures := recordSignature_prefix c _
    params := mergeParams_kept settings _ _ _ }

theorem foldl_mergeSignature_fillsGaps (settings : Settings) (settled : Bool) (cs : List Callable)
    (d : Doclet) :
    d.FillsGaps settings.truncationMarker
      { cs.foldl (mergeSignature settings settled) d with returns := d.returns } := by
  induction cs generalizing d with
  | nil => exact .refl _ d
  | cons c cs ih =>
    refine (mergeSignature_fillsGaps settings settled d c).trans ?_
    exact { ih (mergeSignature settings settled d c) with returns := .refl ResultDoc.Kept.refl }

theorem foldl_mergeSignature_changesFirst (settings : Settings) (cs : List Callable) (d : Doclet) :
    ChangesFirst (d.returns.getD [])
      ((cs.foldl (mergeSignature settings false) d).returns.getD []) := by
  induction cs generalizing d with
  | nil => exact fun first rest h => ⟨first.types, h⟩
  | cons c cs ih =>
    exact (mergeReturn_changesFirst settings.truncationMarker c.returnType _).trans
      (ih (mergeSignature settings false d c))

theorem foldl_mergeSignature_settled (settings : Settings) (cs : List Callable) (d : Doclet) :
    (cs.foldl (mergeSignature settings true) d).returns.getD [] = d.returns.getD [] := by
  induction cs generalizing d with
  | nil => rfl
  | cons c cs ih => exact ih (mergeSignature settings true d c)

/-- Results stay when their type was settled, and else the first of them had no
type to lose. -/
theorem foldl_mergeSignature_returns (settings : Settings) (cs : List Callable) (d : Doclet) :
    KeptAlong ResultDoc.Kept (d.returns.getD [])
      ((cs.foldl (mergeSignature settings d.returnSettled) d).returns.getD []) := by
  cases hs : d.returnSettled with
  | true =>
    rw [foldl_mergeSignature_settled]
    exact .refl ResultDoc.Kept.refl
  | false =>
    cases hr : d.returns.getD [] with
    | nil => exact .nil
    | cons first rest =>
      obtain ⟨types, hy⟩ := foldl_mergeSignature_changesFirst settings cs d first rest hr
      rw [hy]
      have hn : hasNames first.types = false := by
        cases hd : d.returns with
        | none => simp [hd] at hr
        | some returns =>
          obtain rfl : returns = first :: rest := by simpa [hd] using hr
          simpa [returnSettled, hd] using hs
      exact .cons ⟨rfl, fun h => by simp [hn] at h⟩ (.refl ResultDoc.Kept.refl)

theorem reconcileOverloads_fillsGaps (settings : Settings) (d : Doclet) :
    d.FillsGaps settings.truncationMarker (d.reconcileOverloads settings) := by
  unfold reconcileOverloads
  split
  · exact .refl _ d
  · have hs : d.returnSettled = d.withLists.returnSettled := by
      unfold returnSettled withLists
      cases d.returns <;> rfl
    have hf := foldl_mergeSignature_fillsGaps settings d.withLists.returnSettled
      (Fact.signaturesOf d.facts) d.withLists
    have hr := foldl_mergeSignature_returns settings (Fact.signaturesOf d.facts) d.withLists
    rw [hs]
    exact (withLists_fillsGaps d).trans { hf with returns := hr }

/-! Structural types and classes. -/

theorem unrollInterface_fillsGaps (context : Context) (i : InterfaceFact) (d : Doclet) :
    d.FillsGaps marker (d.unrollInterface context i).doclet :=
  { FillsGaps.refl marker d with
    augments := fun h => if_neg (by simp [h])
    types := fun h => by
      obtain ⟨types, ht⟩ := Option.ne_none_iff_exists'.mp h
      simp [unrollInterface, ht]
    properties := alignMembers_kept _ _ _ }

theorem unrollAlias_fillsGaps (settings : Settings) (a : AliasFact) (d : Doclet) :
    d.FillsGaps marker (d.unrollAlias settings a) :=
  { FillsGaps.refl marker d with
    types := fun h => by
      obtain ⟨types, ht⟩ := Option.ne_none_iff_exists'.mp h
      simp [unrollAlias, ht] }

theorem unrollStructure_fillsGaps (context : Context) (d : Doclet) :
    d.FillsGaps marker (d.unrollStructure context).doclet := by
  unfold unrollStructure
  split
  · exact unrollInterface_fillsGaps context _ d
  · exact unrollAlias_fillsGaps _ _ d
  · exact .refl marker d

theorem classBackfill_fillsGaps (d : Doclet) : d.FillsGaps marker d.classBackfill := by
  unfold classBackfill
  split
  · exact .refl marker d
  · exact { FillsGaps.refl marker d with
      implements := fun h => if_neg (by simp [h])
      augments := fun h => if_neg (by simp [h]) }

theorem fillField_fillsGaps (c : ClassFieldFact) (d : Doclet) :
    d.FillsGaps marker (d.fillField c) := by
  have ha : d.FillsGaps marker
      (if isRestricted c.accessibility then d.setAccess c.accessibility else d) := by
    split
    · exact setAccess_fillsGaps d _
    · exact .refl marker d
  refine ha.trans { FillsGaps.refl marker _ with types := fun h => ?_ }
  obtain ⟨types, ht⟩ := Option.ne_none_iff_exists'.mp h
  simp [fillField, ht]

theorem makeStatic_fillsGaps (dictionary : Dictionary) (d : Doclet) :
    d.FillsGaps marker (d.makeStatic dictionary).doclet := by
  obtain ⟨n, hn⟩ := exists_resolve_eq dictionary
    { d with scope := some Scope.static.name, longname := none }
  have hd : (d.makeStatic dictionary).doclet = d.withNames n := hn
  rw [hd]
  exact { FillsGaps.refl marker d with }

theorem classMemberBackfill_fillsGaps (dictionary : Dictionary) (d : Doclet) :
    d.FillsGaps marker (d.classMemberBackfill dictionary).doclet := by
  unfold classMemberBackfill
  split
  · exact .refl marker d
  next c hc =>
    dsimp only
    split
    · exact (fillField_fillsGaps c d).trans (makeStatic_fillsGaps dictionary _)
    · exact fillField_fillsGaps c d

/-! All passes. -/

/-- A doclet after all passes but the one for class fields. -/
def withFacts (context : Context) (d : Doclet) : Doclet :=
  let d := d.functionBackfill.reconcileOverloads context.settings
  let d := if d.isStructural then (d.unrollStructure context).doclet else d
  d.classBackfill

theorem withFacts_fillsGaps (context : Context) (d : Doclet) :
    d.FillsGaps context.settings.truncationMarker (d.withFacts context) := by
  have hf := (functionBackfill_fillsGaps d).trans
    (reconcileOverloads_fillsGaps context.settings d.functionBackfill)
  unfold withFacts
  dsimp only
  split
  · exact (hf.trans (unrollStructure_fillsGaps context _)).trans (classBackfill_fillsGaps _)
  · exact hf.trans (classBackfill_fillsGaps _)

theorem names_setAccess (d : Doclet) (level : Option String) :
    (d.setAccess level).names = d.names := by
  unfold setAccess
  split <;> rfl

theorem names_functionBackfill (d : Doclet) : d.functionBackfill.names = d.names := by
  unfold functionBackfill
  split
  · rfl
  · unfold fillCallable
    split
    · exact names_setAccess _ _
    · rfl

theorem reconcileOverloads_keeps {α : Type} {read : Doclet → α} {settings : Settings}
    (hlists : ∀ d : Doclet, read d.withLists = read d)
    (hmerge : ∀ settled d c, read (mergeSignature settings settled d c) = read d) (d : Doclet) :
    read (d.reconcileOverloads settings) = read d := by
  have hfold : ∀ (settled : Bool) (cs : List Callable) (d : Doclet),
      read (cs.foldl (mergeSignature settings settled) d) = read d := by
    intro settled cs
    induction cs with
    | nil => exact fun d => rfl
    | cons c cs ih => exact fun d => (ih (mergeSignature settings settled d c)).trans (hmerge _ _ _)
  unfold reconcileOverloads
  split
  · rfl
  · exact (hfold _ _ _).trans (hlists d)

theorem names_reconcileOverloads (settings : Settings) (d : Doclet) :
    (d.reconcileOverloads settings).names = d.names :=
  reconcileOverloads_keeps (fun _ => rfl) (fun _ _ _ => rfl) d

theorem names_unrollStructure (context : Context) (d : Doclet) :
    (d.unrollStructure context).doclet.names = d.names := by
  unfold unrollStructure
  split <;> rfl

theorem names_classBackfill (d : Doclet) : d.classBackfill.names = d.names := by
  unfold classBackfill
  split <;> rfl

theorem names_withFacts (context : Context) (d : Doclet) :
    (d.withFacts context).names = d.names := by
  unfold withFacts
  dsimp only
  rw [names_classBackfill]
  split
  · rw [names_unrollStructure, names_reconcileOverloads, names_functionBackfill]
  · rw [names_reconcileOverloads, names_functionBackfill]

theorem names_fillField (c : ClassFieldFact) (d : Doclet) : (d.fillField c).names = d.names := by
  unfold fillField
  dsimp only
  split
  · exact names_setAccess d _
  · rfl

theorem fault_unrollStructure {context : Context} (hd : context.dictionary.ReadsTypes)
    (d : Doclet) : (d.unrollStructure context).fault = none := by
  unfold unrollStructure
  split
  · simp [unrollInterface, alignMembers_isDone hd]
  · rfl
  · rfl

theorem exports_unrollStructure (context : Context) (d : Doclet) :
    (d.unrollStructure context).exports = [] := by
  unfold unrollStructure
  split <;> rfl

theorem classMemberBackfill_ends (dictionary : Dictionary) (d : Doclet) :
    (d.classMemberBackfill dictionary).Ends [] (d.classMemberBackfill dictionary).doclet := by
  unfold classMemberBackfill
  split
  · exact ⟨rfl, rfl, rfl⟩
  · dsimp only
    split <;> exact ⟨rfl, rfl, rfl⟩

/-- The passes run to the end when the structural one, if it runs, does. -/
theorem enrich_ends_of_unrolls {context : Context} {d : Doclet}
    (hd : let e := d.functionBackfill.reconcileOverloads context.settings
      e.isStructural = true → (e.unrollStructure context).fault = none) :
    (d.enrich context).Ends []
      ((d.withFacts context).classMemberBackfill context.dictionary).doclet := by
  let e := d.functionBackfill.reconcileOverloads context.settings
  have hunroll : (if e.isStructural then e.unrollStructure context else { doclet := e }).Ends []
      (if e.isStructural then (e.unrollStructure context).doclet else e) := by
    split
    next h => exact ⟨hd h, exports_unrollStructure context e, rfl⟩
    next => exact ⟨rfl, rfl, rfl⟩
  have hoverloads := (Progress.ends_noted d.functionBackfill d.functionNotes).andThen
    (fun d => { doclet := d.reconcileOverloads context.settings, notes := d.overloadNotes })
    (Progress.ends_noted e d.functionBackfill.overloadNotes)
  have hstructure := hoverloads.andThen
    (fun d => if d.isStructural then d.unrollStructure context else { doclet := d }) hunroll
  have hclass := hstructure.andThen
    (fun d => { doclet := d.classBackfill, notes := d.classNotes }) (Progress.ends_noted _ _)
  exact hclass.andThen (fun d => d.classMemberBackfill context.dictionary)
    (classMemberBackfill_ends context.dictionary (d.withFacts context))

/-- The passes run to the end when type tags are read as types. -/
theorem enrich_ends {context : Context} (hd : context.dictionary.ReadsTypes) (d : Doclet) :
    (d.enrich context).Ends []
      ((d.withFacts context).classMemberBackfill context.dictionary).doclet :=
  enrich_ends_of_unrolls fun _ => fault_unrollStructure hd _

section Background

variable (context : Context) (d : Doclet)

theorem background_functionBackfill : d.functionBackfill.background = d.background :=
  have h : d.FillsGaps "" d.functionBackfill := functionBackfill_fillsGaps d
  h.background

theorem background_reconcileOverloads (settings : Settings) :
    (d.reconcileOverloads settings).background = d.background :=
  (reconcileOverloads_fillsGaps settings d).background

theorem background_unrollStructure :
    (d.unrollStructure context).doclet.background = d.background :=
  have h : d.FillsGaps "" (d.unrollStructure context).doclet := unrollStructure_fillsGaps context d
  h.background

theorem background_classBackfill : d.classBackfill.background = d.background :=
  have h : d.FillsGaps "" d.classBackfill := classBackfill_fillsGaps d
  h.background

theorem background_classMemberBackfill (dictionary : Dictionary) :
    (d.classMemberBackfill dictionary).doclet.background = d.background :=
  have h : d.FillsGaps "" (d.classMemberBackfill dictionary).doclet :=
    classMemberBackfill_fillsGaps dictionary d
  h.background

/-- The passes leave the background alone, also when one of them fails. -/
theorem background_enrich : (d.enrich context).doclet.background = d.background := by
  have hstructure : ∀ e : Doclet,
      (if e.isStructural then e.unrollStructure context else { doclet := e }).doclet.background =
        e.background := by
    intro e
    split
    · exact background_unrollStructure context e
    · rfl
  unfold enrich
  dsimp only
  rw [Progress.read_andThen background fun e =>
      background_classMemberBackfill e context.dictionary,
    Progress.read_andThen background background_classBackfill,
    Progress.read_andThen background hstructure,
    Progress.read_andThen background fun e => background_reconcileOverloads e context.settings]
  exact background_functionBackfill d

end Background

theorem place_eq_of_background {d e : Doclet} (h : e.background = d.background) :
    e.place = d.place := by
  change e.background.place = d.background.place
  rw [h]

theorem movesToStatic_withFacts {context : Context} {d : Doclet} :
    (d.withFacts context).MovesToStatic ↔ d.MovesToStatic := by
  have hplace := place_eq_of_background (withFacts_fillsGaps context d).background
  have hscope := congrArg Names.scope (names_withFacts context d)
  have hfield : (d.withFacts context).classField? = d.classField? := by
    simp only [classField?, firstFact?, facts, hplace]
  simp only [names] at hscope
  simp only [MovesToStatic, hfield, hscope]

theorem names_classMemberBackfill {dictionary : Dictionary} {d : Doclet} (h : ¬ d.MovesToStatic) :
    (d.classMemberBackfill dictionary).doclet.names = d.names := by
  unfold classMemberBackfill
  split
  · rfl
  next c hc =>
    dsimp only
    have hscope : (d.fillField c).scope = d.scope := congrArg Names.scope (names_fillField c d)
    rw [if_neg ?_]
    · exact names_fillField c d
    · rw [hscope, Bool.and_eq_true, bne_iff_ne]
      exact fun hs => h ⟨c, hc, hs⟩

/-- Enrichment only fills gaps. It always runs to its end, keeps every field it
is not meant to fill, fills the others only where they say nothing, and leaves
the names alone unless a static field has another scope. -/
theorem enrich_fills_gaps (settings : Settings) (exports : ExportIndex) (d : Doclet) :
    let work := d.enrich { settings, exports }
    work.fault = none ∧ d.FillsGaps settings.truncationMarker work.doclet ∧
      (¬ d.MovesToStatic → work.doclet.names = d.names) := by
  let context : Context := { settings, exports }
  have hd : context.dictionary.ReadsTypes := Dictionary.readsTypes_standard
  have hends := enrich_ends hd d
  refine ⟨hends.fault, ?_, fun h => ?_⟩
  · rw [hends.doclet]
    exact (withFacts_fillsGaps context d).trans
      (classMemberBackfill_fillsGaps .standard _)
  · rw [hends.doclet, names_classMemberBackfill (mt movesToStatic_withFacts.mp h), names_withFacts]

end DocComment.Doclet
