import DocComment.Proofs.Enrich.Gaps

/-! Overloads that have been reconciled once have nothing to add. A union that has
taken in a type has no more use for it, whatever else it takes in afterwards, and
the same goes for results, parameters and recorded signatures. -/

namespace DocComment.Doclet

/-! Unions. -/

section Union

variable {marker : String} {names : List String} {type : String}

theorem growUnion_eq_self_iff :
    growUnion marker names type = (names, false) ↔ type ∈ names ∨ 2 ≤ names.length := by
  by_cases hmem : type ∈ names
  · simp [growUnion, hmem]
  · rcases names with _ | ⟨one, _ | ⟨two, more⟩⟩
    · simp [growUnion]
    · have hne : type ≠ one := by simpa using hmem
      simp [growUnion, hne]
    · simp [growUnion]

theorem growUnion_begins (marker : String) (names : List String) (type : String) :
    names <+: (growUnion marker names type).1 := by
  rcases growUnion_cases marker names type with rfl | hg | ⟨t, rfl, hg⟩
  · exact List.nil_prefix
  · exact ⟨[], by rw [hg, List.append_nil]⟩
  · exact ⟨[marker], by rw [hg]; rfl⟩

theorem growUnion_repeat (marker : String) (names : List String) (type : String) :
    growUnion marker (growUnion marker names type).1 type =
      ((growUnion marker names type).1, false) := by
  rw [growUnion_eq_self_iff]
  by_cases hmem : type ∈ names
  · exact .inl ((growUnion_begins marker names type).subset hmem)
  · rcases names with _ | ⟨one, _ | ⟨two, more⟩⟩
    · exact .inl (by simp [growUnion])
    · have hne : type ≠ one := by simpa using hmem
      exact .inr (by simp [growUnion, hne])
    · exact .inr (Nat.le_trans (by simp) (growUnion_begins marker _ type).length_le)

/-- A union that has no use for a type never gets one. -/
theorem growUnion_idle (h : growUnion marker names type = (names, false)) (other : String) :
    growUnion marker (growUnion marker names other).1 type =
      ((growUnion marker names other).1, false) := by
  have hbegins := growUnion_begins marker names other
  rw [growUnion_eq_self_iff] at h ⊢
  exact h.imp (hbegins.subset ·) fun hlen => Nat.le_trans hlen hbegins.length_le

theorem growUnion_ne_nil (marker : String) (names : List String) (type : String) :
    (growUnion marker names type).1 ≠ [] := by
  intro hnil
  have hsettled := growUnion_eq_self_iff.mp (growUnion_repeat marker names type)
  simp [hnil] at hsettled

end Union

/-! Parameters. -/

/-- Whether a signature says nothing about the type of a parameter. -/
def passesOver (settings : Settings) (name : Option String) (p : DeclaredParam)
    (documented : Option String) : Bool :=
  let id := (((said documented).or (said name)).or (said (some p.id))).getD ""
  occursIn settings.variadicMarker.toList id.toList || (p.type.map TypeRef.typeId).getD "" = ""

theorem mergeParam_eq (settings : Settings) (name : Option String) (p : DeclaredParam)
    (doc : ParamDoc) :
    mergeParam settings name p doc =
      if passesOver settings name p doc.name then (doc, false)
      else
        let grown := growUnion settings.truncationMarker (doc.types.getD [])
          ((p.type.map TypeRef.typeId).getD "")
        ({ doc with types := some grown.1 }, grown.2) := rfl

theorem name_mergeParam (settings : Settings) (name : Option String) (p : DeclaredParam)
    (doc : ParamDoc) : (mergeParam settings name p doc).1.name = doc.name := by
  rw [mergeParam_eq]
  split <;> rfl

theorem mergeParam_repeat (settings : Settings) (name : Option String) (p : DeclaredParam)
    (doc : ParamDoc) :
    mergeParam settings name p (mergeParam settings name p doc).1 =
      ((mergeParam settings name p doc).1, false) := by
  cases hp : passesOver settings name p doc.name with
  | true => simp [mergeParam_eq, hp]
  | false => simp [mergeParam_eq, hp, growUnion_repeat]

theorem mergeParam_idle {settings : Settings} {name : Option String} {p : DeclaredParam}
    {doc : ParamDoc} (h : mergeParam settings name p doc = (doc, false)) (other : Option String)
    (q : DeclaredParam) :
    mergeParam settings name p (mergeParam settings other q doc).1 =
      ((mergeParam settings other q doc).1, false) := by
  cases hq : passesOver settings other q doc.name with
  | true => simpa [mergeParam_eq settings other q, hq] using h
  | false =>
    cases hp : passesOver settings name p doc.name with
    | true => rw [mergeParam_eq, name_mergeParam, hp, if_pos rfl]
    | false =>
      -- the parameter has types, since its union has no use for this one
      rw [mergeParam_eq, hp, if_neg (by simp)] at h
      obtain ⟨hdoc, hgrew⟩ := Prod.mk.inj h
      have htypes := congrArg (fun doc => doc.types.getD []) hdoc
      have hidle : growUnion settings.truncationMarker (doc.types.getD [])
          ((p.type.map TypeRef.typeId).getD "") = (doc.types.getD [], false) :=
        Prod.ext htypes hgrew
      have hagain := growUnion_idle hidle ((q.type.map TypeRef.typeId).getD "")
      simp only [mergeParam_eq, hq, hp, Bool.false_eq_true, if_false, Option.getD_some, hagain]

theorem mergeParams_cons (settings : Settings) (names : List String) (p : Param)
    (declared : List Param) (doc : ParamDoc) (docs : List ParamDoc) :
    mergeParams settings names (p :: declared) (doc :: docs) =
      ((mergeParam settings names.head? p.declared doc).1 ::
          (mergeParams settings names.tail declared docs).1,
        (mergeParam settings names.head? p.declared doc).2 ||
          (mergeParams settings names.tail declared docs).2) := rfl

theorem mergeParams_nil (settings : Settings) (names : List String) (docs : List ParamDoc) :
    mergeParams settings names [] docs = (docs, false) := by
  unfold mergeParams
  rfl

theorem mergeParams_repeat (settings : Settings) (names : List String) (declared : List Param)
    (docs : List ParamDoc) :
    mergeParams settings names declared (mergeParams settings names declared docs).1 =
      ((mergeParams settings names declared docs).1, false) := by
  induction docs generalizing names declared with
  | nil => cases declared <;> rfl
  | cons doc docs ih =>
    cases declared with
    | nil => simp only [mergeParams_nil]
    | cons p declared => simp only [mergeParams_cons, mergeParam_repeat, ih, Bool.or_self]

theorem mergeParams_idle {settings : Settings} {names : List String} {declared : List Param}
    {docs : List ParamDoc} (h : mergeParams settings names declared docs = (docs, false))
    (others : List Param) :
    mergeParams settings names declared (mergeParams settings names others docs).1 =
      ((mergeParams settings names others docs).1, false) := by
  induction docs generalizing names declared others with
  | nil => cases others <;> exact h
  | cons doc docs ih =>
    cases others with
    | nil => simpa only [mergeParams_nil] using h
    | cons q others =>
      cases declared with
      | nil => simp only [mergeParams_nil]
      | cons p declared =>
        rw [mergeParams_cons, Prod.mk.injEq, List.cons.injEq, Bool.or_eq_false_iff] at h
        obtain ⟨⟨hdoc, hdocs⟩, hgrew, hmore⟩ := h
        have hfirst := mergeParam_idle (Prod.ext hdoc hgrew) names.head? q.declared
        have hrest := ih (Prod.ext hdocs hmore) others
        simp only [mergeParams_cons, hfirst, hrest, Bool.or_self]

/-! Results. -/

/-- Whether the first result has a type. -/
def firstTyped : List ResultDoc → Bool
  | [] => false
  | first :: _ => hasNames first.types

theorem returnSettled_eq (d : Doclet) : d.returnSettled = firstTyped (d.returns.getD []) := by
  unfold returnSettled
  rcases d.returns with _ | _ | _ <;> rfl

theorem hasNames_some {names : List String} (h : names ≠ []) : hasNames (some names) = true := by
  cases names with
  | nil => contradiction
  | cons => rfl

/-- A signature that does not give the first result a type says nothing about it. -/
theorem mergeReturn_cases (marker : String) (declared : TypeRef) (returns : List ResultDoc) :
    firstTyped (mergeReturn marker declared returns).1 = true ∨
      mergeReturn marker declared returns = (returns, false) := by
  cases returns with
  | nil =>
    by_cases hs : declared.string = ""
    · exact .inr (by simp [mergeReturn, hs])
    · exact .inl (by simp [mergeReturn, hs, firstTyped, hasNames])
  | cons first rest =>
    by_cases ht : declared.typeId = ""
    · exact .inr (by simp [mergeReturn, ht])
    · refine .inl ?_
      simp only [mergeReturn, ht, if_false, firstTyped]
      exact hasNames_some (growUnion_ne_nil _ _ _)

theorem firstTyped_mergeReturn {returns : List ResultDoc} (h : firstTyped returns = true)
    (marker : String) (declared : TypeRef) :
    firstTyped (mergeReturn marker declared returns).1 = true := by
  rcases mergeReturn_cases marker declared returns with hm | hm
  · exact hm
  · rw [hm]
    exact h

/-! Signatures. -/

/-- Nothing in a signature is new to the doclet. -/
structure Absorbs (settings : Settings) (d : Doclet) (c : Callable) : Prop where
  returns : d.returnSettled = true ∨
    mergeReturn settings.truncationMarker c.returnType (d.returns.getD []) =
      (d.returns.getD [], false)
  params : mergeParams settings (d.place.code.paramNames.getD []) c.parameters
    (d.params.getD []) = (d.params.getD [], false)
  recorded : ∃ signatures, d.signatures = some signatures ∧
    signatures.any (·.string == c.string) = true

theorem any_recordSignature (c : Callable) (signatures : List Signature) :
    (recordSignature c signatures).any (·.string == c.string) = true := by
  unfold recordSignature
  split
  next h => exact h
  next => simp

section Signatures

variable {settings : Settings} {settled : Bool} {d : Doclet}

theorem returnSettled_mergeSignature (hs : settled = true → d.returnSettled = true) (c : Callable)
    (h : d.returnSettled = true) : (mergeSignature settings settled d c).returnSettled = true := by
  rw [returnSettled_eq] at h ⊢
  cases settled with
  | true => exact h
  | false => exact firstTyped_mergeReturn h _ _

/-- Merging a signature leaves the result with a type or as it was. -/
theorem returns_mergeSignature (hs : settled = true → d.returnSettled = true) (c : Callable) :
    (mergeSignature settings settled d c).returnSettled = true ∨
      ((mergeSignature settings settled d c).returns.getD [] = d.returns.getD [] ∧
        mergeReturn settings.truncationMarker c.returnType (d.returns.getD []) =
          (d.returns.getD [], false)) := by
  cases settled with
  | true => exact .inl (returnSettled_mergeSignature hs c (hs rfl))
  | false =>
    rcases mergeReturn_cases settings.truncationMarker c.returnType (d.returns.getD []) with h | h
    · refine .inl ?_
      rw [returnSettled_eq]
      exact h
    · exact .inr ⟨congrArg Prod.fst h, h⟩

theorem absorbs_mergeSignature (hs : settled = true → d.returnSettled = true) (c : Callable) :
    (mergeSignature settings settled d c).Absorbs settings c where
  returns := by
    rcases returns_mergeSignature hs c with h | ⟨hr, h⟩
    · exact .inl h
    · exact .inr (by rw [hr, h])
  params := mergeParams_repeat settings _ _ _
  recorded := ⟨_, rfl, any_recordSignature c _⟩

theorem Absorbs.mergeSignature {c : Callable} (h : d.Absorbs settings c)
    (hs : settled = true → d.returnSettled = true) (other : Callable) :
    (mergeSignature settings settled d other).Absorbs settings c where
  returns := by
    rcases returns_mergeSignature hs other with ho | ⟨hr, -⟩
    · exact .inl ho
    · refine h.returns.imp (returnSettled_mergeSignature hs other) fun hc => ?_
      rw [hr, hc]
  params := mergeParams_idle h.params other.parameters
  recorded := by
    obtain ⟨signatures, hd, hc⟩ := h.recorded
    obtain ⟨more, hmore⟩ := recordSignature_prefix other signatures
    refine ⟨recordSignature other signatures, by simp [Doclet.mergeSignature, hd], ?_⟩
    rw [← hmore, List.any_append, hc, Bool.true_or]

theorem mergeSignature_of_absorbs {c : Callable} (h : d.Absorbs settings c)
    (hlists : d.withLists = d) : mergeSignature settings d.returnSettled d c = d := by
  obtain ⟨signatures, hsig, hany⟩ := h.recorded
  have hreturns : some (d.returns.getD []) = d.returns := congrArg Doclet.returns hlists
  have hparams : some (d.params.getD []) = d.params := congrArg Doclet.params hlists
  have hmerged : (if d.returnSettled then (d.returns.getD [], false)
      else mergeReturn settings.truncationMarker c.returnType (d.returns.getD [])) =
      (d.returns.getD [], false) := by
    rcases h.returns with hr | hr
    · rw [if_pos hr]
    · rw [hr, ite_self]
  have hrecord : recordSignature c signatures = signatures := by simp [recordSignature, hany]
  simp only [Doclet.mergeSignature, hmerged, h.params, hsig, Option.getD_some, hrecord,
    Bool.or_self, mergeTypeParams, Bool.false_and, Bool.false_eq_true, if_false, hreturns, hparams]
  rw [← hsig]

end Signatures

/-! A whole run over the signatures. -/

theorem foldl_mergeSignature_absorbs (settings : Settings) {settled : Bool} (cs : List Callable)
    {d : Doclet} (hs : settled = true → d.returnSettled = true) :
    (∀ c ∈ cs, (cs.foldl (mergeSignature settings settled) d).Absorbs settings c) ∧
      ∀ c, d.Absorbs settings c →
        (cs.foldl (mergeSignature settings settled) d).Absorbs settings c := by
  induction cs generalizing d with
  | nil => exact ⟨fun c hc => by simp at hc, fun c hc => hc⟩
  | cons first cs ih =>
    have hnext : settled = true → (mergeSignature settings settled d first).returnSettled = true :=
      fun h => returnSettled_mergeSignature hs first (hs h)
    obtain ⟨hrun, hkept⟩ := ih hnext
    refine ⟨fun c hc => ?_, fun c hc => hkept c (hc.mergeSignature hs first)⟩
    rcases List.mem_cons.mp hc with rfl | hc
    · exact hkept c (absorbs_mergeSignature hs c)
    · exact hrun c hc

theorem foldl_mergeSignature_of_absorbs {settings : Settings} {d : Doclet} {cs : List Callable}
    (h : ∀ c ∈ cs, d.Absorbs settings c) (hlists : d.withLists = d) :
    cs.foldl (mergeSignature settings d.returnSettled) d = d := by
  induction cs with
  | nil => rfl
  | cons c cs ih =>
    rw [List.foldl_cons, mergeSignature_of_absorbs (h c List.mem_cons_self) hlists]
    exact ih fun c hc => h c (List.mem_cons_of_mem _ hc)

/-- A doclet with nothing left to reconcile. -/
def IsReconciled (settings : Settings) (d : Doclet) : Prop :=
  d.facts ≠ [] → d.withLists = d ∧ ∀ c ∈ Fact.signaturesOf d.facts, d.Absorbs settings c

theorem withLists_mergeSignature (settings : Settings) (settled : Bool) (d : Doclet)
    (c : Callable) :
    (mergeSignature settings settled d c).withLists = mergeSignature settings settled d c := rfl

theorem withLists_foldl_mergeSignature (settings : Settings) (settled : Bool) (cs : List Callable)
    {d : Doclet} (h : d.withLists = d) :
    (cs.foldl (mergeSignature settings settled) d).withLists =
      cs.foldl (mergeSignature settings settled) d := by
  induction cs generalizing d with
  | nil => exact h
  | cons c cs ih => exact ih (withLists_mergeSignature settings settled d c)

theorem facts_reconcileOverloads (settings : Settings) (d : Doclet) :
    (d.reconcileOverloads settings).facts = d.facts := by
  have hplace := place_eq_of_background (reconcileOverloads_fillsGaps settings d).background
  simp only [facts, hplace]

theorem returnSettled_withLists (d : Doclet) : d.withLists.returnSettled = d.returnSettled := by
  rw [returnSettled_eq, returnSettled_eq]
  rfl

theorem reconcileOverloads_eq_foldl (settings : Settings) {d : Doclet} (h : d.facts ≠ []) :
    d.reconcileOverloads settings =
      (Fact.signaturesOf d.facts).foldl (mergeSignature settings d.returnSettled) d.withLists := by
  rw [reconcileOverloads, if_neg (by simpa using h)]
  rfl

/-- What the signatures make of the lists of a doclet, if there are any facts or not. -/
theorem lists_reconcileOverloads (settings : Settings) (d : Doclet) :
    let after := d.reconcileOverloads settings
    let merged := (Fact.signaturesOf d.facts).foldl (mergeSignature settings d.returnSettled)
      d.withLists
    after.params.getD [] = merged.params.getD [] ∧
      after.returns.getD [] = merged.returns.getD [] ∧
      after.signatures.getD [] = merged.signatures.getD [] := by
  by_cases hfacts : d.facts = []
  · simp [reconcileOverloads, hfacts, Fact.signaturesOf, withLists]
  · rw [reconcileOverloads_eq_foldl settings hfacts]
    exact ⟨rfl, rfl, rfl⟩

theorem isReconciled_reconcileOverloads (settings : Settings) (d : Doclet) :
    (d.reconcileOverloads settings).IsReconciled settings := by
  intro hfacts
  rw [facts_reconcileOverloads] at hfacts ⊢
  have hsettled : d.returnSettled = true → d.withLists.returnSettled = true := by
    rw [returnSettled_withLists]
    exact id
  rw [reconcileOverloads_eq_foldl settings hfacts]
  exact ⟨withLists_foldl_mergeSignature _ _ _ rfl,
    (foldl_mergeSignature_absorbs settings _ hsettled).1⟩

theorem reconcileOverloads_of_isReconciled {settings : Settings} {d : Doclet}
    (h : d.IsReconciled settings) : d.reconcileOverloads settings = d := by
  by_cases hfacts : d.facts = []
  · simp [reconcileOverloads, hfacts]
  · obtain ⟨hlists, habsorbs⟩ := h hfacts
    rw [reconcileOverloads_eq_foldl settings hfacts, hlists]
    exact foldl_mergeSignature_of_absorbs habsorbs hlists

end DocComment.Doclet
