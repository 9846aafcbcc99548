import DocComment.Proofs.Enrich.Alignment

/-! How many parameters a doclet has after its declaration was followed, and what each
of them says. Three lists of any lengths are walked side by side: the documentation, the
names in the code, and the declared parameters in their wrappers. There is an entry for
every name; documentation that reaches further stays as it is. -/

namespace DocComment

namespace Param

/-- The parameter without the property that it declares. -/
def inner : Param → BasicParam
  | .basic p => p
  | .property p => p.parameter

/-- The pattern that gives the parameter a default. -/
def pattern? (p : Param) : Option DefaultParam :=
  match p.inner with
  | .plain _ => none
  | .withDefault q => some q

/-- The parameter inside all wrappers. -/
def core (p : Param) : PlainParam :=
  match p.inner with
  | .plain q => q
  | .withDefault q => q.left

/-- The default in a pattern comes before one of the parameter's own. -/
def default? (p : Param) : Option TypeRef :=
  match p.pattern? with
  | some q => q.right
  | none => p.core.default

def isOptional (p : Param) : Bool := p.core.optional || p.pattern?.isSome

/-- Taking the wrappers off one by one reads the same as looking through them. -/
theorem declared_eq (p : Param) :
    p.declared = ⟨p.core.id, p.core.declared, p.isOptional, p.default?⟩ := by
  have hinner : p.declared = p.inner.declared := by cases p <;> rfl
  cases h : p.inner with
  | plain q => simp [hinner, h, BasicParam.declared, core, isOptional, pattern?, default?]
  | withDefault q => simp [hinner, h, BasicParam.declared, core, isOptional, pattern?, default?]

end Param

namespace Doclet

/-- The entry of a parameter says what its documentation said, and where that said
nothing, what is declared for it. -/
structure SaysEither (name : String) (declared : Option Param) (old : Option ParamDoc)
    (entry : ParamDoc) : Prop where
  name : entry.name = some (((said (old.bind (·.name))).or
    ((said (declared.map (·.core.id))).or (said (some name)))).getD "")
  types : entry.types.getD [] = if hasNames (old.bind (·.types)) then (old.bind (·.types)).getD []
    else ((declared.bind (·.core.declared)).map TypeRef.typeId).toList
  default : said entry.default = (said (old.bind (·.default))).or
    (said ((declared.bind Param.default?).map (·.string)))
  optional : entry.optional = if declared.any Param.isOptional then some true
    else old.bind (·.optional)
  description : entry.description = (old.map (·.description)).getD (some "")
  nullable : entry.nullable = old.bind (·.nullable)
  variadic : entry.variadic = old.bind (·.variadic)

/-- What is declared at an index, or nothing. -/
def declaredAt (declared : Option Param) : DeclaredParam := (declared.map Param.declared).getD {}

theorem declaredAt_eq (declared : Option Param) :
    declaredAt declared = ⟨(declared.map (·.core.id)).getD "", declared.bind (·.core.declared),
      declared.any Param.isOptional, declared.bind Param.default?⟩ := by
  cases declared with
  | none => rfl
  | some p => simp [declaredAt, Param.declared_eq]

theorem said_some_getD (x : Option String) : said (some (x.getD "")) = said x := by
  cases x <;> simp [said]

theorem name_newParam (name : String) (declared : Option Param) :
    (newParam name (declaredAt declared)).name =
      some (((said (declared.map (·.core.id))).or (said (some name))).getD "") := by
  simp only [newParam, declaredAt_eq, said_some_getD]

theorem defaultText_declaredAt (declared : Option Param) :
    (declaredAt declared).defaultText = said ((declared.bind Param.default?).map (·.string)) := by
  rw [DeclaredParam.defaultText, declaredAt_eq]

theorem saysEither_newParam (name : String) (declared : Option Param) :
    SaysEither name declared none (newParam name (declaredAt declared)) where
  name := name_newParam name declared
  types := by
    simp only [newParam, declaredAt_eq]
    cases declared.bind (·.core.declared) <;> rfl
  default := by
    simp only [newParam, defaultText_declaredAt, said_said]
    rfl
  optional := by
    simp only [newParam, declaredAt_eq]
    rfl
  description := rfl
  nullable := rfl
  variadic := rfl

theorem saysEither_fillParam (name : String) (declared : Option Param) (doc : ParamDoc) :
    SaysEither name declared (some doc) (fillParam name (declaredAt declared) doc) where
  name := by
    simp only [fillParam, name_newParam, Option.bind_some]
    cases said doc.name <;> rfl
  types := by
    simp only [fillParam, declaredAt_eq, Option.bind_some]
    cases hnames : hasNames doc.types with
    | true => cases declared.bind (·.core.declared) <;> simp
    | false =>
      have hnone : doc.types.getD [] = [] := by
        cases htypes : doc.types with
        | none => rfl
        | some names => cases names <;> simp_all [hasNames]
      cases declared.bind (·.core.declared) <;> simp [hnone]
  default := by
    simp only [fillParam, Option.bind_some, defaultText_declaredAt]
    cases hdoc : said doc.default with
    | some s =>
      rw [Option.some_or]
      exact said_eq_some.mpr ⟨rfl, (said_eq_some.mp hdoc).2⟩
    | none =>
      rw [Option.none_or]
      cases htext : said ((declared.bind Param.default?).map (·.string)) with
      | some s => exact said_eq_some.mpr ⟨rfl, (said_eq_some.mp htext).2⟩
      | none => rw [Option.none_or, hdoc]
  optional := by
    simp only [fillParam, declaredAt_eq]
    rfl
  description := rfl
  nullable := rfl
  variadic := rfl

theorem length_fillParams (names : List String) (declared : List Param) (docs : List ParamDoc) :
    (fillParams names declared docs).length = max docs.length names.length := by
  fun_induction fillParams names declared docs with
  | case1 declared docs => simp
  | case2 name names declared ih => simp [ih]
  | case3 name names declared doc docs ih =>
    rw [List.length_cons, ih, List.length_cons, List.length_cons]
    omega

theorem getElem?_fillParams_of_undocumented {names : List String} {declared : List Param}
    {docs : List ParamDoc} {i : Nat} (h : docs[i]? = none) :
    (fillParams names declared docs)[i]? =
      names[i]?.map fun name => newParam name (declaredAt declared[i]?) := by
  fun_induction fillParams names declared docs generalizing i with
  | case1 declared docs => simpa using h
  | case2 name names declared ih =>
    cases i with
    | zero => simp [declaredAt, List.head?_eq_getElem?]
    | succ i => simpa using ih (i := i) rfl
  | case3 name names declared doc docs ih =>
    cases i with
    | zero => simp at h
    | succ i => simpa using ih (i := i) (by simpa using h)

/-- The first of the functions and methods among the facts counts. -/
theorem exists_declaration? {d : Doclet}
    (h : ∃ form c, Fact.callable form c ∈ d.facts ∧ (form = .function ∨ form = .method)) :
    ∃ c, d.declaration? = some c := by
  obtain ⟨form, c, hmem, hform⟩ := h
  have hsome : (d.firstFact? fun t => t = .callable .function || t = .callable .method).isSome := by
    rw [firstFact?, List.find?_isSome]
    refine ⟨_, hmem, ?_⟩
    rcases hform with rfl | rfl <;> rfl
  obtain ⟨first, hfirst⟩ := Option.isSome_iff_exists.mp hsome
  have hwanted := List.find?_some hfirst
  cases first with
  | callable form c => exact ⟨c, by simp [declaration?, hfirst]⟩
  | _ => cases hwanted

theorem saysEither_fillParams {names : List String} {i : Nat} {name : String}
    (h : names[i]? = some name) (declared : List Param) (docs : List ParamDoc) :
    ∃ entry, (fillParams names declared docs)[i]? = some entry ∧
      SaysEither name declared[i]? docs[i]? entry := by
  cases hdoc : docs[i]? with
  | none =>
    rw [getElem?_fillParams_of_undocumented hdoc, h]
    exact ⟨_, rfl, saysEither_newParam name declared[i]?⟩
  | some doc =>
    rw [getElem?_fillParams hdoc, h]
    exact ⟨_, rfl, saysEither_fillParam name declared[i]? doc⟩

theorem getElem?_fillParams_of_unnamed {names : List String} {i : Nat} (h : names.length ≤ i)
    (declared : List Param) (docs : List ParamDoc) :
    (fillParams names declared docs)[i]? = docs[i]? := by
  have hname : names[i]? = none := List.getElem?_eq_none h
  cases hdoc : docs[i]? with
  | none => rw [getElem?_fillParams_of_undocumented hdoc, hname, Option.map_none]
  | some doc => rw [getElem?_fillParams hdoc, hname]

/-- After the declaration was followed there are as many parameters as are documented or
named in the code, whichever is more. Each one with a name in the code says what was
documented or else what is declared at its index, and the others stay as they are. -/
theorem functionBackfill_params (d : Doclet)
    (h : ∃ form c, Fact.callable form c ∈ d.facts ∧ (form = .function ∨ form = .method)) :
    let names := d.place.code.paramNames.getD []
    let old := d.params.getD []
    ∃ (c : Callable) (new : List ParamDoc), d.declaration? = some c ∧
      d.functionBackfill.params = some new ∧ new.length = max old.length names.length ∧
      (∀ (i : Nat) (name : String), names[i]? = some name →
        ∃ entry, new[i]? = some entry ∧ SaysEither name c.parameters[i]? old[i]? entry) ∧
      ∀ i : Nat, names.length ≤ i → new[i]? = old[i]? := by
  intro names old
  obtain ⟨c, hc⟩ := exists_declaration? h
  refine ⟨c, _, hc, params_functionBackfill_eq_some hc, length_fillParams _ _ _, ?_, ?_⟩
  · intro i name hname
    exact saysEither_fillParams hname c.parameters old
  · intro i hi
    exact getElem?_fillParams_of_unnamed hi c.parameters old

/-- A documented parameter that is declared as a property with a default, one that is
neither documented nor has a name, and one that the declaration does not reach. -/
theorem functionBackfill_params_wrapped :
    let left : PlainParam := { id := "x", declared := some { string := "number" } }
    let first : Param :=
      .property { parameter := .withDefault { left, right := some { string := "1" } } }
    let second : Param := .basic (.plain { optional := true })
    let d : Doclet :=
      { params := some [{ name := some "a", description := some "A." }]
        place :=
          { facts := some [.callable .functionType {},
              .callable .method { parameters := [first, second] }]
            code := { paramNames := some ["x", "", "z"] } } }
    ∃ new, d.functionBackfill.params = some new ∧ new.length = 3 ∧
      (∃ a, new[0]? = some a ∧ a.name = some "a" ∧ a.types.getD [] = ["number"] ∧
        said a.default = some "1" ∧ a.optional = some true ∧ a.description = some "A.") ∧
      (∃ b, new[1]? = some b ∧ b.name = some "" ∧ b.types.getD [] = [] ∧
        b.optional = some true) ∧
      ∃ z, new[2]? = some z ∧ z.name = some "z" ∧ z.optional = none := by
  intro left first second d
  obtain ⟨c, new, hc, hnew, hlength, hentries, -⟩ := functionBackfill_params d
    ⟨.method, { parameters := [first, second] }, by simp [d, facts], .inr rfl⟩
  obtain rfl : { parameters := [first, second] } = c := Option.some.inj hc
  obtain ⟨a, ha, hasays⟩ := hentries 0 "x" rfl
  obtain ⟨b, hb, hbsays⟩ := hentries 1 "" rfl
  obtain ⟨z, hz, hzsays⟩ := hentries 2 "z" rfl
  exact ⟨new, hnew, hlength,
    ⟨a, ha, hasays.name, hasays.types, hasays.default, hasays.optional, hasays.description⟩,
    ⟨b, hb, hbsays.name, hbsays.types, hbsays.optional⟩, z, hz, hzsays.name, hzsays.optional⟩

end Doclet

end DocComment
