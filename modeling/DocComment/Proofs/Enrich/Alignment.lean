import DocComment.Proofs.Enrich.Repeat

/-! Which declared parameter a documented one is filled from. Tags may document parts
of a parameter, such as `opts.mode`, between the parameters themselves, while the
declaration is followed index by index. So behind the first part every entry is filled
from a parameter that is not its own, and what is told of one parameter stays with it
only where that makes no difference. -/

namespace DocComment

/-- The entry is about a part of a parameter. -/
def ParamDoc.isPart (doc : ParamDoc) : Bool := (doc.name.getD "").toList.contains '.'

namespace Doclet

/-- The documented parameters, parts aside, are the declared ones in their order. -/
structure Documents (c : Callable) (d : Doclet) : Prop where
  declaration : d.declaration? = some c
  ids : c.parameters.map (fun p => p.declared.id) = d.place.code.paramNames.getD []
  names : ((d.params.getD []).filter fun doc => !doc.isPart).map (fun doc => doc.name.getD "") =
    d.place.code.paramNames.getD []

/-- The declared parameter that the entry at an index is about: as many parameters come
before it as entries that are no parts. -/
def ownParam? (c : Callable) (docs : List ParamDoc) (i : Nat) : Option DeclaredParam :=
  (c.parameters[(docs.take i).countP fun doc => !doc.isPart]?).map Param.declared

/-- What is told of one parameter does not get to another: parts stay as they are, and
a parameter without a type gets the one that is declared for it. -/
structure FactsStayApart (c : Callable) (d : Doclet) : Prop where
  parts : ∀ (i : Nat) (doc : ParamDoc), (d.params.getD [])[i]? = some doc → doc.isPart = true →
    (d.functionBackfill.params.getD [])[i]? = some doc
  whole : ∀ (i : Nat) (doc : ParamDoc) (p : DeclaredParam) (t : TypeRef),
    (d.params.getD [])[i]? = some doc → doc.isPart = false → hasNames doc.types = false →
    ownParam? c (d.params.getD []) i = some p → p.type = some t →
    ∃ filled, (d.functionBackfill.params.getD [])[i]? = some filled ∧
      filled.types = some [t.typeId]

/-- A declared parameter tells nothing that the entry leaves open. -/
structure AddsNothing (p : DeclaredParam) (doc : ParamDoc) : Prop where
  optional : p.optional = true → doc.optional = some true
  default : said doc.default = none → p.defaultText = none
  types : p.type ≠ none → hasNames doc.types = true

/-- The parameter that is declared at the index of a part has nothing to add to it, and
the one at the index of a parameter without a type has the type of its own. -/
structure LinesUp (c : Callable) (docs : List ParamDoc) : Prop where
  parts : ∀ (i : Nat) (doc : ParamDoc) (p : Param), docs[i]? = some doc → doc.isPart = true →
    c.parameters[i]? = some p → AddsNothing p.declared doc
  whole : ∀ (i : Nat) (doc : ParamDoc) (p : DeclaredParam) (t : TypeRef), docs[i]? = some doc →
    doc.isPart = false → hasNames doc.types = false → ownParam? c docs i = some p →
    p.type = some t →
    ∃ q u, c.parameters[i]? = some q ∧ q.declared.type = some u ∧ u.typeId = t.typeId

theorem getElem?_filter_countP {α : Type} {p : α → Bool} {xs : List α} {i : Nat} {x : α}
    (h : xs[i]? = some x) (hx : p x = true) : (xs.filter p)[(xs.take i).countP p]? = some x := by
  induction xs generalizing i with
  | nil => simp at h
  | cons y ys ih =>
    cases i with
    | zero =>
      obtain rfl : y = x := by simpa using h
      simp [hx]
    | succ i =>
      have hys := ih (by simpa using h)
      by_cases hy : p y = true <;> simp [hy, hys]

theorem getElem?_fillParams {names : List String} {declared : List Param} {docs : List ParamDoc}
    {i : Nat} {doc : ParamDoc} (h : docs[i]? = some doc) :
    (fillParams names declared docs)[i]? = some (match names[i]? with
      | some name => fillParam name ((declared[i]?.map Param.declared).getD {}) doc
      | none => doc) := by
  induction docs generalizing names declared i with
  | nil => simp at h
  | cons first docs ih =>
    cases names with
    | nil => simpa [fillParams] using h
    | cons name names =>
      cases i with
      | zero =>
        obtain rfl : first = doc := by simpa using h
        simp [fillParams, List.head?_eq_getElem?]
      | succ i =>
        have hrest : (fillParams names declared.tail docs)[i]? = _ := ih (by simpa using h)
        simpa [fillParams] using hrest

theorem params_functionBackfill_eq_some {c : Callable} {d : Doclet}
    (h : d.declaration? = some c) :
    d.functionBackfill.params =
      some (fillParams (d.place.code.paramNames.getD []) c.parameters (d.params.getD [])) := by
  simp only [functionBackfill, h]
  rw [fillCallable, fillAccess_eq]
  rfl

theorem params_functionBackfill {c : Callable} {d : Doclet} (h : d.declaration? = some c) :
    d.functionBackfill.params.getD [] =
      fillParams (d.place.code.paramNames.getD []) c.parameters (d.params.getD []) := by
  rw [params_functionBackfill_eq_some h, Option.getD_some]

theorem fillParam_eq_self_iff {name : String} {p : DeclaredParam} {doc : ParamDoc} :
    fillParam name p doc = doc ↔ SaysDeclared name p doc :=
  ⟨fun h => h ▸ saysDeclared_fillParam name p doc, fillParam_of_saysDeclared⟩

/-- A part has a name, so the one that is declared does not matter. -/
theorem saysDeclared_iff_of_isPart {doc : ParamDoc} (h : doc.isPart = true) (name : String)
    (p : DeclaredParam) :
    SaysDeclared name p doc ↔ AddsNothing p doc := by
  have hname : said doc.name ≠ none := by
    cases hn : doc.name with
    | none => simp [ParamDoc.isPart, hn] at h
    | some s =>
      have hs : s ≠ "" := by
        rintro rfl
        simp [ParamDoc.isPart, hn] at h
      simp [said, hs]
  constructor
  · rintro ⟨-, hoptional, hdefault, htypes⟩
    refine ⟨hoptional, hdefault, fun ht => ?_⟩
    obtain ⟨t, ht⟩ := Option.ne_none_iff_exists'.mp ht
    exact htypes t ht
  · rintro ⟨hoptional, hdefault, htypes⟩
    exact ⟨fun hn => absurd hn hname, hoptional, hdefault, fun t ht => htypes (by simp [ht])⟩

theorem types_fillParam {doc : ParamDoc} (h : hasNames doc.types = false) (name : String)
    (p : DeclaredParam) :
    (fillParam name p doc).types = (p.type.map fun t => [t.typeId]).or doc.types := by
  cases ht : p.type <;> simp [fillParam, ht, h]

section Documented

variable {c : Callable} {d : Doclet} {i : Nat} {doc : ParamDoc}

/-- An entry is filled from the parameter that is declared at its index. -/
theorem Documents.getElem?_params (h : Documents c d) (hdoc : (d.params.getD [])[i]? = some doc) :
    (d.functionBackfill.params.getD [])[i]? = some (match c.parameters[i]? with
      | some p => fillParam p.declared.id p.declared doc
      | none => doc) := by
  rw [params_functionBackfill h.declaration, getElem?_fillParams hdoc, ← h.ids, List.getElem?_map]
  cases c.parameters[i]? <;> rfl

theorem Documents.ownParam (h : Documents c d) (hdoc : (d.params.getD [])[i]? = some doc)
    (hwhole : doc.isPart = false) :
    ∃ p, ownParam? c (d.params.getD []) i = some p ∧ p.id = doc.name.getD "" := by
  have hentry := getElem?_filter_countP (p := fun doc => !doc.isPart) hdoc (by simp [hwhole])
  have hnames := congrArg (·[((d.params.getD []).take i).countP fun doc => !doc.isPart]?)
    (h.names.trans h.ids.symm)
  simp only [List.getElem?_map, hentry, Option.map_some] at hnames
  obtain ⟨p, hp, hid⟩ := Option.map_eq_some_iff.mp hnames.symm
  exact ⟨p.declared, by rw [ownParam?, hp, Option.map_some], hid⟩

theorem Documents.part_stays_iff (h : Documents c d) (hdoc : (d.params.getD [])[i]? = some doc)
    (hpart : doc.isPart = true) :
    (d.functionBackfill.params.getD [])[i]? = some doc ↔
      ∀ p, c.parameters[i]? = some p → AddsNothing p.declared doc := by
  rw [h.getElem?_params hdoc]
  cases c.parameters[i]? with
  | none => simp
  | some p =>
    simp only [Option.some.injEq, forall_eq']
    rw [fillParam_eq_self_iff, saysDeclared_iff_of_isPart hpart]

theorem Documents.type_iff (h : Documents c d) (hdoc : (d.params.getD [])[i]? = some doc)
    (htypes : hasNames doc.types = false) (t : TypeRef) :
    (∃ filled, (d.functionBackfill.params.getD [])[i]? = some filled ∧
      filled.types = some [t.typeId]) ↔
    ∃ q u, c.parameters[i]? = some q ∧ q.declared.type = some u ∧ u.typeId = t.typeId := by
  have hopen : doc.types ≠ some [t.typeId] := by
    intro hone
    simp [hone, hasNames] at htypes
  rw [h.getElem?_params hdoc]
  cases c.parameters[i]? with
  | none => simp [hopen]
  | some p => cases ht : p.declared.type <;> simp [types_fillParam htypes, ht, hopen]

end Documented

/-- Every documented parameter has one of the same name that is declared. What is
declared for one stays away from the others exactly when the entries line up with the
declaration as far as it tells anything new. -/
theorem factsStayApart_iff (c : Callable) (d : Doclet) (h : Documents c d) :
    (∀ i doc, (d.params.getD [])[i]? = some doc → doc.isPart = false →
      ∃ p, ownParam? c (d.params.getD []) i = some p ∧ p.id = doc.name.getD "") ∧
    (FactsStayApart c d ↔ LinesUp c (d.params.getD [])) := by
  refine ⟨fun i doc hdoc hwhole => h.ownParam hdoc hwhole, fun hapart => ⟨?_, ?_⟩,
    fun hlines => ⟨?_, ?_⟩⟩
  · intro i doc p hdoc hpart
    exact (h.part_stays_iff hdoc hpart).mp (hapart.parts i doc hdoc hpart) p
  · intro i doc p t hdoc hwhole htypes hown ht
    exact (h.type_iff hdoc htypes t).mp (hapart.whole i doc p t hdoc hwhole htypes hown ht)
  · intro i doc hdoc hpart
    exact (h.part_stays_iff hdoc hpart).mpr fun p => hlines.parts i doc p hdoc hpart
  · intro i doc p t hdoc hwhole htypes hown ht
    exact (h.type_iff hdoc htypes t).mpr (hlines.whole i doc p t hdoc hwhole htypes hown ht)

/-- A part behind all parameters is out of reach of the declaration. -/
theorem factsStayApart_iff_behind :
    let param (id type : String) : Param :=
      .basic (.plain { id, declared := some { string := type } })
    let c : Callable := { parameters := [param "opts" "Options", param "x" "number"] }
    let d : Doclet :=
      { params := some [{ name := some "opts" }, { name := some "x" }, { name := some "opts.mode" }]
        place :=
          { facts := some [.callable .function c], code := { paramNames := some ["opts", "x"] } } }
    Documents c d ∧ FactsStayApart c d := by
  intro param c d
  have hdocuments : Documents c d := ⟨by rfl, by rfl, by decide⟩
  refine ⟨hdocuments, (factsStayApart_iff c d hdocuments).2.mpr ⟨?_, ?_⟩⟩
  · intro i doc p hdoc hpart hp
    rcases i with _ | _ | i
    · obtain rfl := Option.some.inj hdoc
      simp [ParamDoc.isPart] at hpart
    · obtain rfl := Option.some.inj hdoc
      simp [ParamDoc.isPart] at hpart
    · simp [c] at hp
  · intro i doc p t hdoc hwhole htypes hown ht
    rcases i with _ | _ | _ | i
    · obtain rfl := Option.some.inj hown
      exact ⟨_, t, rfl, ht, rfl⟩
    · obtain rfl := Option.some.inj hown
      exact ⟨_, t, rfl, ht, rfl⟩
    · obtain rfl := Option.some.inj hdoc
      simp [ParamDoc.isPart] at hwhole
    · simp [d] at hdoc

/-- A part between two parameters gets the type of the second one, which stays without. -/
theorem not_factsStayApart_between :
    let param (id type : String) : Param :=
      .basic (.plain { id, declared := some { string := type } })
    let c : Callable := { parameters := [param "opts" "Options", param "x" "number"] }
    let d : Doclet :=
      { params := some [{ name := some "opts" }, { name := some "opts.mode" }, { name := some "x" }]
        place :=
          { facts := some [.callable .function c], code := { paramNames := some ["opts", "x"] } } }
    Documents c d ∧ ¬ FactsStayApart c d ∧
      d.functionBackfill.params = some [{ name := some "opts", types := some ["Options"] },
        { name := some "opts.mode", types := some ["number"] }, { name := some "x" }] := by
  intro param c d
  have hfilled : d.functionBackfill.params =
      some [{ name := some "opts", types := some ["Options"] },
        { name := some "opts.mode", types := some ["number"] }, { name := some "x" }] := by
    decide
  refine ⟨⟨by rfl, by rfl, by decide⟩, fun hapart => ?_, hfilled⟩
  have hpart := hapart.parts 1 { name := some "opts.mode" } rfl (by decide)
  rw [hfilled] at hpart
  simp at hpart

end Doclet

end DocComment
