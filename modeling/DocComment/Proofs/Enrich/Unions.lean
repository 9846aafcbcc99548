import DocComment.Proofs.Enrich.Absorb

/-! How far the unions of overloads grow. A union takes the first type that it is
offered, and the marker in place of the first type that is another one; after that
nothing changes it. So what becomes of it can be told from the types alone, however
many signatures there are. -/

namespace DocComment

theorem occursIn_iff {part s : List Char} : occursIn part s = true ↔ part <:+: s := by
  induction s with
  | nil => simp [occursIn]
  | cons c rest ih =>
    rw [occursIn, Bool.or_eq_true, List.isPrefixOf_iff_prefix, ih, List.infix_cons_iff]

/-- A type by itself if no other one is offered, and else with the marker. -/
def markedUnless (marker type : String) (ids : List String) : List String :=
  if ∀ id ∈ ids, id = type then [type] else [type, marker]

/-- What becomes of a union to which types are offered one after another. -/
def truncated (marker : String) : List String → List String → List String
  | [], [] => []
  | [], type :: ids => markedUnless marker type ids
  | [type], ids => markedUnless marker type ids
  | names, _ => names

/-- The type that a signature declares for the parameter at an index, if it has a name. -/
def Callable.paramType? (c : Callable) (i : Nat) : Option String :=
  said ((c.parameters[i]?.bind fun p => p.declared.type).map TypeRef.typeId)

/-- The type that a signature declares for its result, if it has a name. -/
def Callable.resultType? (c : Callable) : Option String := said (some c.returnType.typeId)

namespace Doclet

/-- A union after it was offered a type, or none. -/
def offered (marker : String) (names : List String) : Option String → List String
  | some type => (growUnion marker names type).1
  | none => names

theorem offered_said (marker : String) (names : List String) (id : String) :
    offered marker names (said (some id)) =
      if id = "" then names else (growUnion marker names id).1 := by
  by_cases hid : id = ""
  · rw [hid]
    rfl
  · have hsaid : said (some id) = some id := said_eq_some.mpr ⟨rfl, hid⟩
    rw [hsaid, if_neg hid, offered]

theorem foldl_growUnion_full {marker : String} {names : List String} (h : 2 ≤ names.length)
    (ids : List String) :
    ids.foldl (fun names id => (growUnion marker names id).1) names = names := by
  induction ids with
  | nil => rfl
  | cons id ids ih =>
    have hfull : growUnion marker names id = (names, false) := growUnion_eq_self_iff.mpr (.inr h)
    rw [List.foldl_cons, hfull, ih]

theorem foldl_growUnion_one (marker type : String) (ids : List String) :
    ids.foldl (fun names id => (growUnion marker names id).1) [type] =
      markedUnless marker type ids := by
  induction ids with
  | nil => simp [markedUnless]
  | cons id ids ih =>
    by_cases hid : id = type
    · have hsame : growUnion marker [type] id = ([type], false) :=
        growUnion_eq_self_iff.mpr (.inl (by simp [hid]))
      rw [List.foldl_cons, hsame, ih]
      simp [markedUnless, hid]
    · have hother : growUnion marker [type] id = ([type, marker], false) := by
        simp [growUnion, hid]
      rw [List.foldl_cons, hother, foldl_growUnion_full (by simp)]
      simp [markedUnless, hid]

theorem foldl_growUnion (marker : String) (names ids : List String) :
    ids.foldl (fun names id => (growUnion marker names id).1) names =
      truncated marker names ids := by
  rcases names with _ | ⟨one, _ | ⟨two, more⟩⟩
  · cases ids with
    | nil => rfl
    | cons type ids =>
      have hfirst : growUnion marker [] type = ([type], true) := by simp [growUnion]
      rw [List.foldl_cons, hfirst, foldl_growUnion_one, truncated]
  · rw [foldl_growUnion_one, truncated]
  · rw [foldl_growUnion_full (by simp), truncated] <;> simp

theorem foldl_offered {α : Type} (marker : String) (type? : α → Option String) (xs : List α)
    (names : List String) :
    xs.foldl (fun names x => offered marker names (type? x)) names =
      truncated marker names (xs.filterMap type?) := by
  rw [← foldl_growUnion]
  induction xs generalizing names with
  | nil => rfl
  | cons x xs ih =>
    rw [List.foldl_cons, ih]
    cases hx : type? x <;> simp [hx, offered]

/-! Parameters. -/

/-- The name of a parameter tells that it is no rest parameter. -/
def IsSingle (settings : Settings) (doc : ParamDoc) : Prop :=
  ∃ name, doc.name = some name ∧ name ≠ "" ∧ ¬ settings.variadicMarker.toList <:+: name.toList

theorem types_mergeParam {settings : Settings} {doc : ParamDoc} (h : IsSingle settings doc)
    (other : Option String) (p : DeclaredParam) :
    (mergeParam settings other p doc).1.types.getD [] =
      offered settings.truncationMarker (doc.types.getD []) (said (p.type.map TypeRef.typeId)) := by
  obtain ⟨name, hname, hne, hmarker⟩ := h
  have hsaid : said doc.name = some name := said_eq_some.mpr ⟨hname, hne⟩
  have hsingle : occursIn settings.variadicMarker.toList name.toList = false := by
    rw [Bool.eq_false_iff]
    exact fun hoccurs => hmarker (occursIn_iff.mp hoccurs)
  rw [mergeParam_eq, passesOver, hsaid]
  cases ht : p.type with
  | none => simp [said, offered]
  | some t =>
    rw [Option.map_some, offered_said]
    by_cases hid : t.typeId = "" <;> simp [hid, hsingle]

theorem getElem?_mergeParams {settings : Settings} {names : List String} {declared : List Param}
    {docs : List ParamDoc} {i : Nat} {doc : ParamDoc} (h : docs[i]? = some doc) :
    (mergeParams settings names declared docs).1[i]? = some (match declared[i]? with
      | some p => (mergeParam settings names[i]? p.declared doc).1
      | none => doc) := by
  induction docs generalizing names declared i with
  | nil => simp at h
  | cons first docs ih =>
    cases declared with
    | nil => simpa [mergeParams_nil] using h
    | cons p declared =>
      rw [mergeParams_cons]
      cases i with
      | zero =>
        obtain rfl : first = doc := by simpa using h
        simp [List.head?_eq_getElem?]
      | succ i =>
        have hrest : (mergeParams settings names.tail declared docs).1[i]? = _ :=
          ih (by simpa using h)
        simpa using hrest

/-- One signature offers the type that it declares at the index of a parameter. -/
theorem mergeSignature_params {settings : Settings} {d : Doclet} {i : Nat} {doc : ParamDoc}
    (h : (d.params.getD [])[i]? = some doc) (hsingle : IsSingle settings doc) (settled : Bool)
    (c : Callable) :
    ∃ merged, ((mergeSignature settings settled d c).params.getD [])[i]? = some merged ∧
      IsSingle settings merged ∧
      merged.types.getD [] =
        offered settings.truncationMarker (doc.types.getD []) (c.paramType? i) := by
  have hmerged : ((mergeSignature settings settled d c).params.getD [])[i]? = some _ :=
    getElem?_mergeParams h
  refine ⟨_, hmerged, ?_⟩
  cases hp : c.parameters[i]? with
  | none => simpa [Callable.paramType?, hp, said, offered] using hsingle
  | some p =>
    refine ⟨?_, ?_⟩
    · simpa only [IsSingle, name_mergeParam] using hsingle
    · simp only [types_mergeParam hsingle, Callable.paramType?, hp, Option.bind_some]

theorem foldl_mergeSignature_params {settings : Settings} {d : Doclet} {i : Nat} {doc : ParamDoc}
    (h : (d.params.getD [])[i]? = some doc) (hsingle : IsSingle settings doc) (settled : Bool)
    (cs : List Callable) :
    ∃ merged, ((cs.foldl (mergeSignature settings settled) d).params.getD [])[i]? = some merged ∧
      merged.types.getD [] =
        cs.foldl (fun names c => offered settings.truncationMarker names (c.paramType? i))
          (doc.types.getD []) := by
  induction cs generalizing d doc with
  | nil => exact ⟨doc, h, rfl⟩
  | cons c cs ih =>
    obtain ⟨next, hnext, hsingle, htypes⟩ := mergeSignature_params h hsingle settled c
    obtain ⟨merged, hmerged, hall⟩ := ih hnext hsingle
    exact ⟨merged, hmerged, by rw [hall, htypes]; rfl⟩

/-! Results. -/

/-- The types of the first result. -/
def firstTypes (returns : List ResultDoc) : List String := (returns.head?.bind (·.types)).getD []

/-- A result type with a text has a name, and one without a text has none. -/
def NamesResult (c : Callable) : Prop := c.returnType.string = "" ↔ c.returnType.typeId = ""

theorem firstTypes_mergeReturn {c : Callable} (h : NamesResult c) (marker : String)
    (returns : List ResultDoc) :
    firstTypes (mergeReturn marker c.returnType returns).1 =
      offered marker (firstTypes returns) c.resultType? := by
  rw [Callable.resultType?, offered_said]
  cases returns with
  | nil =>
    -- the entry is made if there is a text, and takes the name
    by_cases hid : c.returnType.typeId = ""
    · have hstring : c.returnType.string = "" := h.mpr hid
      simp [mergeReturn, hid, hstring]
    · have hstring : ¬ c.returnType.string = "" := fun hs => hid (h.mp hs)
      simp [mergeReturn, hid, hstring, firstTypes, growUnion]
  | cons first rest =>
    by_cases hid : c.returnType.typeId = "" <;> simp [mergeReturn, hid, firstTypes]

theorem foldl_mergeSignature_firstTypes {cs : List Callable} (h : ∀ c ∈ cs, NamesResult c)
    (settings : Settings) (d : Doclet) :
    firstTypes ((cs.foldl (mergeSignature settings false) d).returns.getD []) =
      cs.foldl (fun names c => offered settings.truncationMarker names c.resultType?)
        (firstTypes (d.returns.getD [])) := by
  induction cs generalizing d with
  | nil => rfl
  | cons c cs ih =>
    have hfirst := firstTypes_mergeReturn (h c List.mem_cons_self) settings.truncationMarker
      (d.returns.getD [])
    rw [List.foldl_cons, ih (fun c hc => h c (List.mem_cons_of_mem _ hc)), List.foldl_cons,
      ← hfirst]
    rfl

theorem returnSettled_of_firstTypes {d : Doclet} (h : firstTypes (d.returns.getD []) = []) :
    d.returnSettled = false := by
  rw [returnSettled_eq]
  cases hr : d.returns.getD [] with
  | nil => rfl
  | cons first rest =>
    rw [hr] at h
    cases ht : first.types with
    | none => simp [firstTyped, ht, hasNames]
    | some names => simp_all [firstTypes, firstTyped, hasNames]

/-- The unions of overloads are cut off exactly: the types of a parameter that is no rest
parameter are what becomes of them when the types declared at its index come one after
another, and the same goes for a first result without types, if result types have a name
when they have a text. -/
theorem reconcileOverloads_unions (settings : Settings) (d : Doclet) :
    let after := d.reconcileOverloads settings
    let calls := Fact.signaturesOf d.facts
    (∀ (i : Nat) (doc : ParamDoc), (d.params.getD [])[i]? = some doc → IsSingle settings doc →
      ∃ merged, (after.params.getD [])[i]? = some merged ∧
        merged.types.getD [] = truncated settings.truncationMarker (doc.types.getD [])
          (calls.filterMap fun c => c.paramType? i)) ∧
    (firstTypes (d.returns.getD []) = [] → (∀ c ∈ calls, NamesResult c) →
      firstTypes (after.returns.getD []) =
        truncated settings.truncationMarker [] (calls.filterMap Callable.resultType?)) := by
  intro after calls
  obtain ⟨hparams, hreturns, -⟩ := lists_reconcileOverloads settings d
  refine ⟨fun i doc hdoc hsingle => ?_, fun hnone hnames => ?_⟩
  · have hlists : (d.withLists.params.getD [])[i]? = some doc := hdoc
    obtain ⟨merged, hmerged, htypes⟩ :=
      foldl_mergeSignature_params hlists hsingle d.returnSettled calls
    rw [foldl_offered] at htypes
    exact ⟨merged, by rw [hparams]; exact hmerged, htypes⟩
  · have hopen := returnSettled_of_firstTypes hnone
    have hlists : firstTypes (d.withLists.returns.getD []) = [] := hnone
    have hfirst := foldl_mergeSignature_firstTypes hnames settings d.withLists
    rw [foldl_offered, hlists] at hfirst
    rw [hreturns, hopen, hfirst]

/-- The second type of a union makes room for the marker and the third for nothing, while
a type that comes again changes nothing. -/
theorem reconcileOverloads_unions_three :
    let call (result first second : String) : Fact :=
      .callable .functionType
        { returnType := { string := result }
          parameters := [.basic (.plain { id := "a", declared := some { string := first } }),
            .basic (.plain { id := "b", declared := some { string := second } })] }
    let d : Doclet :=
      { params := some [{ name := some "a", types := some ["A"] }, { name := some "b" }]
        place :=
          { facts := some [.combo .union "" [call "R" "A" "B", call "R" "A" "C"],
              call "S" "A" "D"] } }
    let after := d.reconcileOverloads {}
    (∃ a, (after.params.getD [])[0]? = some a ∧ a.types.getD [] = ["A"]) ∧
      (∃ b, (after.params.getD [])[1]? = some b ∧ b.types.getD [] = ["B", "$ts:..."]) ∧
      firstTypes (after.returns.getD []) = ["R", "$ts:..."] := by
  intro call d after
  obtain ⟨hparams, hreturns⟩ := reconcileOverloads_unions {} d
  obtain ⟨a, ha, hfirst⟩ := hparams 0 _ rfl ⟨"a", rfl, by decide, by decide⟩
  obtain ⟨b, hb, hsecond⟩ := hparams 1 _ rfl ⟨"b", rfl, by decide, by decide⟩
  refine ⟨⟨a, ha, hfirst.trans (by decide +kernel)⟩, ⟨b, hb, hsecond.trans (by decide +kernel)⟩, ?_⟩
  refine (hreturns (by decide) ?_).trans (by decide +kernel)
  simp [NamesResult, d, facts, call, Fact.signaturesOf, Fact.signatures, TypeRef.typeId]

end Doclet

end DocComment
