import DocComment.Proofs.Enrich.Repeat
import DocComment.Proofs.Tagging.FirstWriter

/-! The first to say the kind or the access of a symbol has the last word. Tags
come before the code: only without them a kind is inferred, and only then facts
restrict the access. -/

namespace DocComment

namespace Kind

/-- The kinds that can be inferred. -/
def inferable : List String := ["class", "member", "function", "param"]

theorem ofMethod_mem (methodKind : Option String) : ofMethod methodKind ∈ inferable := by
  unfold ofMethod
  split
  · decide
  · split <;> decide

theorem settled?_mem {type methodKind : Option String} {found : String}
    (h : settled? type methodKind = some found) : found ∈ inferable := by
  unfold settled? at h
  split at h
  · cases h
    exact ofMethod_mem methodKind
  · split at h
    · cases h
      decide
    · split at h
      · cases h
        decide
      · cases h

mutual

theorem ofNode_mem (type : Option String) : ∀ n : SyntaxNode, ofNode type n ∈ inferable
  | ⟨_, kind, parentType, _, _, declaration, source, localNode, _⟩ => by
    unfold ofNode
    split
    next hfound => exact settled?_mem hfound
    next =>
      split
      · exact ofWrapped_mem source
      · split
        · exact ofWrapped_mem declaration
        · split
          · exact ofWrapped_mem localNode
          · split <;> decide

theorem ofWrapped_mem : ∀ n : Option SyntaxNode, ofWrapped n ∈ inferable
  | none => by decide
  | some n => by
    unfold ofWrapped
    exact ofNode_mem (some n.type) n

end

theorem infer_mem (type : Option String) (n : Option SyntaxNode) : infer type n ∈ inferable := by
  cases n with
  | some n => exact ofNode_mem type n
  | none =>
    change (settled? type none).getD "member" ∈ inferable
    cases hfound : settled? type none with
    | none => decide
    | some found => exact settled?_mem hfound

/-- A type that says nothing is as good as none. -/
theorem infer_said (type : Option String) (n : Option SyntaxNode) :
    infer (said type) n = infer type n := by
  by_cases htype : type = some ""
  · subst htype
    cases n with
    | none => rfl
    | some n => cases n; rfl
  · have hsaid : said type = type := by
      cases type with
      | none => rfl
      | some s => exact said_eq_some.mpr ⟨rfl, fun hs => htype (hs ▸ rfl)⟩
    rw [hsaid]

end Kind

/-- Access to private and protected symbols is restricted, and only that counts. -/
def restricted? (level : Option String) : Option String :=
  if isRestricted level then level else none

namespace Fact

def accessibility : Fact → Option String
  | callable _ c => c.accessibility
  | classField c => c.accessibility
  | _ => none

/-- The restriction that the first fact of some kinds tells of. -/
def restriction? (wanted : FactTag → Bool) (facts : List Fact) : Option String :=
  restricted? ((facts.find? fun f => wanted f.tag).bind accessibility)

end Fact

def FactTag.isDeclaration (t : FactTag) : Bool := t = .callable .function || t = .callable .method

/-- The facts about the symbol of a source record. -/
def Source.facts (source : Source) : List Fact := (source.code.bind (·.facts)).getD []

namespace Doclet

theorem kind_fillKind (d : Doclet) :
    (d.fillKind .standard).doclet.kind =
      some ((said d.kind).getD (Kind.infer d.place.code.type d.place.code.node)) := by
  rw [fillKind_eq]
  split
  next kind hkind => rw [hkind, (said_eq_some.mp hkind).1, Option.getD_some]
  next hnone =>
    -- The inferred kind is written as a tag, and its text has no blanks to lose.
    generalize hkind : Kind.infer d.place.code.type d.place.code.node = kind
    have hmem : kind ∈ Kind.inferable := hkind ▸ Kind.infer_mem _ _
    have hwritten : (⟨"kind", some kind⟩ : WrittenTag).kind? = some kind := by
      have htext : ∀ k ∈ Kind.inferable,
          Text.nonempty? (Tag.trimBody (some k) false false) = some k := by
        decide
      simp only [WrittenTag.kind?, Dictionary.standard_tables.2.2, if_true]
      exact htext kind hmem
    have hset := said_kind_applyTag ⟨"kind", some kind⟩ d
    dsimp only at hset
    rw [hnone, hwritten] at hset
    rw [hnone, (said_eq_some.mp hset).1, Option.getD_none]

theorem access_fill (access level : Option String) :
    (if isRestricted level then access.or level else access) = access.or (restricted? level) := by
  unfold restricted?
  split
  · rfl
  · rw [Option.or_none]

theorem accessibility_declaration? (d : Doclet) :
    d.declaration?.bind (·.accessibility) =
      (d.facts.find? fun f => f.tag.isDeclaration).bind Fact.accessibility := by
  have htags : (fun t : FactTag => decide (t = .callable .function) ||
      decide (t = .callable .method)) = FactTag.isDeclaration := rfl
  rw [declaration?, htags, firstFact?]
  generalize hfound : (d.facts.find? fun f => f.tag.isDeclaration) = found
  cases found with
  | none => rfl
  | some f =>
    have hwanted := List.find?_some hfound
    cases f with
    | callable form c => rfl
    | _ => cases hwanted

theorem access_functionBackfill (d : Doclet) :
    d.functionBackfill.access =
      d.access.or (Fact.restriction? FactTag.isDeclaration d.facts) := by
  rw [Fact.restriction?, ← accessibility_declaration?]
  unfold functionBackfill
  cases d.declaration? with
  | none => exact (Option.or_none).symm
  | some c =>
    simp only [fillCallable, fillAccess_eq, access_fill]
    rfl

theorem access_reconcileOverloads (settings : Settings) (d : Doclet) :
    (d.reconcileOverloads settings).access = d.access :=
  reconcileOverloads_keeps (fun _ => rfl) (fun _ _ _ => rfl) d

theorem access_unrollStructure (context : Context) (d : Doclet) :
    (d.unrollStructure context).doclet.access = d.access := by
  unfold unrollStructure
  split <;> rfl

theorem access_withFacts (context : Context) (d : Doclet) :
    (d.withFacts context).access =
      d.access.or (Fact.restriction? FactTag.isDeclaration d.facts) := by
  unfold withFacts
  dsimp only
  rw [access_classBackfill]
  split
  · rw [access_unrollStructure, access_reconcileOverloads, access_functionBackfill]
  · rw [access_reconcileOverloads, access_functionBackfill]

theorem accessibility_classField? (d : Doclet) :
    d.classField?.bind (·.accessibility) =
      (d.facts.find? fun f => f.tag = .classField).bind Fact.accessibility := by
  unfold classField? firstFact?
  generalize hfound : (d.facts.find? fun f => f.tag = .classField) = found
  cases found with
  | none => rfl
  | some f =>
    have hwanted := List.find?_some hfound
    cases f with
    | classField c => rfl
    | _ => cases hwanted

theorem access_classMemberBackfill (dictionary : Dictionary) (d : Doclet) :
    (d.classMemberBackfill dictionary).doclet.access =
      d.access.or (Fact.restriction? (· = .classField) d.facts) := by
  rw [Fact.restriction?, ← accessibility_classField?]
  unfold classMemberBackfill
  cases d.classField? with
  | none => exact (Option.or_none).symm
  | some c =>
    have hfilled : (d.fillField c).access = d.access.or (restricted? c.accessibility) := by
      simp only [fillField, fillAccess_eq, access_fill]
    dsimp only
    split
    · obtain ⟨n, hn⟩ := exists_resolve_eq dictionary
        { d.fillField c with scope := some Scope.static.name, longname := none }
      have hmoved : ((d.fillField c).makeStatic dictionary).doclet = (d.fillField c).withNames n :=
        hn
      rw [Progress.doclet_andThen rfl, hmoved]
      exact hfilled
    · exact hfilled

theorem filled_firstWriter (context : Context) (d : Doclet) :
    (d.filled context).kind = d.kind ∧
      (d.filled context).access =
        d.access.or ((Fact.restriction? FactTag.isDeclaration d.facts).or
          (Fact.restriction? (· = .classField) d.facts)) := by
  have hfacts := withFacts_fillsGaps context d
  have hmember : (d.withFacts context).FillsGaps context.settings.truncationMarker _ :=
    classMemberBackfill_fillsGaps context.dictionary (d.withFacts context)
  have hplace := place_eq_of_background hfacts.background
  have hkind := congrArg Doclet.kind (hfacts.trans hmember).background
  have haccess := access_classMemberBackfill context.dictionary (d.withFacts context)
  rw [facts, hplace, access_withFacts, Option.or_assoc] at haccess
  unfold filled release
  split <;> exact ⟨hkind, haccess⟩

theorem named_keeps_access (dictionary : Dictionary) (d : Doclet) :
    (d.named dictionary).kind = d.kind ∧ (d.named dictionary).access = d.access ∧
      (d.named dictionary).place = d.place := by
  obtain ⟨n, hn⟩ := exists_named_eq dictionary d
  rw [hn]
  exact ⟨rfl, rfl, rfl⟩

theorem derive_keeps_access {dictionary : Dictionary} (hd : dictionary.SetsKinds) (d : Doclet) :
    (d.derive dictionary none).doclet.kind =
        ((d.named dictionary).fillKind dictionary).doclet.kind ∧
      (d.derive dictionary none).doclet.access = d.access ∧
      (d.derive dictionary none).doclet.place = d.place := by
  obtain ⟨kind, hkind⟩ := fillKind_ends hd (d.named dictionary)
  obtain ⟨-, haccess, hplace⟩ := named_keeps_access dictionary d
  rw [(derive_ends_fillKind hd none d).doclet, syncTwin, showVariation_eq, hkind.doclet]
  exact ⟨rfl, haccess, hplace⟩

theorem derive_firstWriter {dictionary : Dictionary} (hd : dictionary = .standard) (d : Doclet) :
    (d.derive dictionary none).doclet.kind =
        some ((said d.kind).getD (Kind.infer d.place.code.type d.place.code.node)) ∧
      (d.derive dictionary none).doclet.access = d.access ∧
      (d.derive dictionary none).doclet.place = d.place := by
  subst hd
  obtain ⟨hkind, hkeeps⟩ := derive_keeps_access Dictionary.setsKinds_standard d
  obtain ⟨hnamed, -, hplace⟩ := named_keeps_access .standard d
  rw [kind_fillKind, hnamed, hplace] at hkind
  exact ⟨hkind, hkeeps⟩

theorem start_code (context : Context) (links : Links) (comment : Option String)
    (source : Source) (stamp : Nat) :
    let d := start context links comment source stamp
    d.place.code.type = said (source.code.bind (·.type)) ∧
      d.place.code.node = source.code.bind (·.node) ∧ d.facts = source.facts ∧
      d.kind = none ∧ d.access = none := by
  unfold start setPlace Source.facts facts
  cases hcode : source.code with
  | none =>
    dsimp only
    split <;> split <;> exact ⟨rfl, rfl, rfl, rfl, rfl⟩
  | some symbol =>
    have hfacts : ((symbol.facts.filter fun fs => !fs.isEmpty).or none).getD [] =
        symbol.facts.getD [] := by
      cases symbol.facts with
      | none => rfl
      | some fs => cases fs <;> rfl
    dsimp only
    split <;> split <;> exact ⟨Option.or_none, Option.or_none, hfacts, rfl, rfl⟩

theorem tagged_firstWriter {context : Context} (hcontext : context.dictionary = .standard)
    {comment : Option String} {source : Source} {contextId : Option Nat} {stamp : Nat}
    {twinId : Option Nat}
    (hfault : (tagged context comment source contextId stamp twinId).fault = none) :
    let d := (tagged context comment source contextId stamp twinId).doclet
    let tags := Comment.parse comment (source.code.bind (·.type))
    said d.kind = tags.findSome? WrittenTag.kind? ∧
      d.access = tags.findSome? WrittenTag.access? := by
  let links : Links := { code := stamp, twin := twinId, context := contextId }
  obtain ⟨-, -, -, hkind, haccess⟩ := start_code context links comment source stamp
  rw [tagged_eq] at hfault ⊢
  dsimp only at hfault ⊢
  have hwork := Progress.fault_of_andThen hfault
  have hfirst := applyTags_firstWriter hcontext hwork
  have hnone : said none = none := rfl
  rw [hkind, haccess, hnone, Option.none_or, Option.none_or] at hfirst
  rw [Progress.doclet_change hfault]
  dsimp only
  exact hfirst

/-- The first to say the kind or the access has the last word: the tags in their
order, and then the code. -/
theorem create_firstWriter (context : Context) (hcontext : context.dictionary = .standard)
    (comment : Option String) (source : Source) (contextId : Option Nat) (stamp : Nat)
    (hfault : (create context comment source contextId stamp none).fault = none) :
    let d := (create context comment source contextId stamp none).doclet
    let type := source.code.bind (·.type)
    let node := source.code.bind (·.node)
    let tags := Comment.parse comment type
    d.kind = some ((tags.findSome? WrittenTag.kind?).getD (Kind.infer type node)) ∧
      d.access = (tags.findSome? WrittenTag.access?).or
        ((Fact.restriction? FactTag.isDeclaration source.facts).or
          (Fact.restriction? (· = .classField) source.facts)) := by
  have hd : context.dictionary.IsRegular := hcontext ▸ Dictionary.isRegular_standard
  have hquiet := tagged_isQuiet hd.keepsLongnames comment source contextId stamp none
  rw [create_eq] at hfault ⊢
  rw [Option.map_none, Option.map_none] at hfault ⊢
  obtain ⟨hkind, haccess⟩ := tagged_firstWriter hcontext (Progress.fault_of_andThen hfault)
  intro d type node tags
  have hdone : d = _ := (build_ends hd hquiet.exports hfault).doclet
  rw [hdone]
  generalize tagged context comment source contextId stamp none = work at hquiet hkind haccess ⊢
  obtain ⟨hinferred, hkept, hplace⟩ := derive_firstWriter hcontext work.doclet
  obtain ⟨hfilled, hfilledAccess⟩ :=
    filled_firstWriter context (work.doclet.derive context.dictionary none).doclet
  obtain ⟨htype, hnode, hfacts, -, -⟩ :=
    start_code context { code := stamp, context := contextId } comment source stamp
  have hsource : (work.doclet.derive context.dictionary none).doclet.facts = source.facts := by
    rw [← hfacts, facts, facts, hplace, hquiet.place]
  constructor
  · rw [hfilled, hinferred, hkind, hquiet.place, htype, hnode, Kind.infer_said]
  · rw [hfilledAccess, hkept, haccess, hsource]

theorem create_firstWriter_field :
    let comment := some "/** @access top\n@Var x\n@class */"
    let facts : List Fact :=
      [.callable .method { accessibility := some "public" },
        .classField { accessibility := some "protected" }]
    let source : Source := { code := some { facts := some facts } }
    let context : Context := {}
    let work := create context comment source none 0 none
    work.fault = none ∧ work.doclet.kind = some "member" ∧
      work.doclet.access = some "protected" := by
  intro comment facts source context work
  have htags : Comment.parse comment (source.code.bind (·.type)) =
      [⟨"access", some "top\n"⟩, ⟨"Var", some "x\n"⟩, ⟨"class", none⟩] := by
    decide +kernel
  have htitles : Dictionary.standard.normalise "access" = "access" ∧
      Dictionary.standard.normalise "Var" = "member" ∧
      Dictionary.standard.normalise "class" = "class" := by
    simp only [Dictionary.normalise_standard]
    decide +kernel
  obtain ⟨haccess, hvar, hclass⟩ := htitles
  have hstops : work.StopsIff _ :=
    create_stopsIff (rfl : context.dictionary = _) comment source none 0 none
  have hfault : work.fault = none := by
    rw [hstops.fault_eq_none_iff, htags]
    simp [WrittenTag.IsOverlong, haccess, hvar, hclass]
  have hkind : (Comment.parse comment (source.code.bind (·.type))).findSome? WrittenTag.kind? =
      some "member" := by
    rw [htags]
    simp only [List.findSome?_cons, WrittenTag.kind?, haccess, hvar]
    decide +kernel
  have hlevel : (Comment.parse comment (source.code.bind (·.type))).findSome? WrittenTag.access? =
      none := by
    rw [htags]
    simp only [List.findSome?_cons, WrittenTag.access?, haccess, hvar, hclass]
    decide +kernel
  have hfacts : (Fact.restriction? FactTag.isDeclaration source.facts).or
      (Fact.restriction? (· = .classField) source.facts) = some "protected" := by
    decide +kernel
  obtain ⟨hfirst, hsecond⟩ := create_firstWriter context rfl comment source none 0 hfault
  rw [hkind, Option.getD_some] at hfirst
  rw [hlevel, Option.none_or, hfacts] at hsecond
  dsimp only [work]
  exact ⟨hfault, hfirst, hsecond⟩

end Doclet

end DocComment
