import DocComment.Proofs.Build.Finishing
import DocComment.Proofs.Tagging.Fallback

/-! The unknown tags of a finished doclet. They are those of its comment, and nothing
that comes after the tags changes them, with one exception: a kind that has to be
filled in goes the way of a tag, and ends among the unknown tags when the dictionary
does not define it. -/

namespace DocComment.Doclet

theorem tags_start (context : Context) (links : Links) (comment : Option String) (source : Source)
    (stamp : Nat) : (start context links comment source stamp).tags = none := by
  unfold start setPlace
  dsimp only
  split <;> rfl

theorem tags_named (dictionary : Dictionary) (d : Doclet) :
    (d.named dictionary).tags = d.tags ∧ (d.named dictionary).kind = d.kind ∧
      (d.named dictionary).place = d.place := by
  obtain ⟨n, hn⟩ := exists_named_eq dictionary d
  rw [hn]
  exact ⟨rfl, rfl, rfl⟩

/-- The tag that stands for a kind that no tag has named. -/
def inferredKind (d : Doclet) : List WrittenTag :=
  match said d.kind with
  | some _ => []
  | none => [⟨"kind", some (Kind.infer d.place.code.type d.place.code.node)⟩]

theorem inferredKind_congr {d e : Doclet} (hkind : d.kind = e.kind) (hplace : d.place = e.place) :
    d.inferredKind = e.inferredKind := by
  rw [inferredKind, inferredKind, hkind, hplace]

theorem unknown_inferredKind_eq_nil_iff (dictionary : Dictionary) (d : Doclet) :
    dictionary.unknown d.inferredKind = [] ↔
      dictionary.lookUp "kind" ≠ none ∨ said d.kind ≠ none := by
  unfold inferredKind Dictionary.unknown
  cases said d.kind with
  | some kind => simp
  | none => cases h : dictionary.lookUp "kind" <;> simp [h]

section Tags

variable {act : HookAction} (hact : act.KeepsTags) {context : Context}

include hact

theorem tags_fillKindWith {dictionary : Dictionary} {d : Doclet} {tags : List Tag}
    (hd : d.tags = listed tags) (h : (d.fillKindWith act dictionary).fault = none) :
    (d.fillKindWith act dictionary).doclet.tags =
      listed (tags ++ dictionary.readAll (dictionary.unknown d.inferredKind)) := by
  unfold fillKindWith inferredKind at *
  cases hkind : said d.kind with
  | some kind =>
    rw [Dictionary.unknown, List.filter_nil, Dictionary.readAll, List.map_nil, List.append_nil]
    exact hd
  | none =>
    rw [hkind] at h
    exact tags_applyTagWith hact ⟨"kind", _⟩ hd h

theorem tags_postProcessWith {twin : Option Doclet} {d : Doclet} {tags : List Tag}
    (hd : d.tags = listed tags) (h : (d.postProcessWith act context twin).fault = none) :
    (d.postProcessWith act context twin).doclet.tags = listed
      (tags ++ context.dictionary.readAll (context.dictionary.unknown d.inferredKind)) := by
  obtain ⟨htags, hkind, hplace⟩ := tags_named context.dictionary d
  have hnaming := naming_ends context.dictionary d
  have hnamed : ((d.naming context.dictionary).andThen
      (fillKindWith act context.dictionary)).fault = none :=
    Progress.fault_of_andThen (Progress.fault_of_andThen (Progress.fault_of_andThen
      (Progress.fault_of_andThen h)))
  have hfill : ((d.named context.dictionary).fillKindWith act context.dictionary).fault = none := by
    rw [← hnaming.doclet]
    exact Progress.next_fault_of_andThen hnamed
  rw [postProcessWith, deriveWith_eq, tags_of_part (part_finished rfl context twin _),
    Progress.doclet_andThen hnaming.fault, hnaming.doclet,
    tags_fillKindWith hact (htags.trans hd) hfill, inferredKind_congr hkind hplace]

theorem tags_taggedWith {comment : Option String} {source : Source} {contextId : Option Nat}
    {stamp : Nat} {twinId : Option Nat}
    (h : (taggedWith act context comment source contextId stamp twinId).fault = none) :
    (taggedWith act context comment source contextId stamp twinId).doclet.tags = listed
      (context.dictionary.readAll (context.dictionary.unknown
        (Comment.parse comment (source.code.bind (·.type))))) := by
  let links : Links := { code := stamp, twin := twinId, context := contextId }
  let tags := Comment.parse comment (source.code.bind (·.type))
  let first := start context links comment source stamp
  have htags : (applyTagsWith act context.dictionary tags first).fault = none →
      (applyTagsWith act context.dictionary tags first).doclet.tags =
        listed (context.dictionary.readAll (context.dictionary.unknown tags)) :=
    tags_applyTagsWith hact tags (tags_start context links comment source stamp)
  unfold taggedWith at h ⊢
  dsimp only [links, tags, first] at htags h ⊢
  generalize applyTagsWith act context.dictionary
    (Comment.parse comment (source.code.bind (·.type))) _ = work at htags h ⊢
  rw [Progress.doclet_change h]
  exact htags (Progress.fault_of_andThen h)

/-- The collected tags of a finished doclet, with the kind that was filled in as the
last of them if the dictionary does not know it. -/
theorem tags_createWith {comment : Option String} {source : Source} {contextId : Option Nat}
    {stamp : Nat} {twin : Option (Nat × Doclet)}
    (h : (createWith act context comment source contextId stamp twin).fault = none) :
    let d := (taggedWith act context comment source contextId stamp (twin.map (·.1))).doclet
    (createWith act context comment source contextId stamp twin).doclet.tags = listed
      (context.dictionary.readAll (context.dictionary.unknown
          (Comment.parse comment (source.code.bind (·.type)))) ++
        context.dictionary.readAll (context.dictionary.unknown d.inferredKind)) := by
  intro d
  have htagged : (taggedWith act context comment source contextId stamp
      (twin.map (·.1))).fault = none := Progress.fault_of_andThen h
  have hpost : (d.postProcessWith act context (twin.map (·.2))).fault = none :=
    Progress.next_fault_of_andThen h
  rw [createWith, Progress.doclet_andThen htagged]
  exact tags_postProcessWith hact (tags_taggedWith hact htagged) hpost

end Tags

/-- With hooks that keep the collected tags, a finished doclet has collected the
unknown tags of its comment, with their titles as written and in their order, and
nothing else exactly when the dictionary defines the kind or a tag has told it. -/
theorem createWith_tags_iff {act : HookAction} (hact : act.KeepsTags) (context : Context)
    (comment : Option String) (source : Source) (contextId : Option Nat) (stamp : Nat)
    (twin : Option (Nat × Doclet))
    (hfault : (createWith act context comment source contextId stamp twin).fault = none) :
    let d := (taggedWith act context comment source contextId stamp (twin.map (·.1))).doclet
    let unknown := context.dictionary.unknown (Comment.parse comment (source.code.bind (·.type)))
    let collected := context.dictionary.readAll unknown
    ((createWith act context comment source contextId stamp twin).doclet.tags =
        (if collected = [] then none else some collected) ↔
      context.dictionary.lookUp "kind" ≠ none ∨ said d.kind ≠ none) ∧
    collected.map (·.written) = unknown.map (·.title) := by
  intro d unknown collected
  have htags := tags_createWith hact hfault
  refine ⟨?_, context.dictionary.written_readAll unknown⟩
  have hinferred : context.dictionary.readAll (context.dictionary.unknown d.inferredKind) = [] ↔
      context.dictionary.unknown d.inferredKind = [] := List.map_eq_nil_iff
  rw [htags, ← unknown_inferredKind_eq_nil_iff, ← hinferred]
  exact listed_append_eq_iff

/-- A dictionary without definitions collects all tags, and knows the kind when one of
them tells it. -/
theorem createWith_tags_iff_empty :
    let context : Context := { dictionary := {} }
    let comment := some "/**\n * @custom x\n * @Kind class\n */"
    (create context comment {} none 0 none).fault = none ∧
      (create context comment {} none 0 none).doclet.tags = some
        [⟨"custom", "custom", some "x", .text "x"⟩,
          ⟨"Kind", "kind", some "class", .text "class"⟩] := by
  intro context comment
  have hfault : (create context comment {} none 0 none).fault = none := by decide +kernel
  have hkind : said (tagged context comment {} none 0 none).doclet.kind ≠ none := by
    decide +kernel
  have hread : context.dictionary.readAll
      (context.dictionary.unknown (Comment.parse comment none)) =
        [⟨"custom", "custom", some "x", .text "x"⟩,
          ⟨"Kind", "kind", some "class", .text "class"⟩] := by
    decide +kernel
  refine ⟨hfault, ?_⟩
  rw [create] at hfault ⊢
  rw [tagged] at hkind
  have hiff := (createWith_tags_iff applyHook_keepsTags context comment {} none 0 none hfault).1
  rw [Option.map_none] at hiff
  have htags : (createWith applyHook context comment {} none 0 none).doclet.tags = listed
      (context.dictionary.readAll (context.dictionary.unknown (Comment.parse comment none))) :=
    hiff.mpr (.inr hkind)
  rw [hread] at htags
  exact htags

/-- The kind that is filled in is collected although nobody wrote it. -/
theorem create_collects_kind :
    let context : Context := { dictionary := {} }
    let comment := some "/** @since 1 */"
    let work := create context comment {} none 0 none
    work.fault = none ∧
      context.dictionary.unknown (Comment.parse comment none) = [⟨"since", some "1"⟩] ∧
      work.doclet.tags = some
        [⟨"since", "since", some "1", .text "1"⟩,
          ⟨"kind", "kind", some "member", .text "member"⟩] := by
  decide +kernel

end DocComment.Doclet
