import DocComment.Proofs.Build.Faults
import DocComment.Proofs.Tagging.Parts

/-! The order of tags counts among related tags only. Tags that write the same
things form a group; as tags of different groups work on different parts of a
doclet, each part shows what the tags of its own group have made of it, in their
order. -/

namespace DocComment

/-- Groups of related tags: those for the access, for the scope and the parent, for
what the symbol is, those without a definition, and every other title alone. -/
inductive TagGroup where
  | access
  | scope
  | identity
  | unknown
  | alone (title : String)
  deriving DecidableEq, Repr

namespace TagDefinition

/-- Whether tags of that title declare a symbol of some kind. -/
def declares (t : TagDefinition) : Bool :=
  match t.hook with
  | some (.declare _ _) => true
  | _ => false

def group (t : TagDefinition) : TagGroup :=
  if ["access", "private", "protected", "public"].contains t.title then .access
  else if ["global", "inner", "instance", "static", "memberof"].contains t.title then .scope
  else if ["name", "kind", "type", "enum"].contains t.title || t.declares then .identity
  else .alone t.title

end TagDefinition

def TagGroup.ofDefinition? : Option TagDefinition → TagGroup
  | none => .unknown
  | some t => t.group

def WrittenTag.group (w : WrittenTag) : TagGroup :=
  .ofDefinition? (Dictionary.standard.lookUp w.title)

/-- The group whose tags work on a part. -/
def Part.group : Part → TagGroup
  | .identity => .identity
  | .scope => .scope
  | .access => .access
  | .tags => .unknown
  | .aliasName => .alone "alias"
  | .variation => .alone "variation"
  | .description => .alone "description"
  | .classdesc => .alone "classdesc"
  | .summary => .alone "summary"
  | .since => .alone "since"
  | .version => .alone "version"
  | .deprecated => .alone "deprecated"
  | .defaultValue => .alone "default"
  | .readonly => .alone "readonly"
  | .virtual => .alone "abstract"
  | .ignore => .alone "ignore"
  | .this => .alone "this"
  | .examples => .alone "example"
  | .see => .alone "see"
  | .todo => .alone "todo"
  | .exceptions => .alone "throws"
  | .params => .alone "param"
  | .returns => .alone "returns"
  | .properties => .alone "property"
  | .augments => .alone "augments"
  | .implements => .alone "implements"
  | .mixes => .alone "mixes"
  | .borrowed => .alone "borrows"
  | .sort => .alone "sort"
  | .rest => .alone ""

theorem Dictionary.standard_groups : ∀ t ∈ standardDefinitions, t.part.group = t.group := by
  decide

namespace WrittenTag

theorem group_part (w : WrittenTag) : w.part.group = w.group := by
  unfold part group
  generalize hfound : Dictionary.standard.lookUp w.title = found
  cases found with
  | none => rfl
  | some t => exact Dictionary.standard_groups t (Dictionary.lookUp_standard hfound).1

theorem filter_part (tags : List WrittenTag) (r : Part) :
    tags.filter (·.part = r) =
      (tags.filter (·.group = r.group)).filter (·.part = r) := by
  rw [List.filter_filter]
  apply List.filter_congr
  intro w _
  by_cases hw : w.part = r
  · have hgroup : w.group = r.group := by rw [← hw, group_part]
    simp [hw, hgroup]
  · simp [hw]

end WrittenTag

namespace Doclet

section Steps

variable {step : WrittenTag → Doclet → Doclet} (hworks : ∀ w, WorksOn w.part (step w))

include hworks

/-- A part shows what its own tags have made of it. -/
theorem part_foldl (tags : List WrittenTag) {r : Part} {d e : Doclet}
    (hpart : d.part r = e.part r) (hplace : d.place = e.place) :
    (tags.foldl (fun d w => step w d) d).part r =
      ((tags.filter (·.part = r)).foldl (fun d w => step w d) e).part r := by
  induction tags generalizing d e with
  | nil => exact hpart
  | cons w tags ih =>
    have hkeeps := (hworks w).place w.part_ne_rest
    by_cases hw : w.part = r
    · subst hw
      rw [List.filter_cons_of_pos (by simp)]
      apply ih ((hworks w).part_eq hpart hplace)
      rw [hkeeps d, hkeeps e, hplace]
    · rw [List.filter_cons_of_neg (by simpa using hw)]
      apply ih (((hworks w).part_of_ne (Ne.symm hw) d).trans hpart)
      exact (hkeeps d).trans hplace

theorem foldl_eq_of_groups {tags others : List WrittenTag}
    (h : ∀ g, tags.filter (·.group = g) = others.filter (·.group = g)) (d : Doclet) :
    tags.foldl (fun d w => step w d) d = others.foldl (fun d w => step w d) d := by
  apply ext_part
  intro r
  rw [part_foldl hworks tags rfl rfl, part_foldl hworks others rfl rfl,
    WrittenTag.filter_part tags, WrittenTag.filter_part others, h]

end Steps

theorem applyTags_fault_iff (tags : List WrittenTag) (d : Doclet) :
    (applyTags Dictionary.standard tags d).fault = none ↔
      ∀ w ∈ tags, (applyTag Dictionary.standard w.title w.body d).fault = none := by
  rw [(applyTags_stopsIff tags d).fault_eq_none_iff]
  simp only [(applyTag_stopsIff _ d).fault_eq_none_iff]
  simp

theorem mem_of_groups {tags others : List WrittenTag}
    (h : ∀ g, tags.filter (·.group = g) = others.filter (·.group = g)) {w : WrittenTag}
    (hw : w ∈ others) : w ∈ tags := by
  have hmem : w ∈ others.filter (·.group = w.group) := List.mem_filter.mpr ⟨hw, by simp⟩
  rw [← h w.group] at hmem
  exact (List.mem_filter.mp hmem).1

theorem applyTags_eq_of_groups {tags others : List WrittenTag} {d : Doclet}
    (h : ∀ g, tags.filter (·.group = g) = others.filter (·.group = g))
    (hfault : ∀ w ∈ tags, (applyTag Dictionary.standard w.title w.body d).fault = none) :
    (applyTags Dictionary.standard tags d).fault = none ∧
      (applyTags Dictionary.standard others d).fault = none ∧
      (applyTags Dictionary.standard tags d).doclet =
        (applyTags Dictionary.standard others d).doclet := by
  have htags := (applyTags_fault_iff tags d).mpr hfault
  have hothers := (applyTags_fault_iff others d).mpr fun w hw => hfault w (mem_of_groups h hw)
  refine ⟨htags, hothers, ?_⟩
  calc (applyTags Dictionary.standard tags d).doclet
    _ = tags.foldl (fun d w => (applyTag Dictionary.standard w.title w.body d).doclet) d :=
      doclet_applyTags htags
    _ = others.foldl (fun d w => (applyTag Dictionary.standard w.title w.body d).doclet) d :=
      foldl_eq_of_groups applyTag_worksOn h d
    _ = (applyTags Dictionary.standard others d).doclet := (doclet_applyTags hothers).symm

theorem filter_swap {a b : WrittenTag} (h : a.group ≠ b.group) (g : TagGroup) :
    [a, b].filter (·.group = g) = [b, a].filter (·.group = g) := by
  by_cases ha : a.group = g
  · have hb : b.group ≠ g := fun hb => h (ha.trans hb.symm)
    simp [ha, hb]
  · by_cases hb : b.group = g
    · simp [ha, hb]
    · simp [ha, hb]

theorem applyTags_pair (dictionary : Dictionary) (a b : WrittenTag) (d : Doclet) :
    applyTags dictionary [a, b] d =
      (applyTag dictionary a.title a.body d).andThen (applyTag dictionary b.title b.body) := by
  simp only [applyTags_eq, Progress.through, List.foldl_cons, List.foldl_nil,
    Progress.start_andThen]

/-- Two tags of different groups can change places, and so can the tags of a whole
list as long as each group stays in its order; the doclet is the same. -/
theorem applyTags_order (d : Doclet) :
    (∀ a b : WrittenTag, a.group ≠ b.group →
      (applyTag .standard a.title a.body d).fault = none →
      (applyTag .standard b.title b.body d).fault = none →
      let first := (applyTag .standard a.title a.body d).andThen (applyTag .standard b.title b.body)
      let second :=
        (applyTag .standard b.title b.body d).andThen (applyTag .standard a.title a.body)
      first.fault = none ∧ second.fault = none ∧ first.doclet = second.doclet) ∧
    (∀ tags others : List WrittenTag,
      (∀ g, tags.filter (·.group = g) = others.filter (·.group = g)) →
      (∀ w ∈ tags, (applyTag .standard w.title w.body d).fault = none) →
      (applyTags .standard tags d).fault = none ∧ (applyTags .standard others d).fault = none ∧
        (applyTags .standard tags d).doclet = (applyTags .standard others d).doclet) := by
  refine ⟨?_, fun tags others => applyTags_eq_of_groups⟩
  intro a b hgroups ha hb
  dsimp only
  rw [← applyTags_pair _ a b, ← applyTags_pair _ b a]
  apply applyTags_eq_of_groups (filter_swap hgroups)
  intro w hw
  rcases List.mem_cons.mp hw with rfl | hw
  · exact ha
  · obtain rfl := List.mem_singleton.mp hw
    exact hb

theorem applyTags_order_shuffled :
    let hidden : WrittenTag := ⟨"private", none⟩
    let shown : WrittenTag := ⟨"access", some "public"⟩
    let made : WrittenTag := ⟨"Constructor", some "Foo"⟩
    let noted : WrittenTag := ⟨"mood", some "calm"⟩
    (applyTags .standard [hidden, made, shown, noted] {}).fault = none ∧
      (applyTags .standard [hidden, made, shown, noted] {}).doclet =
        (applyTags .standard [noted, hidden, shown, made] {}).doclet := by
  intro hidden shown made noted
  have hgroup : hidden.group = .access ∧ shown.group = .access ∧ made.group = .identity ∧
      noted.group = .unknown := by
    simp only [WrittenTag.group, Dictionary.lookUp_standard_eq, Dictionary.normalise_standard]
    decide +kernel
  obtain ⟨hhidden, hshown, hmade, hnoted⟩ := hgroup
  have hgroups : ∀ g, [hidden, made, shown, noted].filter (·.group = g) =
      [noted, hidden, shown, made].filter (·.group = g) := by
    intro g
    simp only [List.filter_cons, List.filter_nil, hhidden, hshown, hmade, hnoted]
    cases g <;> simp
  have hplain : ∀ w ∈ [hidden, made, shown, noted],
      Dictionary.standard.normalise w.title ≠ "sort" ∧
        Dictionary.standard.normalise w.title ≠ "default" := by
    simp only [Dictionary.normalise_standard]
    decide +kernel
  obtain ⟨htags, -, hdoclet⟩ := (applyTags_order {}).2 _ _ hgroups fun w hw =>
    applyTag_fault (hplain w hw).1 (hplain w hw).2 w.body {}
  exact ⟨htags, hdoclet⟩

end Doclet

end DocComment
