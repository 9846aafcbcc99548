import DocComment.Proofs.Dictionary.Standard
import DocComment.Doclet.Build

/-! The parts of a doclet that tags write. Every hook works on one part: it leaves
the others alone, and what it makes of its own depends on that part and on the
place of the symbol only. The same holds of every standard tag. -/

namespace DocComment

/-- Parts of a doclet. No tag writes to the rest, which holds the place. -/
inductive Part where
  | identity
  | scope
  | access
  | tags
  | aliasName
  | variation
  | description
  | classdesc
  | summary
  | since
  | version
  | deprecated
  | defaultValue
  | readonly
  | virtual
  | ignore
  | this
  | examples
  | see
  | todo
  | exceptions
  | params
  | returns
  | properties
  | augments
  | implements
  | mixes
  | borrowed
  | sort
  | rest
  deriving DecidableEq, Repr

namespace Doclet

/-- A doclet of which one part is left. -/
def part (d : Doclet) : Part → Doclet
  | .identity => { name := d.name, kind := d.kind, types := d.types, isEnum := d.isEnum }
  | .scope => { memberof := d.memberof, scope := d.scope }
  | .access => { access := d.access }
  | .tags => { tags := d.tags }
  | .aliasName => { aliasName := d.aliasName }
  | .variation => { variation := d.variation }
  | .description => { description := d.description }
  | .classdesc => { classdesc := d.classdesc }
  | .summary => { summary := d.summary }
  | .since => { since := d.since }
  | .version => { version := d.version }
  | .deprecated => { deprecated := d.deprecated }
  | .defaultValue => { defaultValue := d.defaultValue }
  | .readonly => { readonly := d.readonly }
  | .virtual => { virtual := d.virtual }
  | .ignore => { ignore := d.ignore }
  | .this => { this := d.this }
  | .examples => { examples := d.examples }
  | .see => { see := d.see }
  | .todo => { todo := d.todo }
  | .exceptions => { exceptions := d.exceptions }
  | .params => { params := d.params }
  | .returns => { returns := d.returns }
  | .properties => { properties := d.properties }
  | .augments => { augments := d.augments }
  | .implements => { implements := d.implements }
  | .mixes => { mixes := d.mixes }
  | .borrowed => { borrowed := d.borrowed }
  | .sort => { sort := d.sort }
  | .rest =>
    { comment := d.comment, longname := d.longname, typeParams := d.typeParams
      signatures := d.signatures, place := d.place, filename := d.filename, links := d.links }

/-- Puts the parts together. -/
def ofParts (p : Part → Doclet) : Doclet where
  comment := (p .rest).comment
  name := (p .identity).name
  longname := (p .rest).longname
  memberof := (p .scope).memberof
  scope := (p .scope).scope
  kind := (p .identity).kind
  aliasName := (p .aliasName).aliasName
  variation := (p .variation).variation
  description := (p .description).description
  classdesc := (p .classdesc).classdesc
  summary := (p .summary).summary
  since := (p .since).since
  version := (p .version).version
  deprecated := (p .deprecated).deprecated
  defaultValue := (p .defaultValue).defaultValue
  readonly := (p .readonly).readonly
  virtual := (p .virtual).virtual
  ignore := (p .ignore).ignore
  isEnum := (p .identity).isEnum
  this := (p .this).this
  examples := (p .examples).examples
  see := (p .see).see
  todo := (p .todo).todo
  exceptions := (p .exceptions).exceptions
  params := (p .params).params
  returns := (p .returns).returns
  properties := (p .properties).properties
  types := (p .identity).types
  typeParams := (p .rest).typeParams
  augments := (p .augments).augments
  implements := (p .implements).implements
  mixes := (p .mixes).mixes
  borrowed := (p .borrowed).borrowed
  access := (p .access).access
  tags := (p .tags).tags
  signatures := (p .rest).signatures
  place := (p .rest).place
  filename := (p .rest).filename
  sort := (p .sort).sort
  links := (p .rest).links

theorem ofParts_part (d : Doclet) : ofParts d.part = d := rfl

theorem part_ofParts (p : Part → Doclet) (r : Part) : (ofParts p).part r = (p r).part r := by
  cases r <;> rfl

theorem part_part (d : Doclet) (r : Part) : (d.part r).part r = d.part r := by
  cases r <;> rfl

theorem ext_part {d e : Doclet} (h : ∀ r, d.part r = e.part r) : d = e := by
  rw [← ofParts_part d, ← ofParts_part e, funext h]

theorem place_of_part {d e : Doclet} (h : d.part .rest = e.part .rest) : d.place = e.place := by
  change (d.part .rest).place = (e.part .rest).place
  rw [h]

/-- A doclet with one part of another one. -/
def put (d : Doclet) (p : Part) (e : Doclet) : Doclet :=
  ofParts fun r => if r = p then e.part r else d.part r

theorem part_put_self (d : Doclet) (p : Part) (e : Doclet) : (d.put p e).part p = e.part p := by
  rw [put, part_ofParts, if_pos rfl, part_part]

theorem part_put_of_ne {p r : Part} (h : r ≠ p) (d e : Doclet) :
    (d.put p e).part r = d.part r := by
  rw [put, part_ofParts, if_neg h, part_part]

/-- One part of a doclet, which is still in its place. -/
def only (d : Doclet) (p : Part) : Doclet := { d.part p with place := d.place }

/-- A change that works on one part of a doclet: it does to the doclet what it does
to that part by itself. -/
def WorksOn (p : Part) (f : Doclet → Doclet) : Prop := ∀ d, f d = d.put p (f (d.only p))

namespace WorksOn

variable {p : Part} {f g : Doclet → Doclet}

theorem part_of_ne (h : WorksOn p f) {r : Part} (hr : r ≠ p) (d : Doclet) :
    (f d).part r = d.part r := by
  rw [h d, part_put_of_ne hr]

theorem part_eq (h : WorksOn p f) {d e : Doclet} (hpart : d.part p = e.part p)
    (hplace : d.place = e.place) : (f d).part p = (f e).part p := by
  have honly : d.only p = e.only p := by rw [only, only, hpart, hplace]
  rw [h d, h e, part_put_self, part_put_self, honly]

theorem place (h : WorksOn p f) (hp : p ≠ .rest) (d : Doclet) : (f d).place = d.place :=
  place_of_part (h.part_of_ne hp.symm d)

theorem id (p : Part) : WorksOn p fun d => d := by
  intro d
  cases p <;> rfl

theorem comp (hg : WorksOn p g) (hf : WorksOn p f) (hp : p ≠ .rest) :
    WorksOn p fun d => g (f d) := by
  intro d
  apply ext_part
  intro r
  by_cases hr : r = p
  · subst hr
    have hplace : (d.only r).place = d.place := rfl
    have hown : (f d).part r = (f (d.only r)).part r := by rw [hf d, part_put_self]
    rw [part_put_self]
    apply hg.part_eq hown
    rw [hf.place hp, hf.place hp, hplace]
  · rw [part_put_of_ne hr, hg.part_of_ne hr, hf.part_of_ne hr]

end WorksOn

end Doclet

/-! The parts that hooks work on. -/

def TextField.part : TextField → Part
  | .comment | .longname | .filename => .rest
  | .name | .kind => .identity
  | .memberof | .scope => .scope
  | .aliasName => .aliasName
  | .variation => .variation
  | .description => .description
  | .classdesc => .classdesc
  | .summary => .summary
  | .since => .since
  | .version => .version
  | .deprecated => .deprecated
  | .defaultValue => .defaultValue
  | .this => .this
  | .access => .access

def FlagField.part : FlagField → Part
  | .deprecated => .deprecated
  | .readonly => .readonly
  | .virtual => .virtual
  | .ignore => .ignore
  | .isEnum => .identity

def ListField.part : ListField → Part
  | .examples => .examples
  | .see => .see
  | .todo => .todo
  | .augments => .augments
  | .implements => .implements
  | .mixes => .mixes

def Hook.part : Hook → Part
  | .setText field => field.part
  | .setFlag field => field.part
  | .appendText field => field.part
  | .setScope _ | .memberof | .global => .scope
  | .setAccess _ | .access => .access
  | .declare _ _ | .enum | .type => .identity
  | .augments => .augments
  | .implements => .implements
  | .mixes => .mixes
  | .borrows => .borrowed
  | .default => .defaultValue
  | .deprecated => .deprecated
  | .param => .params
  | .property => .properties
  | .returns => .returns
  | .throws => .exceptions

namespace Doclet

theorem setText_worksOn (field : TextField) (s : Option String) :
    WorksOn field.part fun d => d.setText field s := by
  intro d
  cases field <;> rfl

theorem setFlag_worksOn (field : FlagField) : WorksOn field.part fun d => d.setFlag field := by
  intro d
  cases field <;> rfl

theorem appendText_worksOn (field : ListField) (s : String) :
    WorksOn field.part fun d => d.appendText field s := by
  intro d
  cases field <;> rfl

theorem setKind_worksOn (kind : Option String) : WorksOn .identity fun d => d.setKind kind := by
  have heq : ∀ d : Doclet, d.setKind kind =
      { d with kind := if said d.kind = none then (said kind).or d.kind else d.kind } := by
    intro d
    unfold setKind
    cases said d.kind <;> cases said kind <;> rfl
  simp only [heq]
  exact fun d => rfl

theorem setAccess_worksOn (level : Option String) :
    WorksOn .access fun d => d.setAccess level := by
  simp only [setAccess_eq]
  exact fun d => rfl

theorem applyDeclaration_worksOn (kind : String) (withType : Bool) (tag : Tag) :
    WorksOn .identity fun d => (applyDeclaration kind withType tag d).doclet := by
  have hkind := setKind_worksOn (some kind)
  have hne : Part.identity ≠ .rest := by decide
  unfold applyDeclaration
  cases tag.value with
  | none => exact hkind
  | text s =>
    by_cases hs : s = ""
    · simp only [hs, if_true]
      exact hkind
    · simp only [hs, if_false]
      exact (setText_worksOn .name (some s)).comp hkind hne
  | parts p =>
    have hparts : WorksOn .identity fun d => { d with
        name := (said p.name).or d.name
        types := if withType then d.types.or p.types else d.types } := fun d => rfl
    exact hparts.comp hkind hne

theorem applyDefault_worksOn (tag : Tag) :
    WorksOn .defaultValue fun d => (applyDefault tag d).doclet := by
  intro d
  -- The value of the code is part of the place, which is the same for the part by itself.
  have hplace : (d.only .defaultValue).place = d.place := rfl
  have hid := WorksOn.id .defaultValue d
  simp only [applyDefault, hplace]
  cases said tag.text with
  | some s => rfl
  | none =>
    cases d.place.code.value with
    | null => exact hid
    | _ =>
      dsimp only
      split
      · exact hid
      · rfl

theorem applyEnum_worksOn (tag : Tag) :
    WorksOn .identity fun d => (applyHook .enum tag d).doclet := by
  have hne : Part.identity ≠ .rest := by decide
  have htypes : WorksOn .identity fun d =>
      { d with types := d.types.or tag.value.asParts.types } := fun d => rfl
  exact (htypes.comp (setKind_worksOn (some "member")) hne).comp (setFlag_worksOn .isEnum) hne

theorem applyHook_worksOn (hook : Hook) (tag : Tag) :
    WorksOn hook.part fun d => (applyHook hook tag d).doclet := by
  cases hook with
  | setText field => exact setText_worksOn field _
  | setFlag field => exact setFlag_worksOn field
  | appendText field =>
    simp only [applyHook]
    cases tag.text with
    | none => exact WorksOn.id field.part
    | some s => exact appendText_worksOn field s
  | setScope scope =>
    simp only [applyHook, trySetScope]
    cases Scope.ofName? scope with
    | none => exact WorksOn.id .scope
    | some s => exact setText_worksOn .scope _
  | setAccess level => exact setAccess_worksOn _
  | declare kind withType => exact applyDeclaration_worksOn kind withType tag
  | access =>
    simp only [applyHook, applyAccess]
    split
    · exact setAccess_worksOn _
    · exact WorksOn.id .access
  | augments | implements | mixes =>
    simp only [applyHook]
    split
    · exact WorksOn.id _
    · exact fun d => rfl
  | borrows =>
    simp only [applyHook, applyBorrows]
    split
    · exact WorksOn.id _
    · exact fun d => rfl
  | memberof =>
    simp only [applyHook, applyMemberof]
    split
    · exact fun d => rfl
    · exact fun d => rfl
  | default => exact applyDefault_worksOn tag
  | enum => exact applyEnum_worksOn tag
  | global | deprecated | param | property | returns | throws | type => exact fun d => rfl

end Doclet

/-! The parts that tags work on. -/

/-- The part on which tags of that title work whatever their definition. -/
def baselinePart : String → Option Part
  | "name" => some .identity
  | "kind" => some .identity
  | "sort" => some .sort
  | "description" => some .description
  | _ => none

theorem baselinePart_ne_rest (title : String) : baselinePart title ≠ some .rest := by
  unfold baselinePart
  split <;> decide

/-- The part on which the tags of a definition work. -/
def TagDefinition.part (t : TagDefinition) : Part :=
  ((baselinePart t.title).or (t.hook.map Hook.part)).getD .rest

/-- Tags without a definition are collected. -/
def Part.ofDefinition? : Option TagDefinition → Part
  | none => .tags
  | some t => t.part

namespace Doclet

theorem applySort_worksOn (value : Option String) :
    WorksOn .sort fun d => (d.applySort value).doclet := by
  unfold applySort
  cases leadingInt? (value.getD "").toList with
  | none => exact WorksOn.id .sort
  | some found =>
    dsimp only
    split
    · exact WorksOn.id .sort
    · exact fun d => rfl

theorem applyBaseline_worksOn {tag : Tag} {p : Part} (h : baselinePart tag.title = some p) :
    WorksOn p fun d => (applyBaseline tag d).doclet := by
  unfold baselinePart at h
  split at h
  next hname =>
    cases h
    simp only [applyBaseline, hname]
    exact setText_worksOn .name tag.plain?
  next hkind =>
    cases h
    simp only [applyBaseline, hkind]
    exact setKind_worksOn tag.plain?
  next hsort =>
    cases h
    simp only [applyBaseline, hsort]
    exact applySort_worksOn tag.plain?
  next hdescription =>
    cases h
    simp only [applyBaseline, hdescription]
    exact setText_worksOn .description tag.plain?
  next => simp at h

theorem applyBaseline_of_none {tag : Tag} (h : baselinePart tag.title = none) (d : Doclet) :
    applyBaseline tag d = { doclet := d } := by
  unfold baselinePart at h
  split at h
  iterate 4 next => simp at h
  next => simp [applyBaseline]

/-- The effect on the identity leaves alone what no title has as its part. -/
theorem part_applyBaseline {r : Part} (h : ∀ title, baselinePart title ≠ some r) (tag : Tag)
    (d : Doclet) : (applyBaseline tag d).doclet.part r = d.part r := by
  cases hp : baselinePart tag.title with
  | none => rw [applyBaseline_of_none hp]
  | some p =>
    have hne : r ≠ p := by
      rintro rfl
      exact h tag.title hp
    exact (applyBaseline_worksOn hp).part_of_ne hne d

end Doclet

namespace Dictionary

theorem standard_parts : ∀ t ∈ standardDefinitions,
    (baselinePart t.title = none ∨ t.hook = none) ∧ t.part ≠ .rest := by
  decide

theorem normalise_ne_of_unknown {title : String} (h : standard.lookUp title = none) {name : String}
    (hname : name ∈ standardDefinitions.map (·.title)) : standard.normalise title ≠ name := by
  rintro rfl
  obtain ⟨t, ht, htitle⟩ := List.mem_map.mp hname
  rw [lookUp_standard_eq, List.lookup_eq_none_iff] at h
  have hne := h (t.title, t) (List.mem_map.mpr ⟨t, ht, rfl⟩)
  simp [htitle] at hne

theorem baselinePart_of_unknown {title : String} (h : standard.lookUp title = none) :
    baselinePart (standard.normalise title) = none := by
  have hknown : ∀ name ∈ ["name", "kind", "sort", "description"],
      name ∈ standardDefinitions.map (·.title) := by
    decide
  unfold baselinePart
  split
  next hname => exact absurd hname (normalise_ne_of_unknown h (hknown _ (by simp)))
  next hkind => exact absurd hkind (normalise_ne_of_unknown h (hknown _ (by simp)))
  next hsort => exact absurd hsort (normalise_ne_of_unknown h (hknown _ (by simp)))
  next hdescription =>
    exact absurd hdescription (normalise_ne_of_unknown h (hknown _ (by simp)))
  next => rfl

end Dictionary

namespace WrittenTag

/-- The part of a doclet on which a tag works. -/
def part (w : WrittenTag) : Part := .ofDefinition? (Dictionary.standard.lookUp w.title)

theorem part_ne_rest (w : WrittenTag) : w.part ≠ .rest := by
  unfold part
  generalize hfound : Dictionary.standard.lookUp w.title = found
  cases found with
  | none => decide
  | some t => exact (Dictionary.standard_parts t (Dictionary.lookUp_standard hfound).1).2

end WrittenTag

namespace Doclet

theorem doclet_andThen_id (p : Progress) :
    (p.andThen fun d => { doclet := d }).doclet = p.doclet := by
  unfold Progress.andThen
  split <;> rfl

theorem title_makeTag_of_known {title : String} {t : TagDefinition}
    (h : Dictionary.standard.lookUp title = some t) (body : Option String) :
    (Dictionary.standard.makeTag title body).title = t.title :=
  (Dictionary.standard.title_makeTag title body).trans (Dictionary.lookUp_standard h).2.symm

/-- A tag with a hook does what the hook says. -/
theorem applyTag_of_hook {title : String} {t : TagDefinition} {hook : Hook}
    (h : Dictionary.standard.lookUp title = some t) (hhook : t.hook = some hook)
    (body : Option String) (d : Doclet) :
    applyTag Dictionary.standard title body d =
      applyHook hook (Dictionary.standard.makeTag title body) d := by
  have hbaseline : baselinePart t.title = none := by
    have hparts := (Dictionary.standard_parts t (Dictionary.lookUp_standard h).1).1
    simpa [hhook] using hparts
  rw [← title_makeTag_of_known h body] at hbaseline
  rw [applyTag_eq, h, applyBaseline_of_none hbaseline, applyDefinitionWith_of_hook _ hhook,
    Progress.start_andThen]

theorem doclet_applyTag_of_hookless {title : String} {t : TagDefinition}
    (h : Dictionary.standard.lookUp title = some t) (hhook : t.hook = none)
    (body : Option String) (d : Doclet) :
    (applyTag Dictionary.standard title body d).doclet =
      (applyBaseline (Dictionary.standard.makeTag title body) d).doclet := by
  rw [applyTag_eq, h, applyDefinitionWith_of_hookless _ hhook, doclet_andThen_id]

theorem applyTag_worksOn_of_known {title : String} {t : TagDefinition}
    (h : Dictionary.standard.lookUp title = some t) (body : Option String) :
    WorksOn t.part fun d => (applyTag Dictionary.standard title body d).doclet := by
  obtain ⟨hparts, hrest⟩ := Dictionary.standard_parts t (Dictionary.lookUp_standard h).1
  unfold TagDefinition.part at hrest ⊢
  cases hhook : t.hook with
  | none =>
    simp only [doclet_applyTag_of_hookless h hhook]
    cases hbaseline : baselinePart t.title with
    | none => simp [hhook, hbaseline] at hrest
    | some p =>
      rw [← title_makeTag_of_known h body] at hbaseline
      exact applyBaseline_worksOn hbaseline
  | some hook =>
    simp only [applyTag_of_hook h hhook]
    have hbaseline : baselinePart t.title = none := by simpa [hhook] using hparts
    rw [hbaseline]
    exact applyHook_worksOn hook _

theorem applyTag_worksOn_of_unknown {title : String}
    (h : Dictionary.standard.lookUp title = none) (body : Option String) :
    WorksOn .tags fun d => (applyTag Dictionary.standard title body d).doclet := by
  have hwritten := Dictionary.standard.title_makeTag title body
  have hbaseline := Dictionary.baselinePart_of_unknown h
  rw [← hwritten] at hbaseline
  simp only [applyTag_eq, h, applyBaseline_of_none hbaseline, Progress.start_andThen,
    applyDefinitionWith]
  exact fun d => rfl

/-- Every tag works on its part. -/
theorem applyTag_worksOn (w : WrittenTag) :
    WorksOn w.part fun d => (applyTag Dictionary.standard w.title w.body d).doclet := by
  unfold WrittenTag.part
  generalize hfound : Dictionary.standard.lookUp w.title = found
  cases found with
  | none => exact applyTag_worksOn_of_unknown hfound w.body
  | some t => exact applyTag_worksOn_of_known hfound w.body

end Doclet

end DocComment
