import DocComment.Proofs.Build.Faults
import DocComment.Proofs.Tagging.Parts

/-! Kinds and access levels in tags. Of the tags that name or declare a kind the
first one counts, and of those that set an access level likewise. -/

namespace DocComment

/-- The kinds of symbols that tags declare, by the titles of the tags. -/
def declaredKinds : List (String × String) :=
  [("callback", "typedef"), ("class", "class"), ("constant", "constant"), ("enum", "member"),
    ("event", "event"), ("external", "external"), ("function", "function"),
    ("interface", "interface"), ("member", "member"), ("mixin", "mixin"), ("module", "module"),
    ("namespace", "namespace"), ("typedef", "typedef")]

namespace WrittenTag

/-- The kind that a tag names or declares. -/
def kind? (w : WrittenTag) : Option String :=
  let title := Dictionary.standard.normalise w.title
  if title = "kind" then Text.nonempty? (Tag.trimBody w.body false false)
  else declaredKinds.lookup title

/-- The access level that a tag names, if there is such a level. -/
def access? (w : WrittenTag) : Option String :=
  let title := Dictionary.standard.normalise w.title
  let level := if title = "access" then Text.lower (Tag.trimBody w.body false false) else title
  if Doclet.accessLevels.contains level then some level else none

end WrittenTag

/-! One tag. -/

/-- The kind that a hook declares. -/
def Hook.kind? : Hook → Option String
  | .declare kind _ => said (some kind)
  | .enum => some "member"
  | _ => none

namespace Doclet

theorem kind_of_part {d e : Doclet} (h : d.part .identity = e.part .identity) :
    d.kind = e.kind := by
  change (d.part .identity).kind = (e.part .identity).kind
  rw [h]

theorem access_of_part {d e : Doclet} (h : d.part .access = e.part .access) :
    d.access = e.access := by
  change (d.part .access).access = (e.part .access).access
  rw [h]

theorem said_nonempty? (s : String) : said (Text.nonempty? s) = Text.nonempty? s := by
  unfold Text.nonempty?
  split
  next => rfl
  next hs => exact said_eq_some.mpr ⟨rfl, by simpa using hs⟩

theorem said_kind_setKind (d : Doclet) (kind : Option String) :
    said (d.setKind kind).kind = (said d.kind).or (said kind) := by
  unfold setKind
  cases hold : said d.kind with
  | some old => simpa using hold
  | none =>
    cases hnew : said kind with
    | none => simpa using hold
    | some new => exact said_eq_some.mpr ⟨rfl, (said_eq_some.mp hnew).2⟩

theorem said_kind_applyDeclaration (kind : String) (withType : Bool) (tag : Tag) (d : Doclet) :
    said (applyDeclaration kind withType tag d).doclet.kind =
      (said d.kind).or (said (some kind)) := by
  rw [← said_kind_setKind]
  unfold applyDeclaration
  cases tag.value with
  | none => rfl
  | text s =>
    by_cases hs : s = ""
    · simp only [hs, if_true]
      rfl
    · simp only [hs, if_false]
      rfl
  | parts p => rfl

theorem said_kind_applyHook {hook : Hook} (hne : hook ≠ .setText .kind) (tag : Tag) (d : Doclet) :
    said (applyHook hook tag d).doclet.kind = (said d.kind).or hook.kind? := by
  -- The kind belongs to the identity, which the other hooks leave alone.
  by_cases hpart : hook.part = .identity
  · cases hook with
    | declare kind withType => exact said_kind_applyDeclaration kind withType tag d
    | enum => exact said_kind_setKind { d with isEnum := some true } (some "member")
    | type => exact (Option.or_none).symm
    | setText field =>
      cases field with
      | name => exact (Option.or_none).symm
      | kind => exact absurd rfl hne
      | _ => cases hpart
    | setFlag field =>
      cases field with
      | isEnum => exact (Option.or_none).symm
      | _ => cases hpart
    | appendText field => cases field <;> cases hpart
    | _ => cases hpart
  · have hkind : hook.kind? = none := by
      cases hook with
      | declare | enum => exact absurd rfl hpart
      | _ => rfl
    have hworks := applyHook_worksOn hook tag
    rw [hkind, Option.or_none, kind_of_part (hworks.part_of_ne (Ne.symm hpart) d)]

end Doclet

namespace Dictionary

theorem standard_kinds : ∀ t ∈ standardDefinitions,
    (∀ hook ∈ t.hook, hook ≠ .setText .kind ∧ t.title ≠ "kind" ∧
      hook.kind? = declaredKinds.lookup t.title) ∧
    (t.hook = none → t.form = {} ∧ t.keepsBlanks = false ∧
      declaredKinds.lookup t.title = none) := by
  decide

theorem standard_levels : ∀ t ∈ standardDefinitions,
    (t.part ≠ .access → t.title ≠ "access" ∧ t.title ∉ Doclet.accessLevels) ∧
    (t.part = .access →
      t.title = "access" ∧ t.hook = some .access ∧ t.form = {} ∧ t.keepsBlanks = false ∨
      t.title ≠ "access" ∧ t.hook = some (.setAccess t.title) ∧ t.title ∈ Doclet.accessLevels) := by
  decide

end Dictionary

namespace WrittenTag

theorem kind?_of_unknown {w : WrittenTag} (h : Dictionary.standard.lookUp w.title = none) :
    w.kind? = none := by
  have hknown : ∀ name ∈ "kind" :: declaredKinds.map (·.1),
      name ∈ Dictionary.standardDefinitions.map (·.title) := by
    decide
  have hne : ∀ name ∈ "kind" :: declaredKinds.map (·.1),
      Dictionary.standard.normalise w.title ≠ name :=
    fun name hname => Dictionary.normalise_ne_of_unknown h (hknown name hname)
  unfold kind?
  rw [if_neg (hne "kind" (by simp)), List.lookup_eq_none_iff]
  intro p hp
  have hp' := hne p.1 (List.mem_cons_of_mem _ (List.mem_map_of_mem hp))
  simpa using hp'

theorem access?_of_title {w : WrittenTag}
    (haccess : Dictionary.standard.normalise w.title ≠ "access")
    (hlevel : Dictionary.standard.normalise w.title ∉ Doclet.accessLevels) : w.access? = none := by
  simp only [access?, haccess, if_false]
  rw [if_neg (by simpa using hlevel)]

theorem access?_of_unknown {w : WrittenTag} (h : Dictionary.standard.lookUp w.title = none) :
    w.access? = none := by
  have hknown : ∀ name ∈ "access" :: Doclet.accessLevels,
      name ∈ Dictionary.standardDefinitions.map (·.title) := by
    decide
  apply access?_of_title
  · exact Dictionary.normalise_ne_of_unknown h (hknown _ (by simp))
  · intro hlevel
    exact Dictionary.normalise_ne_of_unknown h (hknown _ (List.mem_cons_of_mem _ hlevel)) rfl

end WrittenTag

namespace Doclet

theorem said_kind_applyBaseline (tag : Tag) (d : Doclet) :
    said (applyBaseline tag d).doclet.kind =
      (said d.kind).or (if tag.title = "kind" then said tag.plain? else none) := by
  unfold applyBaseline
  split
  next hname => simp [hname]
  next hsort =>
    have hkept := (applySort_worksOn tag.plain?).part_of_ne (r := .identity) (by decide) d
    rw [kind_of_part hkept]
    simp [hsort]
  next hkind =>
    rw [if_pos hkind]
    exact said_kind_setKind d tag.plain?
  next hdescription => simp [hdescription]
  next _ _ hkind _ => rw [if_neg hkind, Option.or_none]

/-- The first kind that is named stays. -/
theorem said_kind_applyTag (w : WrittenTag) (d : Doclet) :
    said (applyTag Dictionary.standard w.title w.body d).doclet.kind =
      (said d.kind).or w.kind? := by
  generalize hfound : Dictionary.standard.lookUp w.title = found
  cases found with
  | none =>
    have hkept := (applyTag_worksOn_of_unknown hfound w.body).part_of_ne (r := .identity)
      (by decide) d
    rw [kind_of_part hkept, WrittenTag.kind?_of_unknown hfound, Option.or_none]
  | some t =>
    obtain ⟨hmem, htitle⟩ := Dictionary.lookUp_standard hfound
    obtain ⟨hhooked, hhookless⟩ := Dictionary.standard_kinds t hmem
    cases hhook : t.hook with
    | none =>
      obtain ⟨hform, hblanks, hlookup⟩ := hhookless hhook
      have hplain := (Dictionary.makeTag_plain hfound hform hblanks w.body).2
      rw [doclet_applyTag_of_hookless hfound hhook, said_kind_applyBaseline,
        title_makeTag_of_known hfound, hplain, said_nonempty?, WrittenTag.kind?, ← htitle, hlookup]
    | some hook =>
      obtain ⟨hne, hkind, hlookup⟩ := hhooked hook hhook
      rw [applyTag_of_hook hfound hhook, said_kind_applyHook hne, hlookup, WrittenTag.kind?,
        ← htitle, if_neg hkind]

/-- The first access level that is named stays. -/
theorem access_applyTag (w : WrittenTag) (d : Doclet) :
    (applyTag Dictionary.standard w.title w.body d).doclet.access = d.access.or w.access? := by
  generalize hfound : Dictionary.standard.lookUp w.title = found
  cases found with
  | none =>
    have hkept := (applyTag_worksOn_of_unknown hfound w.body).part_of_ne (r := .access)
      (by decide) d
    rw [access_of_part hkept, WrittenTag.access?_of_unknown hfound, Option.or_none]
  | some t =>
    obtain ⟨hmem, htitle⟩ := Dictionary.lookUp_standard hfound
    obtain ⟨hother, hown⟩ := Dictionary.standard_levels t hmem
    by_cases hpart : t.part = .access
    · rcases hown hpart with ⟨haccess, hhook, hform, hblanks⟩ | ⟨haccess, hhook, hlevel⟩
      · have hplain := (Dictionary.makeTag_plain hfound hform hblanks w.body).2
        rw [applyTag_of_hook hfound hhook]
        simp only [applyHook, applyAccess, hplain, getD_nonempty?, WrittenTag.access?,
          ← htitle, haccess, if_true]
        split
        · rw [setAccess_eq]
        · rw [Option.or_none]
      · rw [applyTag_of_hook hfound hhook]
        simp only [applyHook, setAccess_eq, WrittenTag.access?, ← htitle, haccess, if_false]
        rw [if_pos (by simpa using hlevel)]
    · rw [htitle] at hother
      have hkept := (applyTag_worksOn_of_known hfound w.body).part_of_ne (Ne.symm hpart) d
      rw [access_of_part hkept, WrittenTag.access?_of_title (hother hpart).1 (hother hpart).2,
        Option.or_none]

/-! All the tags of a comment. -/

/-- When every tag only fills what has not been said, the first one that says something
counts. -/
theorem applyTags_or {dictionary : Dictionary} (read : Doclet → Option String)
    (value : WrittenTag → Option String)
    (hstep : ∀ w d, read (applyTag dictionary w.title w.body d).doclet = (read d).or (value w))
    {tags : List WrittenTag} {d : Doclet} (h : (applyTags dictionary tags d).fault = none) :
    read (applyTags dictionary tags d).doclet = (read d).or (tags.findSome? value) := by
  rw [doclet_applyTags h]
  clear h
  induction tags generalizing d with
  | nil => simp
  | cons w tags ih =>
    rw [List.foldl_cons, ih, hstep, Option.or_assoc, List.findSome?_cons]
    cases value w <;> rfl

theorem applyTags_firstWriter {dictionary : Dictionary} (hd : dictionary = .standard)
    {tags : List WrittenTag} {d : Doclet} (h : (applyTags dictionary tags d).fault = none) :
    said (applyTags dictionary tags d).doclet.kind =
        (said d.kind).or (tags.findSome? WrittenTag.kind?) ∧
      (applyTags dictionary tags d).doclet.access =
        d.access.or (tags.findSome? WrittenTag.access?) := by
  subst hd
  exact ⟨applyTags_or (fun d => said d.kind) WrittenTag.kind? said_kind_applyTag h,
    applyTags_or Doclet.access WrittenTag.access? access_applyTag h⟩

end Doclet

end DocComment
