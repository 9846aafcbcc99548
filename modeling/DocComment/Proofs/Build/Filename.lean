import DocComment.Proofs.Build.Place
import DocComment.Proofs.Build.Stages
import DocComment.Proofs.Path.Normal

/-! The name of the file that a finished doclet belongs to. The path of the source is
kept as a parent and a name, and put together again when all tags are applied; nothing
that is done afterwards writes it, except a hook for the kind that is filled in. -/

namespace DocComment.Doclet

theorem SamePlace.filepath {d e : Doclet} (h : d.SamePlace e) : e.filepath = d.filepath := by
  rw [Doclet.filepath, Doclet.filepath, h.place]

section Source

variable {d : Doclet} {source : Source} {s : String} {line : Int}

theorem setPlace_position (stamp : Nat) (hfile : source.filename = some s)
    (hline : source.line = some line) (hne : line ≠ 0) :
    (d.setPlace stamp source).place.filename = some (String.ofList (Path.parse s).name) ∧
      (d.setPlace stamp source).place.path =
        if (Path.parse s).parent.text = "." then d.place.path
        else some (Path.parse s).parent.text := by
  have hsaid : source.line.filter (· != 0) = some line := by simp [hline, hne]
  unfold setPlace
  simp only [hsaid, hfile, Option.getD_some]
  cases source.range <;> cases source.code <;> simp

/-- The parent and the name make up the path of the source again. -/
theorem filepath_setPlace (stamp : Nat) (hpath : d.place.path = none)
    (hfile : source.filename = some s) (hline : source.line = some line) (hne : line ≠ 0)
    (hname : (Path.parse s).name ≠ []) :
    (d.setPlace stamp source).filepath = (Path.parse s).text := by
  obtain ⟨hfile', hpath'⟩ := setPlace_position (d := d) stamp hfile hline hne
  have hsaid : said (d.setPlace stamp source).place.filename =
      some (String.ofList (Path.parse s).name) :=
    said_eq_some.mpr ⟨hfile', by simpa using hname⟩
  have hparent : (d.setPlace stamp source).place.path.getD "" =
      if (Path.parse s).parent.text = "." then "" else (Path.parse s).parent.text := by
    rw [hpath', hpath]
    split <;> rfl
  have hnormal : (Path.parse s).IsNormal := Path.isNormal_ofChars s.toList
  simp only [filepath, hsaid, hparent, hnormal.join_parent_name hname]

end Source

theorem filename_tagged {context : Context} {comment : Option String} {source : Source}
    {contextId : Option Nat} {stamp : Nat} {twinId : Option Nat}
    (h : (tagged context comment source contextId stamp twinId).fault = none) :
    let links : Links := { code := stamp, twin := twinId, context := contextId }
    (tagged context comment source contextId stamp twinId).doclet.filename =
      some (start context links comment source stamp).filepath := by
  intro links
  have htags := applyTags_samePlace context.dictionary
    (Comment.parse comment (source.code.bind (·.type))) (start context links comment source stamp)
  rw [tagged_eq] at h ⊢
  rw [Progress.doclet_change h, htags.filepath]

theorem filename_of_part {d e : Doclet} (h : d.part .rest = e.part .rest) :
    d.filename = e.filename := by
  change (d.part .rest).filename = (e.part .rest).filename
  rw [h]

theorem filename_applyHook {hook : Hook} (h : hook ≠ .setText .filename) (tag : Tag) (d : Doclet) :
    (applyHook hook tag d).doclet.filename = d.filename := by
  by_cases hrest : hook.part = .rest
  · -- only texts are written to the rest
    cases hook with
    | setText field =>
      cases field with
      | comment | longname => rfl
      | filename => exact absurd rfl h
      | _ => cases hrest
    | setFlag field => cases field <;> cases hrest
    | appendText field => cases field <;> cases hrest
    | _ => cases hrest
  · exact filename_of_part ((applyHook_worksOn hook tag).part_of_ne (Ne.symm hrest) d)

section Kind

variable {dictionary : Dictionary}
  (hkind : ∀ t, dictionary.lookUp "kind" = some t → t.hook ≠ some (.setText .filename))

include hkind

theorem filename_fillKind (d : Doclet) :
    (d.fillKind dictionary).doclet.filename = d.filename := by
  rw [fillKind_eq]
  split
  · rfl
  · rw [applyTag_eq, Progress.read_andThen Doclet.filename]
    · exact filename_of_part (part_applyBaseline baselinePart_ne_rest _ d)
    · intro e
      unfold applyDefinitionWith
      split
      · rfl
      next t ht =>
        split
        next hook hhook =>
          exact filename_applyHook (fun he => hkind t ht (he ▸ hhook)) _ e
        next => rfl

theorem filename_derive (twin : Option Doclet) (d : Doclet) :
    (d.derive dictionary twin).doclet.filename = d.filename := by
  have hshown : ∀ e : Doclet, e.showVariation.filename = e.filename := by
    intro e
    rw [showVariation_eq]
  rw [derive_eq, Progress.read_change Doclet.filename fun e => (syncTwin_keeps twin e).2.1,
    Progress.read_change Doclet.filename hshown,
    Progress.read_andThen Doclet.filename (filename_fillKind hkind),
    (naming_ends dictionary d).doclet]
  exact (named_keeps dictionary d).2.1

end Kind

theorem filename_enrich (context : Context) (d : Doclet) :
    (d.enrich context).doclet.filename = d.filename := by
  change (d.enrich context).doclet.background.filename = d.background.filename
  rw [background_enrich]

/-- The file name of a finished doclet is the normal form of the path of its source, as
long as the kind that is filled in does not write it. -/
theorem filename_create {context : Context}
    (hkind : ∀ t, context.dictionary.lookUp "kind" = some t → t.hook ≠ some (.setText .filename))
    {source : Source} {s : String} {line : Int} (hfile : source.filename = some s)
    (hline : source.line = some line) (hne : line ≠ 0) (hname : (Path.parse s).name ≠ [])
    {comment : Option String} {contextId : Option Nat} {stamp : Nat}
    {twin : Option (Nat × Doclet)}
    (hfault : (create context comment source contextId stamp twin).fault = none) :
    (create context comment source contextId stamp twin).doclet.filename =
      some (Path.parse s).text := by
  rw [create_eq] at hfault ⊢
  have htagged := Progress.fault_of_andThen hfault
  have hreleased : ∀ e : Doclet, (e.release context.settings).filename = e.filename :=
    fun e => (release_keeps context.settings e).2.1
  have hfinished : ∀ e : Doclet,
      (e.postProcess context (twin.map (·.2))).doclet.filename = e.filename := by
    intro e
    rw [postProcess_eq, Progress.read_change Doclet.filename hreleased,
      Progress.read_andThen Doclet.filename (filename_enrich context), filename_derive hkind]
  rw [Progress.read_andThen Doclet.filename hfinished, filename_tagged htagged, start,
    filepath_setPlace stamp rfl hfile hline hne hname]

/-- Two slashes at the beginning stay, all that says nothing goes. -/
theorem filename_create_slashes :
    let source : Source := { filename := some "//srv/./a//b.js/", line := some (-3) }
    (create {} (some "/** @function f */") source none 0 none).doclet.filename =
      some "//srv/a/b.js" := by
  intro source
  have hkind : ∀ t, ({} : Context).dictionary.lookUp "kind" = some t →
      t.hook ≠ some (.setText .filename) := by
    obtain ⟨-, t, ht, hhook⟩ := Dictionary.setsKinds_standard
    intro u hu
    obtain rfl : t = u := Option.some.inj (ht.symm.trans hu)
    simp [hhook]
  have hfault : (create {} (some "/** @function f */") source none 0 none).fault = none := by
    decide +kernel
  have htext : (Path.parse "//srv/./a//b.js/").text = "//srv/a/b.js" := by decide +kernel
  rw [← htext]
  exact filename_create hkind rfl rfl (by decide) (by decide +kernel) hfault

end DocComment.Doclet
