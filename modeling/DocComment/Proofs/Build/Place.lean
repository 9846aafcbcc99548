import DocComment.Proofs.Enrich.Gaps
import DocComment.Proofs.Tagging.Parts

/-! What work on a doclet does to its place and to the links it hangs by. Tags, names
and passes leave both alone, so a doclet that is built hangs by the code it was
given, or by that of its twin. -/

namespace DocComment.Doclet

structure SamePlace (d e : Doclet) : Prop where
  place : e.place = d.place
  links : e.links = d.links

theorem SamePlace.refl (d : Doclet) : d.SamePlace d := ⟨rfl, rfl⟩

theorem SamePlace.trans {d e f : Doclet} (h : d.SamePlace e) (h' : e.SamePlace f) :
    d.SamePlace f :=
  ⟨h'.place.trans h.place, h'.links.trans h.links⟩

theorem SamePlace.andThen {d : Doclet} {p : Progress} (h : d.SamePlace p.doclet)
    (step : Doclet → Progress) (hs : ∀ e : Doclet, e.SamePlace (step e).doclet) :
    d.SamePlace (p.andThen step).doclet := by
  unfold Progress.andThen
  split
  · exact h
  · exact h.trans (hs p.doclet)

theorem SamePlace.change {d : Doclet} {p : Progress} (h : d.SamePlace p.doclet)
    (f : Doclet → Doclet) (hf : ∀ e : Doclet, e.SamePlace (f e)) :
    d.SamePlace (p.change f).doclet :=
  h.andThen _ hf

theorem samePlace_of_part {d e : Doclet} (h : e.part .rest = d.part .rest) : d.SamePlace e := by
  refine ⟨place_of_part h, ?_⟩
  change (e.part .rest).links = (d.part .rest).links
  rw [h]

theorem setText_samePlace (field : TextField) (s : Option String) (d : Doclet) :
    d.SamePlace (d.setText field s) := by
  cases field <;> exact ⟨rfl, rfl⟩

theorem applyHook_samePlace (hook : Hook) (tag : Tag) (d : Doclet) :
    d.SamePlace (applyHook hook tag d).doclet := by
  by_cases h : hook.part = .rest
  · -- only texts are written to the rest
    cases hook with
    | setText field => exact setText_samePlace field _ d
    | setFlag field => cases field <;> cases h
    | appendText field => cases field <;> cases h
    | _ => cases h
  · exact samePlace_of_part ((applyHook_worksOn hook tag).part_of_ne (Ne.symm h) d)

theorem applyBaseline_samePlace (tag : Tag) (d : Doclet) :
    d.SamePlace (applyBaseline tag d).doclet :=
  samePlace_of_part (part_applyBaseline baselinePart_ne_rest tag d)

theorem applyTag_samePlace (dictionary : Dictionary) (title : String) (body : Option String)
    (d : Doclet) : d.SamePlace (applyTag dictionary title body d).doclet := by
  refine (applyBaseline_samePlace _ d).andThen _ fun e => ?_
  unfold applyDefinitionWith
  split
  · exact ⟨rfl, rfl⟩
  · split
    · exact applyHook_samePlace _ _ e
    · exact .refl e

theorem through_applyTag_samePlace (dictionary : Dictionary) (tags : List WrittenTag) {d : Doclet}
    {p : Progress} (h : d.SamePlace p.doclet) :
    d.SamePlace (p.through tags fun tag => applyTag dictionary tag.title tag.body).doclet := by
  induction tags generalizing p with
  | nil => exact h
  | cons tag tags ih => exact ih (h.andThen _ (applyTag_samePlace dictionary tag.title tag.body))

theorem applyTags_samePlace (dictionary : Dictionary) (tags : List WrittenTag) (d : Doclet) :
    d.SamePlace (applyTags dictionary tags d).doclet :=
  through_applyTag_samePlace dictionary tags (SamePlace.refl d)

theorem tryResolve_samePlace (dictionary : Dictionary) (d : Doclet) :
    d.SamePlace (d.tryResolve dictionary).doclet := by
  obtain ⟨n, hn⟩ := exists_resolve_eq dictionary d
  change d.SamePlace (d.resolve dictionary)
  rw [hn]
  exact ⟨rfl, rfl⟩

theorem fillLongname_samePlace (dictionary : Dictionary) (d : Doclet) :
    d.SamePlace (d.fillLongname dictionary) := by
  unfold fillLongname
  split <;> exact ⟨rfl, rfl⟩

theorem dropEmptyParent_samePlace (d : Doclet) : d.SamePlace d.dropEmptyParent := by
  unfold dropEmptyParent
  split <;> exact ⟨rfl, rfl⟩

theorem fillKind_samePlace (dictionary : Dictionary) (d : Doclet) :
    d.SamePlace (d.fillKind dictionary).doclet := by
  rw [fillKind_eq]
  split
  · exact .refl d
  · exact applyTag_samePlace dictionary _ _ d

theorem showVariation_samePlace (d : Doclet) : d.SamePlace d.showVariation := by
  unfold showVariation
  split
  · split <;> exact ⟨rfl, rfl⟩
  · exact .refl d

theorem samePlace_of_background {d e : Doclet} (h : e.background = d.background) :
    d.SamePlace e := by
  refine ⟨place_eq_of_background h, ?_⟩
  change e.background.links = d.background.links
  rw [h]

section Passes

variable (context : Context) (d : Doclet)

theorem functionBackfill_samePlace : d.SamePlace d.functionBackfill :=
  samePlace_of_background (background_functionBackfill d)

theorem reconcileOverloads_samePlace (settings : Settings) :
    d.SamePlace (d.reconcileOverloads settings) :=
  samePlace_of_background (background_reconcileOverloads d settings)

theorem unrollStructure_samePlace : d.SamePlace (d.unrollStructure context).doclet :=
  samePlace_of_background (background_unrollStructure context d)

theorem classBackfill_samePlace : d.SamePlace d.classBackfill :=
  samePlace_of_background (background_classBackfill d)

theorem classMemberBackfill_samePlace (dictionary : Dictionary) :
    d.SamePlace (d.classMemberBackfill dictionary).doclet :=
  samePlace_of_background (background_classMemberBackfill d dictionary)

/-- The passes leave the place alone, also when one of them fails. -/
theorem enrich_samePlace : d.SamePlace (d.enrich context).doclet :=
  samePlace_of_background (background_enrich context d)

end Passes

/-! The stages of building. Only meeting the twin and letting go of the tree change
what a doclet hangs by. -/

/-- A doclet meets its twin after all else is derived, and till then it stays in its
place. -/
theorem exists_derive_eq (dictionary : Dictionary) (d : Doclet) :
    ∃ found : Progress, d.SamePlace found.doclet ∧
      ∀ twin, d.derive dictionary twin = found.change (syncTwin twin) := by
  have hnamed := (tryResolve_samePlace dictionary d).change _ (fillLongname_samePlace dictionary)
  have hgiven := (hnamed.change _ dropEmptyParent_samePlace).andThen
    (fun d => { doclet := d, exports := d.exportsOf }) SamePlace.refl
  have hkind := hgiven.andThen _ (fillKind_samePlace dictionary)
  exact ⟨_, hkind.change _ showVariation_samePlace, fun _ => rfl⟩

/-- A doclet that stays with its context, and hangs by its own code or by that of its
twin. -/
structure StaysLinked (twin : Option Doclet) (d e : Doclet) : Prop where
  context : e.links.context = d.links.context
  code : e.links.code = d.links.code ∨ ∃ t, twin = some t ∧ e.links.code = t.links.code

theorem SamePlace.staysLinked {d e : Doclet} (h : d.SamePlace e) (twin : Option Doclet) :
    d.StaysLinked twin e := ⟨by rw [h.links], .inl (by rw [h.links])⟩

theorem StaysLinked.trans {twin : Option Doclet} {d e f : Doclet} (h : d.StaysLinked twin e)
    (h' : e.StaysLinked twin f) : d.StaysLinked twin f := by
  refine ⟨h'.context.trans h.context, ?_⟩
  rcases h'.code with hcode | hcode
  · rw [hcode]
    exact h.code
  · exact .inr hcode

theorem StaysLinked.andThen {twin : Option Doclet} {d : Doclet} {p : Progress}
    (h : d.StaysLinked twin p.doclet) (step : Doclet → Progress)
    (hs : ∀ e : Doclet, e.StaysLinked twin (step e).doclet) :
    d.StaysLinked twin (p.andThen step).doclet := by
  unfold Progress.andThen
  split
  · exact h
  · exact h.trans (hs p.doclet)

theorem syncTwin_staysLinked (twin : Option Doclet) (d : Doclet) :
    d.StaysLinked twin (syncTwin twin d) := by
  unfold syncTwin
  split
  · exact (SamePlace.refl d).staysLinked none
  next t =>
    split
    · exact ⟨rfl, .inr ⟨t, rfl, rfl⟩⟩
    · exact (SamePlace.refl d).staysLinked (some t)

theorem links_release (settings : Settings) (d : Doclet) :
    (d.release settings).links = d.links := by
  unfold release
  split <;> rfl

theorem release_staysLinked (settings : Settings) (twin : Option Doclet) (d : Doclet) :
    d.StaysLinked twin (d.release settings) :=
  ⟨by rw [links_release], .inl (by rw [links_release])⟩

theorem postProcess_staysLinked (context : Context) (twin : Option Doclet) (d : Doclet) :
    d.StaysLinked twin (d.postProcess context twin).doclet := by
  obtain ⟨found, hplace, hfound⟩ := exists_derive_eq context.dictionary d
  have hmet := (hplace.staysLinked twin).andThen (fun d => { doclet := syncTwin twin d })
    (syncTwin_staysLinked twin)
  have hpasses := hmet.andThen (enrich context)
    fun e => (enrich_samePlace context e).staysLinked twin
  rw [postProcess_eq, hfound]
  exact hpasses.andThen (fun d => { doclet := d.release context.settings })
    (release_staysLinked context.settings twin)

theorem start_links (context : Context) (links : Links) (comment : Option String)
    (source : Source) (stamp : Nat) :
    (start context links comment source stamp).links.code = links.code ∧
      (start context links comment source stamp).links.context = links.context := by
  unfold start setPlace
  dsimp only
  split <;> exact ⟨rfl, rfl⟩

theorem tagged_samePlace (context : Context) (comment : Option String) (source : Source)
    (contextId : Option Nat) (stamp : Nat) (twinId : Option Nat) :
    let links : Links := { code := stamp, twin := twinId, context := contextId }
    (start context links comment source stamp).SamePlace
      (tagged context comment source contextId stamp twinId).doclet := by
  intro links
  have htags := applyTags_samePlace context.dictionary
    (Comment.parse comment (source.code.bind (·.type))) (start context links comment source stamp)
  exact htags.change (fun d => { d with filename := some d.filepath }) fun _ => ⟨rfl, rfl⟩

theorem tagged_links (context : Context) (comment : Option String) (source : Source)
    (contextId : Option Nat) (stamp : Nat) (twinId : Option Nat) :
    (tagged context comment source contextId stamp twinId).doclet.links.code = stamp ∧
      (tagged context comment source contextId stamp twinId).doclet.links.context = contextId := by
  rw [(tagged_samePlace context comment source contextId stamp twinId).links]
  exact start_links context _ comment source stamp

theorem create_staysLinked (context : Context) (comment : Option String) (source : Source)
    (contextId : Option Nat) (stamp : Nat) (twin : Option (Nat × Doclet)) :
    (create context comment source contextId stamp twin).doclet.links.context = contextId ∧
      ((create context comment source contextId stamp twin).doclet.links.code = stamp ∨
        ∃ t, twin.map (·.2) = some t ∧
          (create context comment source contextId stamp twin).doclet.links.code =
            t.links.code) := by
  obtain ⟨hcode, hcontext⟩ :=
    tagged_links context comment source contextId stamp (twin.map (·.1))
  rw [create_eq]
  generalize tagged context comment source contextId stamp (twin.map (·.1)) = start
    at hcode hcontext ⊢
  obtain ⟨hcontext', hcode'⟩ := ((SamePlace.refl start.doclet).staysLinked (twin.map (·.2))).andThen
    (postProcess context (twin.map (·.2))) (postProcess_staysLinked context (twin.map (·.2)))
  rw [hcontext] at hcontext'
  rw [hcode] at hcode'
  exact ⟨hcontext', hcode'⟩

/-- Work that ends has met the twin, and then only let go of the tree. -/
theorem postProcess_of_ends {context : Context} {twin : Option Doclet} {d : Doclet}
    (h : (d.postProcess context twin).fault = none) :
    ∃ e, (syncTwin twin (d.derive context.dictionary none).doclet).SamePlace e ∧
      (d.postProcess context twin).doclet = e.release context.settings := by
  obtain ⟨found, -, hfound⟩ := exists_derive_eq context.dictionary d
  have hwork : d.postProcess context twin =
      ((found.change (syncTwin twin)).andThen (enrich context)).change
        (release context.settings) := by
    rw [postProcess_eq, hfound]
  rw [hwork] at h ⊢
  have hpasses := Progress.fault_of_andThen h
  have hmet := Progress.fault_of_andThen hpasses
  have halone : (found.change (syncTwin none)).doclet = found.doclet :=
    Progress.doclet_andThen (Progress.fault_of_andThen hmet) _
  refine ⟨_, enrich_samePlace context _, ?_⟩
  rw [Progress.doclet_change h, Progress.doclet_andThen hmet, Progress.doclet_change hmet,
    hfound none, halone]

theorem code_release (settings : Settings) (d : Doclet) :
    (d.release settings).place.code =
      if settings.releaseNodes then { d.place.code with node := none, source := none }
      else d.place.code := by
  unfold release
  split <;> rfl

/-- A doclet that is built hangs by the code of its twin if the two describe the same
symbol, and else by its own. -/
theorem build_code {start : Progress} {context : Context} {t : Doclet}
    (h : (start.andThen (postProcess context (some t))).fault = none) :
    if (start.doclet.derive context.dictionary none).doclet.matchesTwin t then
      (start.andThen (postProcess context (some t))).doclet.links.code = t.links.code ∧
        (start.andThen (postProcess context (some t))).doclet.links.node = t.links.node ∧
        (start.andThen (postProcess context (some t))).doclet.place.code =
          (t.release context.settings).place.code
    else (start.andThen (postProcess context (some t))).doclet.links.code =
      start.doclet.links.code := by
  have hstart := Progress.fault_of_andThen h
  have hpost := Progress.next_fault_of_andThen h
  rw [Progress.doclet_andThen hstart]
  obtain ⟨e, hplace, hdone⟩ := postProcess_of_ends hpost
  obtain ⟨found, hsame, hfound⟩ := exists_derive_eq context.dictionary start.doclet
  have hkept : start.doclet.SamePlace (start.doclet.derive context.dictionary none).doclet := by
    rw [hfound none]
    exact hsame.change (syncTwin none) SamePlace.refl
  rw [hdone, code_release, code_release, links_release, hplace.place, hplace.links]
  unfold syncTwin
  split
  next hmatch => simp only [hmatch, if_true, and_self]
  next hmatch =>
    simp only [hmatch, Bool.false_eq_true, if_false]
    rw [hkept.links]

end DocComment.Doclet
