import DocComment.Proofs.Build.Tags
import DocComment.Proofs.Enrich.Gaps

/-! The stages that a doclet goes through after its tags. Its names are found and
given out, it gets a kind, its variation is shown, it meets its twin, and the
passes fill it. With the standard tags none of this fails, so a doclet that is
built at all has been through every stage. -/

namespace DocComment.Doclet

open Longname

theorem said_name_of_nameless {d : Doclet} (h : d.nameToResolve = []) : said d.name = none := by
  cases hn : said d.name with
  | none => rfl
  | some s =>
    obtain ⟨-, hs⟩ := said_eq_some.mp hn
    cases ha : said d.aliasName with
    | none =>
      have hne : s.toList ≠ [] := by simpa using hs
      have hstart : d.nameToResolve = memberChars s.toList := by simp [nameToResolve, ha, hn]
      exact absurd (hstart.symm.trans h) (memberChars_ne_nil hne)
    | some a =>
      have hne : a.toList ≠ [] := by simpa using (said_eq_some.mp ha).2
      have hstart : d.nameToResolve = memberChars a.toList := by simp [nameToResolve, ha]
      exact absurd (hstart.symm.trans h) (memberChars_ne_nil hne)

theorem fillLongname_of_said {dictionary : Dictionary} {d : Doclet} {s : List Char} (hs : s ≠ [])
    (h : d.longname = some (String.ofList s)) : d.fillLongname dictionary = d := by
  have hsaid : said d.longname = some (String.ofList s) := said_eq_some.mpr ⟨h, by simpa using hs⟩
  unfold fillLongname
  rw [hsaid]
  cases said d.name <;> rfl

theorem fillLongname_of_nameless {dictionary : Dictionary} {d : Doclet} (h : said d.name = none) :
    d.fillLongname dictionary = d := by
  simp [fillLongname, h]

/-- Finding the names never leaves a longname to be filled in. -/
theorem fillLongname_resolve (dictionary : Dictionary) (d : Doclet) :
    (d.resolve dictionary).fillLongname dictionary = d.resolve dictionary := by
  by_cases hn : d.nameToResolve = []
  · rw [resolve_of_nameless hn]
    exact fillLongname_of_nameless (said_name_of_nameless hn)
  by_cases hp : d.parentText = []
  · rcases splitChars_cases d.nameToResolve with hs | ⟨p, c, b, hs, hsplit, hne, hc, -⟩
    · rw [resolve_plain hn hp hs]
      have hname : said (d.withNames (d.plainNames dictionary)).name =
          some (String.ofList d.nameToResolve) := said_eq_some.mpr ⟨rfl, by simpa using hn⟩
      unfold fillLongname
      rw [hname]
      split
      next name hsaid hlong =>
        -- the longname is set to what it was
        obtain rfl := Option.some.inj hsaid
        rw [setLongname_ofList]
        rfl
      next => rfl
    · rw [resolve_qualified hn hp hs hne hc]
      by_cases hb : b = []
      · exact fillLongname_of_nameless (by simp [withNames, qualifiedNames, hb, said])
      · refine fillLongname_of_said ?_ rfl
        rw [hsplit]
        exact written_append_ne_nil hc hb
  · rw [resolve_member hn hp]
    refine fillLongname_of_said ?_ rfl
    exact written_append_ne_nil (isMark_markOf _) (below_ne_nil hn)

theorem fillKind_ends {dictionary : Dictionary} (hd : dictionary.SetsKinds) (d : Doclet) :
    ∃ kind, (d.fillKind dictionary).Ends [] { d with kind } := by
  rw [fillKind_eq]
  split
  · exact ⟨d.kind, rfl, rfl, rfl⟩
  next =>
    obtain ⟨hkind, t, ht, hhook⟩ := hd
    generalize hbody : some (Kind.infer d.place.code.type d.place.code.node) = body
    have htitle : (dictionary.makeTag "kind" body).title = "kind" :=
      (dictionary.title_makeTag "kind" body).trans hkind
    have hset : ∃ kind, d.setKind (dictionary.makeTag "kind" body).plain? = { d with kind } := by
      unfold setKind
      split
      · exact ⟨_, rfl⟩
      · exact ⟨d.kind, rfl⟩
    obtain ⟨kind, hset⟩ := hset
    have hstart : (applyBaseline (dictionary.makeTag "kind" body) d).Ends [] { d with kind } := by
      simp only [applyBaseline, htitle]
      exact ⟨rfl, rfl, hset⟩
    have hrest : (applyDefinitionWith applyHook (dictionary.lookUp "kind")
        (dictionary.makeTag "kind" body) { d with kind }).Ends [] { d with kind } := by
      rw [ht, applyDefinitionWith_of_hookless _ hhook]
      exact ⟨rfl, rfl, rfl⟩
    exact ⟨kind, hstart.andThen _ hrest⟩

/-- A doclet whose names have been found, before anything else is derived. -/
def named (dictionary : Dictionary) (d : Doclet) : Doclet := (d.resolve dictionary).dropEmptyParent

/-- The work of finding the names of a doclet and giving them out. -/
def naming (dictionary : Dictionary) (d : Doclet) : Progress :=
  (((d.tryResolve dictionary).change (fillLongname dictionary)).change dropEmptyParent).andThen
    fun d => { doclet := d, exports := d.exportsOf }

theorem naming_ends (dictionary : Dictionary) (d : Doclet) :
    (d.naming dictionary).Ends (d.named dictionary).exportsOf (d.named dictionary) := by
  have hresolve : (d.tryResolve dictionary).Ends [] (d.resolve dictionary) := ⟨rfl, rfl, rfl⟩
  have hfilled := hresolve.change (fillLongname dictionary)
  rw [fillLongname_resolve] at hfilled
  exact (hfilled.change dropEmptyParent).andThen
    (fun d => { doclet := d, exports := d.exportsOf }) ⟨rfl, rfl, rfl⟩

theorem deriveWith_eq (act : HookAction) (dictionary : Dictionary) (twin : Option Doclet)
    (d : Doclet) :
    d.deriveWith act dictionary twin =
      (((d.naming dictionary).andThen (fillKindWith act dictionary)).change showVariation).change
        (syncTwin twin) := rfl

theorem derive_eq (dictionary : Dictionary) (twin : Option Doclet) (d : Doclet) :
    d.derive dictionary twin =
      (((d.naming dictionary).andThen (fillKind dictionary)).change showVariation).change
        (syncTwin twin) := rfl

theorem derive_ends_fillKind {dictionary : Dictionary} (hd : dictionary.SetsKinds)
    (twin : Option Doclet) (d : Doclet) :
    (d.derive dictionary twin).Ends (d.named dictionary).exportsOf
      (syncTwin twin (showVariation ((d.named dictionary).fillKind dictionary).doclet)) := by
  obtain ⟨kind, hkind⟩ := fillKind_ends hd (d.named dictionary)
  have hkinded := (naming_ends dictionary d).andThen (fillKind dictionary)
    ⟨hkind.fault, hkind.exports, rfl⟩
  have hdone := (hkinded.change showVariation).change (syncTwin twin)
  rw [List.append_nil] at hdone
  rw [derive_eq]
  exact hdone

theorem derive_ends {dictionary : Dictionary} (hd : dictionary.SetsKinds) (twin : Option Doclet)
    (d : Doclet) :
    ∃ kind, (d.derive dictionary twin).Ends (d.named dictionary).exportsOf
      (syncTwin twin (showVariation { d.named dictionary with kind })) := by
  obtain ⟨kind, hkind⟩ := fillKind_ends hd (d.named dictionary)
  have hdone := derive_ends_fillKind hd twin d
  rw [hkind.doclet] at hdone
  exact ⟨kind, hdone⟩

/-- A doclet after all the passes. -/
def filled (context : Context) (d : Doclet) : Doclet :=
  release context.settings ((d.withFacts context).classMemberBackfill context.dictionary).doclet

theorem release_keeps (settings : Settings) (d : Doclet) :
    (d.release settings).names = d.names ∧ (d.release settings).filename = d.filename ∧
      (d.release settings).variation = d.variation := by
  unfold release
  split <;> exact ⟨rfl, rfl, rfl⟩

theorem filled_keeps (context : Context) (d : Doclet) :
    (d.filled context).filename = d.filename ∧ (d.filled context).variation = d.variation := by
  have hkeeps := release_keeps context.settings
    ((d.withFacts context).classMemberBackfill context.dictionary).doclet
  have hgaps := (withFacts_fillsGaps context d).trans
    (classMemberBackfill_fillsGaps context.dictionary (d.withFacts context))
  have hfile := congrArg Doclet.filename hgaps.background
  have hvariation := congrArg Doclet.variation hgaps.background
  exact ⟨hkeeps.2.1.trans hfile, hkeeps.2.2.trans hvariation⟩

theorem names_filled {context : Context} {d : Doclet} (h : ¬ d.MovesToStatic) :
    (d.filled context).names = d.names := by
  rw [filled, (release_keeps _ _).1, names_classMemberBackfill (mt movesToStatic_withFacts.mp h),
    names_withFacts]

/-- A longname with its variation, which is not shown twice. -/
def withVariation (variation : Option String) (longname : String) : String :=
  match said variation with
  | some v =>
    if longname.toList.getLast? = some ')' then longname else longname ++ "(" ++ v ++ ")"
  | none => longname

theorem showVariation_eq (d : Doclet) :
    d.showVariation =
      { d with longname := ((said d.longname).map (withVariation d.variation)).or d.longname } := by
  unfold showVariation withVariation
  cases hv : said d.variation with
  | none =>
    cases hl : said d.longname with
    | none => simp
    | some l =>
      have hlong := (said_eq_some.mp hl).1
      simp [← hlong]
  | some v =>
    cases hl : said d.longname with
    | none => simp
    | some l =>
      have hlong := (said_eq_some.mp hl).1
      dsimp only
      split
      next h =>
        simp only [Option.map_some, h, if_true, Option.some_or]
        rw [← hlong]
      next h => simp [h]

theorem syncTwin_keeps (twin : Option Doclet) (d : Doclet) :
    (syncTwin twin d).names = d.names ∧ (syncTwin twin d).filename = d.filename ∧
      (syncTwin twin d).variation = d.variation := by
  unfold syncTwin
  split
  · exact ⟨rfl, rfl, rfl⟩
  · split <;> exact ⟨rfl, rfl, rfl⟩

theorem derive_keeps {dictionary : Dictionary} (hd : dictionary.SetsKinds) (twin : Option Doclet)
    (d : Doclet) :
    (d.derive dictionary twin).doclet.names = (d.named dictionary).showVariation.names ∧
      (d.derive dictionary twin).doclet.filename = (d.named dictionary).filename ∧
      (d.derive dictionary twin).doclet.variation = (d.named dictionary).variation := by
  obtain ⟨kind, hderive⟩ := derive_ends hd twin d
  rw [hderive.doclet]
  obtain ⟨hnames, hfile, hvariation⟩ :=
    syncTwin_keeps twin (showVariation { d.named dictionary with kind })
  rw [hnames, hfile, hvariation, showVariation_eq, showVariation_eq]
  exact ⟨rfl, rfl, rfl⟩

theorem exists_named_eq (dictionary : Dictionary) (d : Doclet) :
    ∃ n, d.named dictionary = d.withNames n := by
  obtain ⟨n, hn⟩ := exists_resolve_eq dictionary d
  rw [named, hn, dropEmptyParent]
  split
  · exact ⟨{ n with memberof := none }, rfl⟩
  · exact ⟨n, rfl⟩

theorem named_keeps (dictionary : Dictionary) (d : Doclet) :
    (d.named dictionary).comment = d.comment ∧ (d.named dictionary).filename = d.filename ∧
      (d.named dictionary).variation = d.variation := by
  obtain ⟨n, hn⟩ := exists_named_eq dictionary d
  rw [hn]
  exact ⟨rfl, rfl, rfl⟩

section Create

variable {context : Context} (hd : context.dictionary.IsRegular)

include hd

theorem postProcess_ends (twin : Option Doclet) (d : Doclet) :
    (d.postProcess context twin).Ends (d.named context.dictionary).exportsOf
      ((d.derive context.dictionary twin).doclet.filled context) := by
  obtain ⟨kind, hderive⟩ := derive_ends hd.setsKinds twin d
  have hpasses := hderive.andThen (enrich context) (enrich_ends hd.readsTypes _)
  rw [List.append_nil] at hpasses
  rw [hderive.doclet]
  exact hpasses.change (release context.settings)

/-- A doclet that is built at all has been through every stage. -/
theorem build_ends {start : Progress} {twin : Option Doclet} (hexports : start.exports = [])
    (h : (start.andThen (postProcess context twin)).fault = none) :
    (start.andThen (postProcess context twin)).Ends
      (start.doclet.named context.dictionary).exportsOf
      ((start.doclet.derive context.dictionary twin).doclet.filled context) := by
  have hstart : start.Ends [] start.doclet := ⟨Progress.fault_of_andThen h, hexports, rfl⟩
  have hdone := hstart.andThen _ (postProcess_ends hd twin start.doclet)
  rw [List.nil_append] at hdone
  exact hdone

end Create

end DocComment.Doclet
