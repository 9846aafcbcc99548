import DocComment.Proofs.Build.Story
import DocComment.Proofs.Longname.Ending

/-! Whether the variation of a finished doclet shows in its longname. It is put
there once, after the names have been found. A static field is named anew after
that, and nothing puts the variation there again. -/

namespace DocComment.Doclet

open Longname

/-- A doclet with a variation and a longname shows the one at the end of the
other. -/
def ShowsVariation (d : Doclet) : Prop :=
  ∀ variation longname, said d.variation = some variation → d.longname = some longname →
    EndsClosed longname.toList

/-- The name of the doclet is the name of the global object, and there is nothing else
to put into its longname. -/
def NamesGlobalObject (dictionary : Dictionary) (d : Doclet) : Prop :=
  dictionary.namespaceOf d.kind = none ∧ d.parentText = [] ∧
    (d.nameToResolve = globalName ∨ d.nameToResolve = globalName ++ ['.'])

section Resolve

variable {dictionary : Dictionary} {d : Doclet}

theorem exists_longname_resolve (dictionary : Dictionary) (hn : d.nameToResolve ≠ []) :
    ∃ s, (d.resolve dictionary).longname = some (String.ofList s) ∧
      (EndsClosed s ↔ EndsClosed d.nameToResolve) ∧
      (s = [] ↔ d.NamesGlobalObject dictionary) := by
  by_cases hp : d.parentText = []
  · refine ⟨_, longname_resolve_of_rootless hn hp, endsClosed_written_iff _ _, ?_⟩
    rw [written_eq_nil_iff, dropGlobalChars_eq_nil_iff]
    simp [NamesGlobalObject, hn, hp]
  · let whole := d.parentText ++ markOf d.memberScope :: below d.parentText d.nameToResolve
    have hbelow : below d.parentText d.nameToResolve ≠ [] := below_ne_nil hn
    have hwhole : below d.parentText d.nameToResolve <:+ whole :=
      (List.suffix_cons _ _).trans (List.suffix_append _ _)
    have hlong : (d.resolve dictionary).longname =
        some (String.ofList (written (dictionary.namespaceOf d.kind) whole)) := by
      rw [resolve_member hn hp]
      rfl
    have hlast : whole.getLast? = d.nameToResolve.getLast? :=
      (getLast?_of_suffix hwhole hbelow).trans (getLast?_of_suffix (below_suffix _ _) hbelow).symm
    refine ⟨_, hlong, ?_, ?_⟩
    · rw [endsClosed_written_iff, EndsClosed, EndsClosed, hlast]
    · have hne : written (dictionary.namespaceOf d.kind) whole ≠ [] :=
        written_append_ne_nil (isMark_markOf d.memberScope) hbelow
      exact iff_of_false hne fun h => hp h.2.1

theorem longname_resolve_eq_empty_iff (hlong : d.longname = none) :
    (d.resolve dictionary).longname = some "" ↔ d.NamesGlobalObject dictionary := by
  by_cases hn : d.nameToResolve = []
  · rw [resolve_of_nameless hn, hlong]
    refine iff_of_false (by simp) ?_
    rintro ⟨-, -, h | h⟩
    · exact absurd (h.symm.trans hn) (by decide)
    · exact absurd (h.symm.trans hn) (by decide)
  · obtain ⟨s, hs, -, hempty⟩ := exists_longname_resolve dictionary hn
    rw [hs, ← hempty, Option.some_inj]
    exact String.ofList_eq_empty_iff

/-- A doclet that has just been named shows its variation only if the name brings
it. -/
theorem showsVariation_resolve_iff {e : Doclet} (hlong : d.longname = none)
    (he : e.longname = (d.resolve dictionary).longname) :
    e.ShowsVariation ↔
      said e.variation = none ∨ d.nameToResolve = [] ∨ EndsClosed d.nameToResolve := by
  by_cases hn : d.nameToResolve = []
  · rw [resolve_of_nameless hn, hlong] at he
    exact iff_of_true (fun v l _ hl => by simp [he] at hl) (.inr (.inl hn))
  · obtain ⟨s, hs, hclosed, -⟩ := exists_longname_resolve dictionary hn
    rw [hs] at he
    constructor
    · intro h
      cases hv : said e.variation with
      | none => exact .inl rfl
      | some v =>
        have hend := h v _ hv he
        rw [String.toList_ofList, hclosed] at hend
        exact .inr (.inr hend)
    · rintro (hnone | hnil | hend) v l hv hl
      · simp [hnone] at hv
      · exact absurd hnil hn
      · obtain rfl := Option.some.inj (he.symm.trans hl)
        rw [String.toList_ofList, hclosed]
        exact hend

end Resolve

theorem endsClosed_withVariation {variation : Option String} {v : String}
    (h : said variation = some v) (longname : String) :
    EndsClosed (withVariation variation longname).toList := by
  unfold withVariation
  rw [h]
  dsimp only
  split
  next hend => exact hend
  next =>
    have happ : (longname ++ "(" ++ v ++ ")").toList =
        (longname.toList ++ '(' :: v.toList) ++ [')'] := by simp
    rw [happ]
    exact List.getLast?_concat

/-- Showing the variation leaves out the empty longname only. -/
theorem showsVariation_of_shown {d e : Doclet} (hvariation : e.variation = d.variation)
    (he : e.longname = d.showVariation.longname) :
    e.ShowsVariation ↔ said e.variation = none ∨ d.longname ≠ some "" := by
  rw [showVariation_eq] at he
  dsimp only at he
  rw [← hvariation] at he
  constructor
  · intro h
    cases hv : said e.variation with
    | none => exact .inl rfl
    | some v =>
      refine .inr fun hl => ?_
      rw [hl] at he
      exact absurd (h v "" hv he) (by decide)
  · rintro (hnone | hne) v l hv hl
    · simp [hnone] at hv
    · cases hs : said d.longname with
      | none =>
        rw [hs] at he
        have hl' : d.longname = some l := he.symm.trans hl
        have hl'' : said d.longname = some l :=
          said_eq_some.mpr ⟨hl', fun hempty => hne (hempty ▸ hl')⟩
        simp [hs] at hl''
      | some found =>
        rw [hs] at he
        obtain rfl := Option.some.inj (he.symm.trans hl)
        exact endsClosed_withVariation hv found

section Build

variable {context : Context} (hd : context.dictionary.IsRegular) {start : Progress}
  {twin : Option Doclet} (hexports : start.exports = [])
  (hfault : (start.andThen (postProcess context twin)).fault = none)

include hd hexports hfault

theorem showsVariation_build_of_moves
    (h : (start.doclet.derive context.dictionary twin).doclet.MovesToStatic) :
    (start.andThen (postProcess context twin)).doclet.ShowsVariation ↔
      said (start.andThen (postProcess context twin)).doclet.variation = none ∨
        (start.doclet.derive context.dictionary twin).doclet.nameToResolve = [] ∨
        EndsClosed (start.doclet.derive context.dictionary twin).doclet.nameToResolve := by
  have hlong : (start.andThen (postProcess context twin)).doclet.longname =
      ((start.doclet.derive context.dictionary twin).doclet.restart.resolve
        context.dictionary).longname := by
    rw [(build_ends hd hexports hfault).doclet]
    exact congrArg Names.longname (names_filled_of_moves h)
  generalize (start.doclet.derive context.dictionary twin).doclet = derived at hlong ⊢
  have hname : derived.restart.nameToResolve = derived.nameToResolve := rfl
  rw [← hname]
  exact showsVariation_resolve_iff rfl hlong

theorem longname_build
    (h : ¬ (start.doclet.derive context.dictionary twin).doclet.MovesToStatic) :
    (start.andThen (postProcess context twin)).doclet.longname =
      (start.doclet.named context.dictionary).showVariation.longname :=
  congrArg Names.longname (names_build hd hexports hfault h)

theorem variation_build :
    (start.andThen (postProcess context twin)).doclet.variation =
      (start.doclet.named context.dictionary).variation :=
  (build_keeps hd hexports hfault).2.trans (named_keeps context.dictionary start.doclet).2.2.symm

theorem showsVariation_build (hlong : start.doclet.longname = none)
    (h : ¬ (start.doclet.derive context.dictionary twin).doclet.MovesToStatic) :
    (start.andThen (postProcess context twin)).doclet.ShowsVariation ↔
      said (start.andThen (postProcess context twin)).doclet.variation = none ∨
        ¬ start.doclet.NamesGlobalObject context.dictionary := by
  rw [showsVariation_of_shown (variation_build hd hexports hfault)
    (longname_build hd hexports hfault h), Ne, (named_names context.dictionary start.doclet).2,
    longname_resolve_eq_empty_iff hlong]

theorem longname_build_of_found
    (h : ¬ (start.doclet.derive context.dictionary twin).doclet.MovesToStatic) {found : String}
    (hfound : said (start.doclet.resolve context.dictionary).longname = some found) :
    (start.andThen (postProcess context twin)).doclet.longname = some (withVariation
      (start.andThen (postProcess context twin)).doclet.variation found) := by
  rw [← (named_names context.dictionary start.doclet).2] at hfound
  rw [longname_build hd hexports hfault h, showVariation_eq, hfound,
    variation_build hd hexports hfault]
  rfl

end Build

/-- The variation shows unless a static field was named anew, or the longname is
empty. Where nothing was named anew, the longname is the one that was found, with
the variation in brackets. -/
theorem create_showsVariation_iff (context : Context) (hcontext : context.dictionary = .standard)
    (comment : Option String) (source : Source) (contextId : Option Nat) (stamp : Nat)
    (twin : Option (Nat × Doclet))
    (hfault : (create context comment source contextId stamp twin).fault = none) :
    let d := (tagged context comment source contextId stamp (twin.map (·.1))).doclet
    let derived := (d.derive context.dictionary (twin.map (·.2))).doclet
    let e := (create context comment source contextId stamp twin).doclet
    (e.ShowsVariation ↔
      said e.variation = none ∨
      (derived.MovesToStatic ∧
        (derived.nameToResolve = [] ∨ EndsClosed derived.nameToResolve)) ∨
      (¬ derived.MovesToStatic ∧ ¬ d.NamesGlobalObject context.dictionary)) ∧
    (¬ derived.MovesToStatic →
      ∀ found, said (d.resolve context.dictionary).longname = some found →
        e.longname = some (withVariation e.variation found)) := by
  have hd : context.dictionary.IsRegular := hcontext ▸ Dictionary.isRegular_standard
  have hquiet := tagged_isQuiet hd.keepsLongnames comment source contextId stamp (twin.map (·.1))
  rw [create_eq] at hfault ⊢
  generalize tagged context comment source contextId stamp (twin.map (·.1)) = start
    at hfault hquiet ⊢
  intro d derived e
  by_cases h : derived.MovesToStatic
  · have hshows := showsVariation_build_of_moves hd hquiet.exports hfault h
    refine ⟨hshows.trans ?_, fun hstays => absurd h hstays⟩
    simp [h, derived, d, e]
  · have hshows := showsVariation_build hd hquiet.exports hfault hquiet.longname h
    refine ⟨hshows.trans ?_, fun _ found => longname_build_of_found hd hquiet.exports hfault h⟩
    simp [h, d, e]

theorem create_showsVariation_iff_count :
    let field : ClassFieldFact := {}
    let source : Source :=
      { code := some { name := some "count", facts := some [.classField field] } }
    let e := (create {} (some "/** @variation 2 */") source none 0 none).doclet
    e.longname = some "count(2)" ∧ e.ShowsVariation := by
  intro field source e
  have hrun : (create {} (some "/** @variation 2 */") source none 0 none).fault = none ∧
      ((tagged {} (some "/** @variation 2 */") source none 0 none).doclet.resolve
        .standard).longname = some "count" ∧
      ((tagged {} (some "/** @variation 2 */") source none 0 none).doclet.derive .standard
        none).doclet.classField? = some field ∧
      (tagged {} (some "/** @variation 2 */") source none 0 none).doclet.nameToResolve =
        "count".toList ∧
      withVariation e.variation "count" = "count(2)" := by
    decide +kernel
  obtain ⟨hfault, hlong, hfield, hname, hshown⟩ := hrun
  obtain ⟨hshows, hfound⟩ := create_showsVariation_iff {} rfl _ source none 0 none hfault
  have hstays : ¬ ((tagged {} (some "/** @variation 2 */") source none 0 none).doclet.derive
      .standard none).doclet.MovesToStatic := by
    rintro ⟨c, hc, hstatic, -⟩
    obtain rfl := Option.some.inj (hfield.symm.trans hc)
    simp [field] at hstatic
  have hglobal : ¬ (tagged {} (some "/** @variation 2 */") source none 0
      none).doclet.NamesGlobalObject .standard := by
    rintro ⟨-, -, h | h⟩
    · exact absurd (hname.symm.trans h) (by decide)
    · exact absurd (hname.symm.trans h) (by decide)
  refine ⟨?_, hshows.mpr (.inr (.inr ⟨hstays, hglobal⟩))⟩
  rw [← hshown]
  exact hfound hstays "count" (said_eq_some.mpr ⟨hlong, by decide⟩)

/-- The field loses its variation when it is static. -/
theorem create_not_showsVariation_static :
    let field : ClassFieldFact := { static := true }
    let source : Source :=
      { code := some { name := some "count", facts := some [.classField field] } }
    let work := create {} (some "/** @variation 2 */") source none 0 none
    work.fault = none ∧ work.doclet.variation = some "2" ∧
      work.doclet.longname = some "count" ∧ ¬ work.doclet.ShowsVariation := by
  intro field source work
  have hrun : work.fault = none ∧ work.doclet.variation = some "2" ∧
      work.doclet.longname = some "count" := by
    decide +kernel
  obtain ⟨hfault, hvariation, hlong⟩ := hrun
  refine ⟨hfault, hvariation, hlong, fun h => ?_⟩
  have hsaid : said work.doclet.variation = some "2" :=
    said_eq_some.mpr ⟨hvariation, by decide⟩
  exact absurd (h "2" "count" hsaid hlong) (by decide)

end DocComment.Doclet
