import DocComment.Proofs.Build.Registration
import DocComment.Proofs.Naming.Story

/-! Whether the names of a finished doclet tell one story. They are the names that
were found for it, with the variation shown, or those that were found anew for a
static field; so it comes down to whether the doclet fitted before the search that
counts. -/

namespace DocComment.Doclet

open Longname

/-- A doclet that is going to be named anew as a static one. -/
def restart (d : Doclet) : Doclet := { d with scope := some Scope.static.name, longname := none }

theorem seed_eq_of_fillsGaps {marker : String} {d e : Doclet} (h : d.FillsGaps marker e)
    (hn : e.names = d.names) : e.restart.seed = d.restart.seed := by
  have hname : e.name = d.name := congrArg Names.name hn
  have hmemberof : e.memberof = d.memberof := congrArg Names.memberof hn
  have hkind := congrArg Doclet.kind h.background
  have halias := congrArg Doclet.aliasName h.background
  have hplace := place_eq_of_background h.background
  simp only [background] at hkind halias
  simp only [seed, restart, hname, hmemberof, hkind, halias, hplace]

theorem names_classMemberBackfill_of_moves {dictionary : Dictionary} {d : Doclet}
    (h : d.MovesToStatic) :
    (d.classMemberBackfill dictionary).doclet.names = (d.restart.resolve dictionary).names := by
  obtain ⟨c, hc, hstatic, hscope⟩ := h
  have hnames := names_fillField c d
  have hscope' : (d.fillField c).scope = d.scope := congrArg Names.scope hnames
  have hdoclet : (d.classMemberBackfill dictionary).doclet =
      (d.fillField c).restart.resolve dictionary := by
    unfold classMemberBackfill
    simp only [hc]
    rw [if_pos (by simp [hstatic, hscope', hscope])]
    rfl
  have hgaps : d.FillsGaps "" (d.fillField c) := fillField_fillsGaps c d
  rw [hdoclet, ← names_resolve_seed, ← names_resolve_seed dictionary d.restart,
    seed_eq_of_fillsGaps hgaps hnames]

theorem names_filled_of_moves {context : Context} {d : Doclet} (h : d.MovesToStatic) :
    (d.filled context).names = (d.restart.resolve context.dictionary).names := by
  rw [filled, (release_keeps _ _).1,
    names_classMemberBackfill_of_moves (movesToStatic_withFacts.mpr h), ← names_resolve_seed,
    ← names_resolve_seed context.dictionary d.restart,
    seed_eq_of_fillsGaps (withFacts_fillsGaps context d) (names_withFacts context d)]

theorem follows_dropEmptyParent {shown : List Char} (d : Doclet) :
    d.dropEmptyParent.names.Follows shown ↔ d.memberof = some "" ∨ d.names.Follows shown := by
  unfold dropEmptyParent
  split
  next h =>
    refine iff_of_true ?_ (.inl h)
    intro m k hm
    simp [names] at hm
  next h => simp [h]

theorem withVariation_eq (variation : Option String) (longname : String) :
    ∃ shown, IsShown shown ∧
      (withVariation variation longname).toList = longname.toList ++ shown := by
  unfold withVariation
  split
  next v _ =>
    split
    · exact ⟨[], .inl rfl, by simp⟩
    · exact ⟨'(' :: (v.toList ++ [')']), .inr ⟨_, rfl⟩, by simp⟩
  next => exact ⟨[], .inl rfl, by simp⟩

theorem tellOneStory_showVariation (d : Doclet) :
    ∃ shown, IsShown shown ∧ (d.showVariation.names.TellOneStory ↔ d.names.Follows shown) := by
  cases hl : said d.longname with
  | none =>
    have hsame : d.showVariation = d := by simp [showVariation_eq, hl]
    exact ⟨[], .inl rfl, by rw [hsame, Names.tellOneStory_iff]⟩
  | some l =>
    obtain ⟨shown, hshown, happ⟩ := withVariation_eq d.variation l
    have hlong := (said_eq_some.mp hl).1
    have hnames : d.showVariation.names =
        { d.names with longname := some (withVariation d.variation l) } := by
      simp [showVariation_eq, hl, names]
    refine ⟨shown, hshown, ?_⟩
    rw [hnames]
    simp [Names.TellOneStory, Names.Follows, names, hlong, happ]

section Build

variable {context : Context} (hd : context.dictionary.IsRegular)
  (hkinds : ∀ kind, IsNamespace (context.dictionary.namespaceOf kind)) {start : Progress}
  {twin : Option Doclet} (hexports : start.exports = [])
  (hfault : (start.andThen (postProcess context twin)).fault = none)

include hd hkinds hexports hfault

theorem tellOneStory_build_of_moves
    (h : (start.doclet.derive context.dictionary twin).doclet.MovesToStatic) :
    (start.andThen (postProcess context twin)).doclet.names.TellOneStory ↔
      (start.doclet.derive context.dictionary twin).doclet.restart.Fits context.dictionary := by
  rw [(build_ends hd hexports hfault).doclet, names_filled_of_moves h, Names.tellOneStory_iff]
  exact follows_resolve_iff (hkinds _) rfl (.inl rfl)

theorem tellOneStory_build (hlong : start.doclet.longname = none)
    (h : ¬ (start.doclet.derive context.dictionary twin).doclet.MovesToStatic) :
    (start.andThen (postProcess context twin)).doclet.names.TellOneStory ↔
      (start.doclet.resolve context.dictionary).memberof = some "" ∨
        start.doclet.Fits context.dictionary := by
  obtain ⟨shown, hshown, hstory⟩ :=
    tellOneStory_showVariation (start.doclet.named context.dictionary)
  rw [names_build hd hexports hfault h, hstory, named, follows_dropEmptyParent,
    follows_resolve_iff (hkinds _) hlong hshown]

end Build

/-- Longname, parent and scope of a finished doclet tell one story exactly when the
doclet fitted before its names were found for the last time, or no parent was left
of it. -/
theorem create_tellOneStory_iff (context : Context) (hcontext : context.dictionary = .standard)
    (comment : Option String) (source : Source) (contextId : Option Nat) (stamp : Nat)
    (twin : Option (Nat × Doclet))
    (hfault : (create context comment source contextId stamp twin).fault = none) :
    let d := (tagged context comment source contextId stamp (twin.map (·.1))).doclet
    let derived := (d.derive context.dictionary (twin.map (·.2))).doclet
    (create context comment source contextId stamp twin).doclet.names.TellOneStory ↔
      (derived.MovesToStatic ∧ derived.restart.Fits context.dictionary) ∨
      (¬ derived.MovesToStatic ∧
        ((d.resolve context.dictionary).memberof = some "" ∨ d.Fits context.dictionary)) := by
  have hd : context.dictionary.IsRegular := hcontext ▸ Dictionary.isRegular_standard
  have hkinds : ∀ kind, IsNamespace (context.dictionary.namespaceOf kind) := by
    rw [hcontext]
    exact Dictionary.isNamespace_namespaceOf_standard
  have hquiet := tagged_isQuiet hd.keepsLongnames comment source contextId stamp (twin.map (·.1))
  rw [create_eq] at hfault ⊢
  generalize tagged context comment source contextId stamp (twin.map (·.1)) = start
    at hfault hquiet ⊢
  intro d derived
  by_cases h : derived.MovesToStatic
  · simpa [h] using tellOneStory_build_of_moves hd hkinds hquiet.exports hfault h
  · simpa [h] using tellOneStory_build hd hkinds hquiet.exports hfault hquiet.longname h

theorem create_tellOneStory_iff_bar :
    let comment := some "/**\n * @function bar\n * @memberof Foo\n * @instance\n */"
    let d := (tagged {} comment {} none 0 none).doclet
    let derived := (d.derive .standard none).doclet
    (create {} comment {} none 0 none).doclet.names =
        ⟨some "bar", some "Foo#bar", some "Foo", some "instance"⟩ ∧
      ((create {} comment {} none 0 none).doclet.names.TellOneStory ↔
        (derived.MovesToStatic ∧ derived.restart.Fits .standard) ∨
        (¬ derived.MovesToStatic ∧
          ((d.resolve .standard).memberof = some "" ∨ d.Fits .standard))) := by
  have hrun : let comment := some "/**\n * @function bar\n * @memberof Foo\n * @instance\n */"
      (create {} comment {} none 0 none).fault = none ∧
      (create {} comment {} none 0 none).doclet.names =
        ⟨some "bar", some "Foo#bar", some "Foo", some "instance"⟩ := by
    decide +kernel
  exact ⟨hrun.2, create_tellOneStory_iff {} rfl _ {} none 0 none hrun.1⟩

/-- A scope that a tag sets need not fit the mark in the name. -/
theorem create_not_tellOneStory_preset_scope :
    let work := create {} (some "/**\n * @name Foo#bar\n * @inner\n */") {} none 0 none
    work.fault = none ∧
      work.doclet.names = ⟨some "bar", some "Foo#bar", some "Foo", some "inner"⟩ ∧
      ¬ work.doclet.names.TellOneStory := by
  have hrun : let work := create {} (some "/**\n * @name Foo#bar\n * @inner\n */") {} none 0 none
      work.fault = none ∧
        work.doclet.names = ⟨some "bar", some "Foo#bar", some "Foo", some "inner"⟩ := by
    decide +kernel
  refine ⟨hrun.1, hrun.2, ?_⟩
  rw [hrun.2]
  intro h
  obtain ⟨l, hl, hp⟩ := h "Foo" '~' rfl (by decide)
  obtain rfl := Option.some.inj hl
  exact absurd hp (by decide)

end DocComment.Doclet
