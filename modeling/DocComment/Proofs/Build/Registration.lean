import DocComment.Proofs.Build.Stages

/-! What the index of given-out names tells about a finished doclet. A name is
given out as soon as it is found, before the variation is shown and before the
passes run, so the index holds the longname as it was found. -/

namespace DocComment

theorem Context.lookup_registerAll (context : Context) (e : Export) :
    (context.registerAll [e]).exports.lookup e.filename e.name = some e.longname :=
  Assoc.lookup_insert_self (e.filename, e.name) e.longname context.exports

namespace Doclet

theorem named_names (dictionary : Dictionary) (d : Doclet) :
    (d.named dictionary).name = (d.resolve dictionary).name ∧
      (d.named dictionary).longname = (d.resolve dictionary).longname := by
  rw [named, dropEmptyParent]
  split <;> exact ⟨rfl, rfl⟩

theorem exportsOf_named {dictionary : Dictionary} {d : Doclet} {name longname : String}
    (hcomment : said d.comment ≠ none) (hname : said (d.resolve dictionary).name = some name)
    (hlong : said (d.resolve dictionary).longname = some longname) :
    (d.named dictionary).exportsOf = [⟨d.filename.getD "", name, longname⟩] := by
  obtain ⟨c, hc⟩ := Option.ne_none_iff_exists'.mp hcomment
  obtain ⟨hkeeps, hfile, -⟩ := named_keeps dictionary d
  obtain ⟨hsame, hsame'⟩ := named_names dictionary d
  unfold exportsOf
  rw [hkeeps, hfile, hsame, hsame', hc, hname, hlong]

theorem exists_found_longname {d e : Doclet} (h : e.names = d.showVariation.names) {l : String}
    (hl : said e.longname = some l) :
    ∃ found, said d.longname = some found ∧ l = withVariation d.variation found := by
  have hlong : e.longname = ((said d.longname).map (withVariation d.variation)).or d.longname := by
    rw [showVariation_eq] at h
    exact congrArg Names.longname h
  rw [hlong] at hl
  cases hd : said d.longname with
  | none => simp [hd] at hl
  | some found =>
    rw [hd] at hl
    exact ⟨found, rfl, (Option.some.inj (said_eq_some.mp hl).1).symm⟩

section Build

variable {context : Context} (hd : context.dictionary.IsRegular) {start : Progress}
  {twin : Option Doclet} (hexports : start.exports = [])
  (hfault : (start.andThen (postProcess context twin)).fault = none)

include hd hexports hfault

theorem build_keeps :
    (start.andThen (postProcess context twin)).doclet.filename = start.doclet.filename ∧
      (start.andThen (postProcess context twin)).doclet.variation = start.doclet.variation := by
  rw [(build_ends hd hexports hfault).doclet]
  obtain ⟨hfile, hvariation⟩ :=
    filled_keeps context (start.doclet.derive context.dictionary twin).doclet
  obtain ⟨-, hfile', hvariation'⟩ := derive_keeps hd.setsKinds twin start.doclet
  obtain ⟨-, hfile'', hvariation''⟩ := named_keeps context.dictionary start.doclet
  exact ⟨hfile.trans (hfile'.trans hfile''), hvariation.trans (hvariation'.trans hvariation'')⟩

theorem lookup_build (hcomment : said start.doclet.comment ≠ none) {name longname : String}
    (hname : said (start.doclet.resolve context.dictionary).name = some name)
    (hlong : said (start.doclet.resolve context.dictionary).longname = some longname) :
    (context.registerAll (start.andThen (postProcess context twin)).exports).exports.lookup
      ((start.andThen (postProcess context twin)).doclet.filename.getD "") name =
      some longname := by
  rw [(build_keeps hd hexports hfault).1, (build_ends hd hexports hfault).exports,
    exportsOf_named hcomment hname hlong]
  exact Context.lookup_registerAll context ⟨start.doclet.filename.getD "", name, longname⟩

theorem names_build
    (hmoves : ¬ (start.doclet.derive context.dictionary twin).doclet.MovesToStatic) :
    (start.andThen (postProcess context twin)).doclet.names =
      (start.doclet.named context.dictionary).showVariation.names := by
  rw [(build_ends hd hexports hfault).doclet, names_filled hmoves]
  exact (derive_keeps hd.setsKinds twin start.doclet).1

theorem exists_found_build
    (hmoves : ¬ (start.doclet.derive context.dictionary twin).doclet.MovesToStatic)
    {name longname : String}
    (hname : said (start.andThen (postProcess context twin)).doclet.name = some name)
    (hlong : said (start.andThen (postProcess context twin)).doclet.longname = some longname) :
    said (start.doclet.resolve context.dictionary).name = some name ∧
      ∃ found, said (start.doclet.resolve context.dictionary).longname = some found ∧
        longname = withVariation
          (start.andThen (postProcess context twin)).doclet.variation found := by
  have hnames := names_build hd hexports hfault hmoves
  obtain ⟨hsame, hsame'⟩ := named_names context.dictionary start.doclet
  have hshown : (start.andThen (postProcess context twin)).doclet.name =
      (start.doclet.named context.dictionary).name := by
    rw [showVariation_eq] at hnames
    exact congrArg Names.name hnames
  obtain ⟨found, hfound, hlongname⟩ := exists_found_longname hnames hlong
  rw [hsame'] at hfound
  rw [hshown, hsame] at hname
  rw [(named_keeps context.dictionary start.doclet).2.2,
    ← (build_keeps hd hexports hfault).2] at hlongname
  exact ⟨hname, found, hfound, hlongname⟩

end Build

/-- The index holds the longname that was found for the name of a doclet. The
finished doclet has it too, with its variation, unless a static field was named
anew. -/
theorem create_registers (context : Context) (hcontext : context.dictionary = .standard)
    (comment : Option String) (source : Source) (contextId : Option Nat) (stamp : Nat)
    (twin : Option (Nat × Doclet)) (hcomment : said comment ≠ none)
    (hfault : (create context comment source contextId stamp twin).fault = none) :
    let d := (tagged context comment source contextId stamp (twin.map (·.1))).doclet
    let work := create context comment source contextId stamp twin
    let index := (context.registerAll work.exports).exports
    (∀ name longname, said (d.resolve context.dictionary).name = some name →
      said (d.resolve context.dictionary).longname = some longname →
      index.lookup (work.doclet.filename.getD "") name = some longname) ∧
    (¬ (d.derive context.dictionary (twin.map (·.2))).doclet.MovesToStatic →
      ∀ name longname, said work.doclet.name = some name →
        said work.doclet.longname = some longname →
        ∃ found, index.lookup (work.doclet.filename.getD "") name = some found ∧
          longname = withVariation work.doclet.variation found) := by
  have hd : context.dictionary.IsRegular := hcontext ▸ Dictionary.isRegular_standard
  have hquiet := tagged_isQuiet hd.keepsLongnames comment source contextId stamp (twin.map (·.1))
  rw [create_eq] at hfault ⊢
  generalize tagged context comment source contextId stamp (twin.map (·.1)) = start
    at hfault hquiet ⊢
  have hsaid : said start.doclet.comment ≠ none := by
    rw [hquiet.comment]
    exact hcomment
  refine ⟨fun name longname => lookup_build hd hquiet.exports hfault hsaid,
    fun hmoves name longname hname hlong => ?_⟩
  obtain ⟨hname', found, hfound, hshown⟩ :=
    exists_found_build hd hquiet.exports hfault hmoves hname hlong
  exact ⟨found, lookup_build hd hquiet.exports hfault hsaid hname' hfound, hshown⟩

theorem create_registers_foo :
    let context : Context := {}
    let work := create context (some "/**\n * @function foo\n * @variation 2\n */") {} none 0 none
    ∃ found, (context.registerAll work.exports).exports.lookup
        (work.doclet.filename.getD "") "foo" = some found ∧
      "foo(2)" = withVariation work.doclet.variation found := by
  have hrun : let comment := some "/**\n * @function foo\n * @variation 2\n */"
      (create {} comment {} none 0 none).fault = none ∧
      ((tagged {} comment {} none 0 none).doclet.derive ({} : Context).dictionary
        none).doclet.classField?.isNone ∧
      said (create {} comment {} none 0 none).doclet.name = some "foo" ∧
      said (create {} comment {} none 0 none).doclet.longname = some "foo(2)" := by
    decide +kernel
  obtain ⟨hfault, hfield, hname, hlong⟩ := hrun
  refine (create_registers {} rfl _ {} none 0 none (by decide) hfault).2 ?_ _ _ hname hlong
  rintro ⟨c, hc, -⟩
  simp only [Option.map_none] at hc
  rw [hc] at hfield
  simp at hfield

/-- The variation is not in the index, and a static field that was said to belong to
the instance is in it as it was said. -/
theorem create_registers_before_finishing :
    (let context : Context := {}
      let work :=
        create context (some "/**\n * @function foo\n * @variation 2\n */") {} none 0 none
      work.fault = none ∧ work.doclet.name = some "foo" ∧
        work.doclet.longname = some "foo(2)" ∧
        (context.registerAll work.exports).exports.lookup (work.doclet.filename.getD "") "foo" =
          some "foo") ∧
    (let context : Context := {}
      let field : Fact := .classField { static := true }
      let work := create context (some "/**\n * @memberof Foo\n * @instance\n */")
        { code := some { name := some "count", facts := some [field] } } none 0 none
      work.fault = none ∧ work.doclet.name = some "count" ∧
        work.doclet.longname = some "Foo.count" ∧
        (context.registerAll work.exports).exports.lookup (work.doclet.filename.getD "") "count" =
          some "Foo#count") := by
  decide +kernel

end Doclet

end DocComment
