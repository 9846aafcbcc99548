import DocComment.Proofs.Build.Finishing
import DocComment.Proofs.Comment.Block
import DocComment.Proofs.Text.Indent
import DocComment.Proofs.Text.Trim

/-! Examples in a comment of their own. The indentation that their lines have in common
is to go, but that of the first line is lost before the lines are compared. So they come
out as meant only when they are a single line, or when their first line is not indented
and there is nothing to take off. -/

namespace DocComment

namespace Tag

open Text

theorem isBlank_of_isLineEnd {c : Char} (h : isLineEnd c = true) : isBlank c = true := by
  have hcases : c = '\n' ∨ c = '\r' ∨ c.toNat = 12 := by
    simpa [isLineEnd, or_assoc] using h
  rcases hcases with rfl | rfl | hc
  · rfl
  · rfl
  · simp [isBlank, hc]

theorem not_isLineEnd_of_visible {c : Char} (h : isBlank c = false) : isLineEnd c = false := by
  cases he : isLineEnd c with
  | false => rfl
  | true => simp [isBlank_of_isLineEnd he] at h

/-- The lines as one text without line ends at its edges and without the indentation
that they have in common. -/
def listing (lines : List String) : String :=
  trimBody (some ("\n".intercalate lines)) true true

theorem lineChars_eq_concat {lines : List String} (hne : lines ≠ []) :
    Comment.lineChars lines = ("\n".intercalate lines).toList ++ ['\n'] := by
  induction lines with
  | nil => exact absurd rfl hne
  | cons line lines ih =>
    by_cases hl : lines = []
    · subst lines
      simp [Comment.lineChars]
    · rw [Comment.lineChars_cons, ih hl, String.intercalate_cons_of_ne_nil hl]
      simp

theorem trimBody_lineChars {lines : List String} (hne : lines ≠ []) :
    trimBody (some (String.ofList (Comment.lineChars lines))) true true = listing lines := by
  have hbreak : isLineEnd '\n' = true := rfl
  simp only [listing, trimBody, Option.getD_some, String.toList_ofList, if_true,
    lineChars_eq_concat hne, dropEnd_dropWhile_concat hbreak]

/-- Nothing is dropped before a first line that begins with a character of its own. -/
theorem listing_eq {first : String} {c : Char} {rest : List Char}
    (hfirst : first.toList = c :: rest) (hc : isLineEnd c = false) (more : List String) :
    listing (first :: more) = String.ofList (dedent (dropEnd isLineEnd
      (joinWith ['\n'] (first.toList :: more.map String.toList)))) := by
  have hchars : ("\n".intercalate (first :: more)).toList =
      joinWith ['\n'] (first.toList :: more.map String.toList) := by
    rw [String.toList_intercalate, joinWith_eq_intercalate]
    rfl
  have hhead : (joinWith ['\n'] (first.toList :: more.map String.toList)).head? = some c := by
    rw [hfirst]
    cases more <;> rfl
  have hkeep : (joinWith ['\n'] (first.toList :: more.map String.toList)).dropWhile isLineEnd =
      joinWith ['\n'] (first.toList :: more.map String.toList) := by
    obtain ⟨tail, htail⟩ := List.head?_eq_some_iff.mp hhead
    rw [htail, List.dropWhile_cons_of_neg (by simp [hc])]
  simp only [listing, trimBody, Option.getD_some, hchars, if_true, hkeep]

/-- Line ends at the end of the text are taken off the last line. -/
theorem exists_dropEnd_rows {row : List Char} {more : List (List Char)}
    (hrow : ∃ c rest, row = c :: rest ∧ isBlank c = false)
    (hlast : ∀ line ∈ more.getLast?, ∃ c ∈ line, isBlank c = false)
    (hbreak : ∀ line ∈ row :: more, '\n' ∉ line) :
    ∃ row' more', IsFlush row' ∧ (more' = [] ↔ more = []) ∧
      (∀ line ∈ row' :: more', '\n' ∉ line) ∧
      (∀ line ∈ more'.getLast?, line.all isIndent = false) ∧
      ∀ indent, dropEnd isLineEnd (joinWith ['\n'] ((indent ++ row) :: more)) =
        joinWith ['\n'] ((indent ++ row') :: more') := by
  obtain ⟨c, rest, rfl, hc⟩ := hrow
  have hflush : ∀ tail, IsFlush (c :: tail) := fun tail =>
    ⟨by simp, by simp [not_isIndent_of_visible hc]⟩
  have hdrop := dropEnd_cons (not_isLineEnd_of_visible hc) rest
  rcases List.eq_nil_or_concat more with rfl | ⟨front, last, rfl⟩
  · refine ⟨c :: dropEnd isLineEnd rest, [], hflush _, Iff.rfl, ?_, by simp, fun indent => ?_⟩
    · intro line hline
      obtain rfl : line = c :: dropEnd isLineEnd rest := by simpa using hline
      rw [← hdrop]
      exact mt mem_of_mem_dropEnd (hbreak _ List.mem_cons_self)
    · rw [← hdrop]
      exact dropEnd_append_of_ne_nil (by rw [hdrop]; simp)
  · rw [List.concat_eq_append] at hlast hbreak ⊢
    obtain ⟨d, hd, hvisible⟩ := hlast last (by simp)
    have hstays : d ∈ dropEnd isLineEnd last := mem_dropEnd hd (not_isLineEnd_of_visible hvisible)
    refine ⟨c :: rest, front ++ [dropEnd isLineEnd last], hflush rest, by simp, ?_, ?_, ?_⟩
    · intro line hline
      simp only [List.mem_cons, List.mem_append, List.not_mem_nil, or_false] at hline
      rcases hline with rfl | hline | rfl
      · exact hbreak _ List.mem_cons_self
      · exact hbreak line (by simp [hline])
      · exact mt mem_of_mem_dropEnd (hbreak last (by simp))
    · intro line hline
      obtain rfl : dropEnd isLineEnd last = line := by simpa using hline
      rw [List.all_eq_false]
      exact ⟨d, hstays, by simp [not_isIndent_of_visible hvisible]⟩
    · intro indent
      exact dropEnd_joinWith (List.ne_nil_of_mem hstays) ((indent ++ c :: rest) :: front)

/-- Lines of examples: no tag begins in them, there is something to be seen in the first
and in the last one, and the first one is indented with spaces or tabs if at all. -/
structure IsListing (first : String) (more : List String) : Prop where
  plain : ∀ line ∈ first :: more, Comment.IsPlainLine line
  indented : (first.toList.takeWhile isBlank).all isIndent = true
  first_visible : trimLeft first.toList ≠ []
  last_visible : ∀ line ∈ more.getLast?, trimLeft line.toList ≠ []

section

variable {first : String} {more : List String}

theorem IsListing.isIndent_of_mem (h : IsListing first more) {c : Char}
    (hc : c ∈ first.toList.takeWhile isBlank) : isIndent c = true :=
  List.all_eq_true.mp h.indented c hc

theorem IsListing.exists_first (h : IsListing first more) :
    ∃ c rest, trimLeft first.toList = c :: rest ∧ isBlank c = false ∧
      first.toList.takeWhile isBlank ++ c :: rest = first.toList := by
  obtain ⟨c, rest, htrim, hc⟩ := exists_visible h.first_visible
  refine ⟨c, rest, htrim, hc, ?_⟩
  rw [← htrim]
  exact List.takeWhile_append_dropWhile

/-- Neither indentation nor a visible character is a line end. -/
theorem IsListing.exists_kept (h : IsListing first more) :
    ∃ d tail, first.toList = d :: tail ∧ isLineEnd d = false := by
  obtain ⟨c, rest, -, hc, hsplit⟩ := h.exists_first
  cases hi : first.toList.takeWhile isBlank with
  | nil => exact ⟨c, rest, by rw [← hsplit, hi]; rfl, not_isLineEnd_of_visible hc⟩
  | cons d tail =>
    refine ⟨d, tail ++ c :: rest, by rw [← hsplit, hi]; rfl, ?_⟩
    have hd : d ∈ first.toList.takeWhile isBlank := by simp [hi]
    rcases isIndent_iff.mp (h.isIndent_of_mem hd) with rfl | rfl <;> rfl

theorem IsListing.exists_mem_last (h : IsListing first more) :
    ∀ line ∈ (more.map String.toList).getLast?, ∃ d ∈ line, isBlank d = false := by
  intro line hline
  rw [List.getLast?_map] at hline
  obtain ⟨last, hmem, rfl⟩ := Option.map_eq_some_iff.mp hline
  obtain ⟨d, tail, hd, hvisible⟩ := exists_visible (h.last_visible last hmem)
  refine ⟨d, (trimLeft_sublist last.toList).subset ?_, hvisible⟩
  rw [hd]
  exact List.mem_cons_self

/-- The same rows make up the lines and the lines with the first one as it is behind its
indentation. -/
theorem IsListing.exists_rows (h : IsListing first more) :
    ∃ row rows, IsFlush row ∧ (rows = [] ↔ more = []) ∧
      (∀ line ∈ row :: rows, '\n' ∉ line) ∧
      (∀ line ∈ rows.getLast?, line.all isIndent = false) ∧
      listing (Comment.unindented first :: more) =
        String.ofList (dedent (joinWith ['\n'] (row :: rows))) ∧
      listing (first :: more) = String.ofList (dedent (joinWith ['\n']
        ((first.toList.takeWhile isBlank ++ row) :: rows))) := by
  obtain ⟨c, rest, htrim, hc, hsplit⟩ := h.exists_first
  have hbreak : ∀ line ∈ (c :: rest) :: more.map String.toList, '\n' ∉ line := by
    intro line hline
    rcases List.mem_cons.mp hline with rfl | hline
    · intro hmem
      refine (h.plain first List.mem_cons_self).noBreak ?_
      rw [← hsplit]
      exact List.mem_append_right _ hmem
    · obtain ⟨other, hother, rfl⟩ := List.mem_map.mp hline
      exact (h.plain other (List.mem_cons_of_mem first hother)).noBreak
  obtain ⟨row, rows, hflush, hnil, hfree, hend, hdrop⟩ :=
    exists_dropEnd_rows ⟨c, rest, rfl, hc⟩ h.exists_mem_last hbreak
  refine ⟨row, rows, hflush, by rw [hnil, List.map_eq_nil_iff], hfree, hend, ?_, ?_⟩
  · have hunindented : (Comment.unindented first).toList = c :: rest := by
      rw [Comment.unindented, String.toList_ofList, htrim]
    rw [listing_eq hunindented (not_isLineEnd_of_visible hc), hunindented]
    exact congrArg (fun s => String.ofList (dedent s)) (hdrop [])
  · obtain ⟨d, tail, hd, hkeep⟩ := h.exists_kept
    rw [listing_eq hd hkeep, ← hdrop, hsplit]

theorem IsListing.listing_unindented_ne_empty (h : IsListing first more) :
    listing (Comment.unindented first :: more) ≠ "" := by
  obtain ⟨row, rows, hflush, -, hfree, -, hlisting, -⟩ := h.exists_rows
  obtain ⟨c, rest, hrow⟩ := List.exists_cons_of_ne_nil hflush.ne_nil
  rw [hlisting, dedent_joinWith (by simp) hfree, dedented_flush hflush, hrow]
  cases rows <;> simp [joinWith]

/-- Losing the indentation of the first line makes no difference to a single line, and
none to a first line that has none. -/
theorem IsListing.listing_unindented_iff (h : IsListing first more) :
    listing (Comment.unindented first :: more) = listing (first :: more) ↔
      more = [] ∨ first.toList.head?.any isIndent = false := by
  obtain ⟨row, rows, hflush, hnil, hfree, hend, hunindented, hlisting⟩ := h.exists_rows
  have hbreak : ∀ line ∈ (first.toList.takeWhile isBlank ++ row) :: rows, '\n' ∉ line := by
    intro line hline
    rcases List.mem_cons.mp hline with rfl | hline
    · intro hmem
      rcases List.mem_append.mp hmem with hmem | hmem
      · rcases isIndent_iff.mp (h.isIndent_of_mem hmem) with heq | heq <;> simp at heq
      · exact hfree row List.mem_cons_self hmem
    · exact hfree line (List.mem_cons_of_mem row hline)
  have hhead : first.toList.takeWhile isBlank = [] ↔ first.toList.head?.any isIndent = false := by
    cases hchars : first.toList with
    | nil => simp
    | cons c rest =>
      cases hb : isBlank c with
      | false => simp [hb, not_isIndent_of_visible hb]
      | true =>
        have hi : isIndent c = true := h.isIndent_of_mem (by simp [hchars, hb])
        simp [hb, hi]
  rw [hunindented, hlisting, String.ofList_inj,
    dedent_unindented_iff hflush (fun _ => h.isIndent_of_mem) hbreak hend, hnil, hhead]

end

end Tag

namespace Dictionary

theorem normalise_example : standard.normalise "example" = "example" := by
  rw [normalise_standard]
  decide +kernel

theorem lookUp_example :
    standard.lookUp "example" = some
      { title := "example", keepsBlanks := true, dropsIndent := true
        hook := some (.appendText .examples) } := by
  rw [lookUp_standard_eq, normalise_example]
  decide

theorem text_makeTag {dictionary : Dictionary} {title : String} {t : TagDefinition}
    (h : dictionary.lookUp title = some t) (body : Option String) :
    (dictionary.makeTag title body).text =
      Text.nonempty? (Tag.trimBody body t.keepsBlanks t.dropsIndent) := by
  simp only [makeTag, h]

theorem makeTag_example {body : String} (h : Tag.trimBody (some body) true true ≠ "") :
    (standard.makeTag "example" (some body)).title = "example" ∧
      (standard.makeTag "example" (some body)).text =
        some (Tag.trimBody (some body) true true) := by
  refine ⟨(title_makeTag _ _ _).trans normalise_example, ?_⟩
  rw [text_makeTag lookUp_example]
  exact if_neg (by simpa using h)

end Dictionary

namespace Doclet

theorem applyTag_append_ends {dictionary : Dictionary} {title : String} {body : Option String}
    {t : TagDefinition} {s : String} (hlook : dictionary.lookUp title = some t)
    (hhook : t.hook = some (.appendText .examples))
    (htitle : (dictionary.makeTag title body).title = "example")
    (htext : (dictionary.makeTag title body).text = some s) (d : Doclet) :
    (applyTag dictionary title body d).Ends [] { d with examples := added d.examples s } := by
  have hbase : (applyBaseline (dictionary.makeTag title body) d).Ends [] d := by
    simp only [applyBaseline, htitle]
    exact ⟨rfl, rfl, rfl⟩
  refine hbase.andThen _ ?_
  rw [hlook, applyDefinitionWith_of_hook _ hhook]
  simp only [applyHook, htext, appendText]
  exact ⟨rfl, rfl, rfl⟩

theorem examples_start (context : Context) (links : Links) (comment : Option String)
    (source : Source) (stamp : Nat) :
    (start context links comment source stamp).examples = none := by
  unfold start setPlace
  dsimp only
  split <;> rfl

/-- Nothing but a tag writes examples. -/
theorem examples_postProcess {context : Context} (hd : context.dictionary.IsRegular)
    (twin : Option Doclet) (d : Doclet) :
    (d.postProcess context twin).doclet.examples = d.examples := by
  change ((d.postProcess context twin).doclet.part .examples).examples = (d.part .examples).examples
  rw [part_postProcess rfl hd.setsKinds]

theorem parse_example {first : String} {more : List String} (h : Tag.IsListing first more)
    (codeType : Option String) :
    Comment.parse (some (Comment.wrap ("@example" :: first :: more))) codeType =
      [⟨"example",
        some (String.ofList (Comment.lineChars (Comment.unindented first :: more)))⟩] := by
  have hmark : ¬ Comment.tagMark <:+: "example".toList := by decide +kernel
  have hvisible : ∀ c ∈ "example".toList, Text.isBlank c = false := by
    have hall : ("example".toList.all fun c => !Text.isBlank c) = true := by decide
    simpa using hall
  have htitle : "@example" = "@" ++ "example" := by decide
  rw [htitle]
  exact Comment.parse_wrap_tag (by decide) hvisible hmark h.plain h.first_visible codeType

/-- A doclet with one tag that can be applied is built, with the examples that the tag
gives it. -/
theorem create_of_single_tag {context : Context} (hd : context.dictionary.IsRegular)
    {comment : Option String} (source : Source) (contextId : Option Nat) (stamp : Nat)
    (twin : Option (Nat × Doclet)) {w : WrittenTag} {d : Doclet}
    (hparse : Comment.parse comment (source.code.bind (·.type)) = [w])
    (h : (applyTag context.dictionary w.title w.body (start context
      { code := stamp, twin := twin.map (·.1), context := contextId } comment source stamp)).Ends
      [] d) :
    (create context comment source contextId stamp twin).fault = none ∧
      (create context comment source contextId stamp twin).doclet.examples = d.examples := by
  have htags : (applyTags context.dictionary (Comment.parse comment (source.code.bind (·.type)))
      (start context { code := stamp, twin := twin.map (·.1), context := contextId } comment source
        stamp)).Ends [] d := by
    rw [hparse]
    exact h
  have htagged : (tagged context comment source contextId stamp (twin.map (·.1))).Ends []
      { d with filename := some d.filepath } := by
    rw [tagged_eq]
    exact htags.change _
  have hpost := postProcess_ends hd (twin.map (·.2)) { d with filename := some d.filepath }
  refine ⟨(htagged.andThen _ hpost).fault, ?_⟩
  rw [create_eq, Progress.doclet_andThen htagged.fault, htagged.doclet, examples_postProcess hd]

theorem examples_create (settings : Settings) (exports : ExportIndex) (source : Source)
    (contextId : Option Nat) (stamp : Nat) (twin : Option (Nat × Doclet)) {first : String}
    {more : List String} (h : Tag.IsListing first more) :
    (create { settings, exports } (some (Comment.wrap ("@example" :: first :: more))) source
        contextId stamp twin).fault = none ∧
      (create { settings, exports } (some (Comment.wrap ("@example" :: first :: more))) source
        contextId stamp twin).doclet.examples =
          some [Tag.listing (Comment.unindented first :: more)] := by
  have hbody : Tag.trimBody
      (some (String.ofList (Comment.lineChars (Comment.unindented first :: more)))) true true =
      Tag.listing (Comment.unindented first :: more) := Tag.trimBody_lineChars (by simp)
  have hne := h.listing_unindented_ne_empty
  rw [← hbody] at hne
  obtain ⟨htitle, htext⟩ := Dictionary.makeTag_example hne
  have hregular : ({ settings, exports } : Context).dictionary.IsRegular :=
    Dictionary.isRegular_standard
  obtain ⟨hfault, hkept⟩ := create_of_single_tag hregular source contextId stamp twin
    (parse_example h _) (applyTag_append_ends Dictionary.lookUp_example rfl htitle htext _)
  refine ⟨hfault, ?_⟩
  rw [hkept, examples_start, hbody]
  rfl

/-- A comment with an example below its title always makes a doclet, and its example is
the lines without the indentation of the first and without what they then have in common.
That is the example as it was meant, without the indentation of all its lines, exactly
when there is one line only or the first line is not indented. -/
theorem examples_create_iff (settings : Settings) (exports : ExportIndex) (source : Source)
    (contextId : Option Nat) (stamp : Nat) (twin : Option (Nat × Doclet)) {first : String}
    {more : List String} (h : Tag.IsListing first more) :
    let comment := Comment.wrap ("@example" :: first :: more)
    let work := create { settings, exports } (some comment) source contextId stamp twin
    work.fault = none ∧
      work.doclet.examples = some [Tag.listing (Comment.unindented first :: more)] ∧
      (work.doclet.examples = some [Tag.listing (first :: more)] ↔
        more = [] ∨ first.toList.head?.any Text.isIndent = false) := by
  obtain ⟨hfault, hexamples⟩ := examples_create settings exports source contextId stamp twin h
  dsimp only
  refine ⟨hfault, hexamples, ?_⟩
  rw [hexamples, ← h.listing_unindented_iff]
  simp

/-- A first line without indentation above spaces, a blank line and a tab. -/
theorem examples_create_iff_flush :
    let more := ["  run();", " ", "\tdone(\"a@b\");"]
    Tag.IsListing "if (x)" more ∧
      (create {} (some (Comment.wrap ("@example" :: "if (x)" :: more))) {} none 0
        none).doclet.examples = some [Tag.listing ("if (x)" :: more)] ∧
      Tag.listing ("if (x)" :: more) = "if (x)\n  run();\n\n\tdone(\"a@b\");" := by
  intro more
  have hplain : ∀ line ∈ "if (x)" :: more, Comment.IsPlainLine line := by
    intro line hline
    simp only [more, List.mem_cons, List.not_mem_nil, or_false] at hline
    rcases hline with rfl | rfl | rfl | rfl <;> exact ⟨by decide, by decide, by decide +kernel⟩
  have hlisting : Tag.IsListing "if (x)" more :=
    ⟨hplain, by decide, by decide, by decide +kernel⟩
  obtain ⟨-, -, hkept⟩ := examples_create_iff {} [] {} none 0 none hlisting
  exact ⟨hlisting, hkept.mpr (by decide), by decide +kernel⟩

/-- The second line is to be indented by two spaces and keeps all four. -/
theorem examples_create_indented :
    Tag.IsListing "  run();" ["    done();"] ∧
      Tag.listing ["  run();", "    done();"] = "run();\n  done();" ∧
      (create {} (some (Comment.wrap ["@example", "  run();", "    done();"])) {} none 0
        none).doclet.examples = some ["run();\n    done();"] := by
  have hplain : ∀ line ∈ ["  run();", "    done();"], Comment.IsPlainLine line := by
    intro line hline
    simp only [List.mem_cons, List.not_mem_nil, or_false] at hline
    rcases hline with rfl | rfl <;> exact ⟨by decide, by decide, by decide +kernel⟩
  have hlisting : Tag.IsListing "  run();" ["    done();"] :=
    ⟨hplain, by decide, by decide, by decide +kernel⟩
  have hleft : Tag.listing [Comment.unindented "  run();", "    done();"] =
      "run();\n    done();" := by
    decide +kernel
  obtain ⟨-, hexamples⟩ := examples_create {} [] {} none 0 none hlisting
  rw [hleft] at hexamples
  exact ⟨hlisting, by decide +kernel, hexamples⟩

end Doclet

end DocComment
