import DocComment.Proofs.Build.Stages
import DocComment.Proofs.Comment.SingleTag
import DocComment.Proofs.Doclet.Numeral

/-! What can stop the building of a doclet. With the standard tags it is stopped
by numbers of too many digits and by nothing else: one that a sort tag begins
with, or one in the code that a default tag without a text would show. -/

namespace DocComment

open Text

/-- The work is stopped by a number that is too long if `bad` holds, and comes to
its end if not. -/
def Progress.StopsIff (bad : Prop) (p : Progress) : Prop :=
  (bad ∧ ∃ digits, p.fault = some (.numeralTooLong digits)) ∨ (¬ bad ∧ p.fault = none)

namespace Progress.StopsIff

variable {bad other : Prop} {p : Progress}

theorem of_none (hbad : ¬ bad) (h : p.fault = none) : p.StopsIff bad := .inr ⟨hbad, h⟩

theorem andThen (h : p.StopsIff bad) {step : Doclet → Progress}
    (hs : (step p.doclet).StopsIff other) : (p.andThen step).StopsIff (bad ∨ other) := by
  unfold Progress.StopsIff
  rw [fault_andThen]
  rcases h with ⟨hbad, digits, hf⟩ | ⟨hbad, hf⟩
  · exact .inl ⟨.inl hbad, digits, by rw [hf, Option.some_or]⟩
  · rw [hf, Option.none_or]
    rcases hs with ⟨hother, hsf⟩ | ⟨hother, hsf⟩
    · exact .inl ⟨.inr hother, hsf⟩
    · exact .inr ⟨not_or.2 ⟨hbad, hother⟩, hsf⟩

/-- A step that cannot fail adds nothing. -/
theorem andThen_of_none (h : p.StopsIff bad) (step : Doclet → Progress)
    (hs : (step p.doclet).fault = none) : (p.andThen step).StopsIff bad := by
  unfold Progress.StopsIff
  rwa [fault_andThen, hs, Option.or_none]

theorem of_none_andThen (h : p.fault = none) {step : Doclet → Progress}
    (hs : (step p.doclet).StopsIff bad) : (p.andThen step).StopsIff bad := by
  unfold Progress.StopsIff
  rwa [fault_andThen, h, Option.none_or]

theorem congr (h : p.StopsIff bad) (heq : bad ↔ other) : p.StopsIff other := by
  rwa [propext heq] at h

theorem fault_eq_none_iff (h : p.StopsIff bad) : p.fault = none ↔ ¬ bad := by
  rcases h with ⟨hbad, digits, hf⟩ | ⟨hbad, hf⟩
  · simp [hbad, hf]
  · simp [hbad, hf]

theorem fault_eq_some (h : p.StopsIff bad) {fault : Fault} (hf : p.fault = some fault) :
    ∃ digits, fault = .numeralTooLong digits := by
  rcases h with ⟨-, digits, hd⟩ | ⟨-, hnone⟩
  · exact ⟨digits, Option.some.inj (hf.symm.trans hd)⟩
  · simp [hnone] at hf

end Progress.StopsIff

/-- The tag has to do with a number that is too long: it is to be read from a sort
tag, or it is in `value`, which a default tag without a text shows. -/
def WrittenTag.IsOverlong (value : Value) (w : WrittenTag) : Prop :=
  Dictionary.standard.normalise w.title = "sort" ∧ BeginsOverlong (w.body.getD "").toList ∨
    Dictionary.standard.normalise w.title = "default" ∧
      (∀ c ∈ (w.body.getD "").toList, isBlank c = true) ∧ value.isUnwritable = true

namespace Dictionary

theorem lookUp_of_normalise {title : String} {t : TagDefinition}
    (htable : (standardDefinitions.map fun t => (t.title, t)).lookup t.title = some t)
    (h : standard.normalise title = t.title) : standard.lookUp title = some t := by
  rw [lookUp, h, standard_definitions, htable]

/-- A hook that sets a scope sets one that exists. -/
def knowsScope : Hook → Bool
  | .setScope scope => (Scope.ofName? scope).isSome
  | _ => true

theorem hook_standard {title : String} {t : TagDefinition} {hook : Hook}
    (h : standard.lookUp title = some t) (hhook : t.hook = some hook) :
    knowsScope hook = true ∧ (hook = .default → standard.normalise title = "default") := by
  have htable : ∀ t ∈ standardDefinitions, (t.hook.all knowsScope) = true ∧
      (t.hook = some .default → t.title = "default") := by
    decide
  obtain ⟨hmem, htitle⟩ := lookUp_standard h
  obtain ⟨hscope, hdefault⟩ := htable t hmem
  rw [hhook] at hscope hdefault
  refine ⟨by simpa using hscope, ?_⟩
  rintro rfl
  rw [← htitle]
  exact hdefault rfl

theorem makeTag_plain {title : String} {t : TagDefinition} (h : standard.lookUp title = some t)
    (hform : t.form = {}) (hblanks : t.keepsBlanks = false) (body : Option String) :
    (standard.makeTag title body).text = nonempty? (Tag.trimBody body false false) ∧
      (standard.makeTag title body).plain? = nonempty? (Tag.trimBody body false false) := by
  simp only [makeTag, h, hform, hblanks, Tag.trimBody, Tag.plain?, Bool.or_self,
    Bool.false_eq_true, if_false]
  refine ⟨trivial, ?_⟩
  cases nonempty? (String.ofList (trim (body.getD "").toList)) <;> rfl

end Dictionary

namespace Doclet

theorem applyHook_fault {hook : Hook} (hscope : Dictionary.knowsScope hook = true)
    (hdefault : hook ≠ .default) (tag : Tag) (d : Doclet) :
    (applyHook hook tag d).fault = none := by
  cases hook with
  | setScope scope =>
    obtain ⟨s, hs⟩ := Option.isSome_iff_exists.1 hscope
    simp [applyHook, trySetScope, hs]
  | appendText field =>
    simp only [applyHook]
    split <;> rfl
  | access =>
    simp only [applyHook, applyAccess]
    split <;> rfl
  | default => exact absurd rfl hdefault
  | _ => rfl

theorem toList_trimBody (body : Option String) :
    (Tag.trimBody body false false).toList = trim (body.getD "").toList := String.toList_ofList

theorem getD_nonempty? (s : String) : (nonempty? s).getD "" = s := by
  unfold nonempty?
  split
  next hempty => exact (String.isEmpty_iff.1 hempty).symm
  next => rfl

theorem applySort_stopsIff (body : Option String) (d : Doclet) :
    (d.applySort (nonempty? (Tag.trimBody body false false))).StopsIff
      (BeginsOverlong (body.getD "").toList) := by
  rw [← beginsOverlong_trim, ← leadingInt?_overlong_iff, applySort, getD_nonempty?,
    toList_trimBody]
  cases hint : leadingInt? (trim (body.getD "").toList) with
  | none => exact .of_none (by simp) rfl
  | some found =>
    obtain ⟨n, count⟩ := found
    dsimp only
    split
    next hlong => exact .inl ⟨⟨n, count, rfl, hlong⟩, some count, rfl⟩
    next hshort =>
      refine .of_none ?_ rfl
      rintro ⟨m, other, heq, hlong⟩
      cases heq
      exact hshort hlong

theorem applyDefault_stopsIff {tag : Tag} {body : Option String}
    (htext : tag.text = nonempty? (Tag.trimBody body false false)) (d : Doclet) :
    (applyDefault tag d).StopsIff
      ((∀ c ∈ (body.getD "").toList, isBlank c = true) ∧
        d.place.code.value.isUnwritable = true) := by
  have hblank : Tag.trimBody body false false = "" ↔
      ∀ c ∈ (body.getD "").toList, isBlank c = true := by
    rw [← trim_eq_nil_iff, ← toList_trimBody, String.toList_eq_nil_iff]
  rw [← hblank]
  by_cases hnone : Tag.trimBody body false false = ""
  · have hsaid : said tag.text = none := by
      rw [htext, hnone]
      rfl
    unfold applyDefault
    rw [hsaid]
    cases hvalue : d.place.code.value with
    | null => exact .of_none (by simp [Value.isUnwritable]) rfl
    | _ =>
      dsimp only
      split
      next hlong => exact .inl ⟨⟨hnone, hlong⟩, none, rfl⟩
      next hshort => exact .of_none (fun h => hshort h.2) rfl
  · have hsaid : said tag.text = some (Tag.trimBody body false false) :=
      said_eq_some.2 ⟨by simp [htext, nonempty?, hnone], hnone⟩
    refine .of_none (fun h => hnone h.1) ?_
    simp [applyDefault, hsaid]

theorem applyBaseline_fault {tag : Tag} (h : tag.title ≠ "sort") (d : Doclet) :
    (applyBaseline tag d).fault = none := by
  unfold applyBaseline
  split
  next => rfl
  next hsort => exact absurd hsort h
  all_goals rfl

theorem applyTag_sort_stopsIff {title : String} (h : Dictionary.standard.normalise title = "sort")
    (body : Option String) (d : Doclet) :
    (applyTag Dictionary.standard title body d).StopsIff
      (BeginsOverlong (body.getD "").toList) := by
  have hlook := Dictionary.lookUp_of_normalise (t := { title := "sort" }) (by decide) h
  have htitle := (Dictionary.standard.title_makeTag title body).trans h
  have hbase : (applyBaseline (Dictionary.standard.makeTag title body) d).StopsIff
      (BeginsOverlong (body.getD "").toList) := by
    simp only [applyBaseline, htitle, (Dictionary.makeTag_plain hlook rfl rfl body).2]
    exact applySort_stopsIff body d
  -- A sort tag has no hook.
  rw [applyTag_eq, hlook]
  exact hbase.andThen_of_none _ rfl

theorem applyTag_default_stopsIff {title : String}
    (h : Dictionary.standard.normalise title = "default") (body : Option String) (d : Doclet) :
    (applyTag Dictionary.standard title body d).StopsIff
      ((∀ c ∈ (body.getD "").toList, isBlank c = true) ∧
        d.place.code.value.isUnwritable = true) := by
  have hlook := Dictionary.lookUp_of_normalise
    (t := { title := "default", synonyms := ["defaultvalue"], hook := some .default })
    (by decide) h
  have htext := (Dictionary.makeTag_plain hlook rfl rfl body).1
  have htitle := (Dictionary.standard.title_makeTag title body).trans h
  rw [applyTag_eq, hlook]
  generalize Dictionary.standard.makeTag title body = tag at htext htitle
  have hhook := applyDefault_stopsIff htext (applyBaseline tag d).doclet
  rw [(applyBaseline_isQuiet tag d).place] at hhook
  exact .of_none_andThen (applyBaseline_fault (by rw [htitle]; decide) d) hhook

theorem applyTag_fault {title : String} (hsort : Dictionary.standard.normalise title ≠ "sort")
    (hdefault : Dictionary.standard.normalise title ≠ "default") (body : Option String)
    (d : Doclet) : (applyTag Dictionary.standard title body d).fault = none := by
  have htitle := Dictionary.standard.title_makeTag title body
  have hbase := applyBaseline_fault (htitle.symm ▸ hsort) d
  rw [applyTag_eq, Progress.fault_andThen, hbase, Option.none_or]
  cases hlook : Dictionary.standard.lookUp title with
  | none => rfl
  | some t =>
    cases hhook : t.hook with
    | none => rw [applyDefinitionWith_of_hookless _ hhook]
    | some hook =>
      obtain ⟨hscope, htag⟩ := Dictionary.hook_standard hlook hhook
      rw [applyDefinitionWith_of_hook _ hhook]
      exact applyHook_fault hscope (fun h => hdefault (htag h)) _ _

theorem applyTag_stopsIff (w : WrittenTag) (d : Doclet) :
    (applyTag Dictionary.standard w.title w.body d).StopsIff (w.IsOverlong d.place.code.value) := by
  by_cases hsort : Dictionary.standard.normalise w.title = "sort"
  · refine (applyTag_sort_stopsIff hsort w.body d).congr ?_
    simp [WrittenTag.IsOverlong, hsort]
  by_cases hdefault : Dictionary.standard.normalise w.title = "default"
  · refine (applyTag_default_stopsIff hdefault w.body d).congr ?_
    simp [WrittenTag.IsOverlong, hdefault]
  · refine .of_none ?_ (applyTag_fault hsort hdefault w.body d)
    simp [WrittenTag.IsOverlong, hsort, hdefault]

theorem applyTags_stopsIff (tags : List WrittenTag) (d : Doclet) :
    (applyTags Dictionary.standard tags d).StopsIff
      (∃ w ∈ tags, w.IsOverlong d.place.code.value) := by
  -- After the first tags the place is still the one of `d`, whether they were stopped or not.
  suffices hgo : ∀ (p : Progress) (bad : Prop), p.IsQuiet d → p.StopsIff bad →
      (p.through tags fun w => applyTag Dictionary.standard w.title w.body).StopsIff
        (bad ∨ ∃ w ∈ tags, w.IsOverlong d.place.code.value) by
    have hall := hgo { doclet := d } False ⟨rfl, rfl, rfl, rfl⟩ (.of_none not_false rfl)
    exact hall.congr (by simp)
  induction tags with
  | nil =>
    intro p bad _ hstops
    exact hstops.congr (by simp)
  | cons w tags ih =>
    intro p bad hquiet hstops
    have hw := applyTag_stopsIff w p.doclet
    rw [hquiet.place] at hw
    have hstep := hquiet.andThen
      (applyTag_isQuiet Dictionary.keepsLongnames_standard w.title w.body)
    refine (ih _ _ hstep (hstops.andThen hw)).congr ?_
    simp [or_assoc]

end Doclet

/-- The value that the code of a symbol has, or null. -/
def Source.codeValue (source : Source) : Value := (source.code.map (·.value)).getD .null

namespace Doclet

theorem start_codeValue (context : Context) (links : Links) (comment : Option String)
    (source : Source) (stamp : Nat) :
    (start context links comment source stamp).place.code.value = source.codeValue := by
  unfold start setPlace Source.codeValue
  cases hcode : source.code with
  | none =>
    dsimp only
    split <;> split <;> rfl
  | some symbol =>
    cases hvalue : symbol.value with
    | null =>
      simp only [hvalue, Option.map_some, Option.getD_some]
      split <;> split <;> rfl
    | _ => simp [hvalue]

theorem tagged_stopsIff {context : Context} (hd : context.dictionary = Dictionary.standard)
    (comment : Option String) (source : Source) (contextId : Option Nat) (stamp : Nat)
    (twinId : Option Nat) :
    (tagged context comment source contextId stamp twinId).StopsIff
      (∃ w ∈ Comment.parse comment (source.code.bind (·.type)), w.IsOverlong source.codeValue) := by
  have htags := applyTags_stopsIff (Comment.parse comment (source.code.bind (·.type)))
    (start context { code := stamp, twin := twinId, context := contextId } comment source stamp)
  rw [start_codeValue, ← hd] at htags
  rw [tagged_eq, Progress.change]
  exact htags.andThen_of_none _ rfl

theorem create_stopsIff {context : Context} (hd : context.dictionary = Dictionary.standard)
    (comment : Option String) (source : Source) (contextId : Option Nat) (stamp : Nat)
    (twin : Option (Nat × Doclet)) :
    (create context comment source contextId stamp twin).StopsIff
      (∃ w ∈ Comment.parse comment (source.code.bind (·.type)), w.IsOverlong source.codeValue) := by
  have hregular : context.dictionary.IsRegular := by
    rw [hd]
    exact Dictionary.isRegular_standard
  have htagged := tagged_stopsIff hd comment source contextId stamp (twin.map (·.1))
  rw [create_eq]
  exact htagged.andThen_of_none _ (postProcess_ends hregular _ _).fault

/-- With the standard tags a doclet is built from every comment and every source
record, unless a tag has to do with a number of too many digits. -/
theorem create_fault_eq_none_iff (settings : Settings) (exports : ExportIndex)
    (comment : Option String) (source : Source) (contextId : Option Nat) (stamp : Nat)
    (twin : Option (Nat × Doclet)) :
    let work := create { settings, exports } comment source contextId stamp twin
    (work.fault = none ↔
      ∀ w ∈ Comment.parse comment (source.code.bind (·.type)), ¬ w.IsOverlong source.codeValue) ∧
    ∀ fault, work.fault = some fault → ∃ digits, fault = .numeralTooLong digits := by
  intro work
  have hstops : work.StopsIff _ := create_stopsIff rfl comment source contextId stamp twin
  refine ⟨?_, fun fault => hstops.fault_eq_some⟩
  rw [hstops.fault_eq_none_iff]
  simp

/-- A row of ones, one more than can be read. -/
def overlongOnes : List Char := List.replicate (maxNumeral + 1) '1'

theorem parse_overlongOnes (codeType : Option String) :
    Comment.parse (some (String.ofList (Comment.single "sort".toList overlongOnes))) codeType =
      [⟨"sort", some (String.ofList overlongOnes)⟩] := by
  have hvisible : "sort".toList.all (fun c => !isBlank c) = true := by decide
  refine Comment.parse_single ⟨by decide, ?_, ⟨by decide, ?_⟩, ?_, ?_, ?_⟩ codeType
  · exact fun c hc => by simpa using List.all_eq_true.1 hvisible c hc
  · simp [overlongOnes]
  · simp [overlongOnes]
  · exact ⟨'1', List.replicate maxNumeral '1', List.replicate_succ, rfl⟩
  · exact ⟨List.replicate maxNumeral '1', '1', List.replicate_succ', rfl⟩

/-- A sort tag with that many digits stops the building of a doclet. -/
theorem createAlone_overlongOnes :
    ∃ digits, (createAlone {} (some (String.ofList (Comment.single "sort".toList overlongOnes)))
      {}).fault = some (.numeralTooLong digits) := by
  have hsort : Dictionary.standard.normalise "sort" = "sort" := by decide +kernel
  have hlong : BeginsOverlong overlongOnes := by
    refine ⟨[], [], overlongOnes, [], by simp, by simp, by simp, ?_, ?_⟩
    · intro c hc
      rw [(List.mem_replicate.1 hc).2]
      decide
    · rw [overlongOnes, List.length_replicate]
      exact Nat.lt_succ_self _
  have hdictionary : ({} : Context).dictionary = Dictionary.standard := rfl
  have hstops := create_stopsIff hdictionary
    (some (String.ofList (Comment.single "sort".toList overlongOnes))) {} none 0 none
  rw [parse_overlongOnes] at hstops
  rcases hstops with ⟨-, hfault⟩ | ⟨hnone, -⟩
  · exact hfault
  · refine absurd ⟨_, List.mem_singleton_self _, .inl ⟨hsort, ?_⟩⟩ hnone
    rwa [Option.getD_some, String.toList_ofList]

end Doclet

end DocComment
