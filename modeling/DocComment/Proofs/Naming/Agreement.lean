import DocComment.Proofs.Dictionary.Standard
import DocComment.Proofs.Longname.Parent
import DocComment.Proofs.Naming.Repeat

/-! The two ways to the same names. A doclet may bring its whole name, which is then
taken apart, or its parent, scope and last part, which are then put together. Both
end in the same names as long as nothing is dropped from the parent on the way. -/

namespace DocComment

namespace Longname

/-- The name comes apart, and setting its parent loses nothing of it. -/
structure ComesApart (n p : List Char) (mark : Char) (b : List Char) : Prop where
  split : splitChars n = ⟨p, some mark, b⟩
  last_ne_nil : b ≠ []
  not_global : ¬ globalName <+: p
  no_prototype : ¬ prototypeName <:+: p
  no_mark : ¬ EndsInMark p

section

variable {n p b : List Char} {mark : Char}

theorem ComesApart.parentChars_eq (h : ComesApart n p mark b) : parentChars p = p := by
  have hd := dropGlobalChars_of_not_global h.not_global
  have hself : parentChars p = dropGlobalChars p :=
    parentChars_eq_self_iff.mpr (by rw [hd]; exact h.no_prototype)
  rw [hself, hd]

theorem ComesApart.written_eq (h : ComesApart n p mark b) : written none n = n := by
  obtain ⟨rfl, -, hmark, -⟩ := eq_append_of_splitChars h.split
  exact dropGlobalChars_of_not_global (not_global_append h.not_global hmark)

end

end Longname

namespace Doclet

open Longname

section

variable {dictionary : Dictionary} {p b : List Char} {mark : Char}

theorem exists_scope_of_isMark (h : isMark mark = true) :
    ∃ scope : Scope, scope.mark? = some mark ∧ scopeNameOf mark = scope.name ∧
      markOf scope.name = mark := by
  rcases isMark_iff.mp h with rfl | rfl | rfl
  · exact ⟨.inner, by decide⟩
  · exact ⟨.ofInstance, by decide⟩
  · exact ⟨.static, by decide⟩

theorem namespaceOf_eq_none {kind : Option String} (h : dictionary.isNamespace kind = false) :
    dictionary.namespaceOf kind = none := by
  simp [Dictionary.namespaceOf, h]

theorem nameToResolve_of_name {d : Doclet} {name : String} (halias : said d.aliasName = none)
    (hname : (said d.name).or (said d.place.code.name) = some name) :
    d.nameToResolve = memberChars name.toList := by
  rw [nameToResolve, halias, Option.none_or, hname]
  rfl

theorem parentText_of_unsaid {d : Doclet} (h : said d.memberof = none) :
    d.parentText = [] ∧ d.takeParentMark = d := by
  have he : (d.memberof.getD "").toList = [] := by
    cases hm : d.memberof with
    | none => rfl
    | some m =>
      rw [hm] at h
      simpa [said] using h
  have ht := takeParentMark_of_empty he
  exact ⟨by rw [parentText, ht, he], ht⟩

theorem names_resolve_of_comesApart {d : Doclet} (hkind : dictionary.isNamespace d.kind = false)
    (hm : said d.memberof = none) (hscope : d.scope = none)
    (h : ComesApart d.nameToResolve p mark b) :
    (d.resolve dictionary).names =
      ⟨some (String.ofList b), some (String.ofList d.nameToResolve), some (String.ofList p),
        some (scopeNameOf mark)⟩ := by
  obtain ⟨happ, hp, hmark, -⟩ := eq_append_of_splitChars h.split
  have hn : d.nameToResolve ≠ [] := by
    rw [happ]
    simp
  obtain ⟨hparent, htake⟩ := parentText_of_unsaid hm
  rw [resolve_qualified hn hparent h.split hp hmark, names_withNames, qualifiedNames, htake, hscope,
    namespaceOf_eq_none hkind, h.written_eq, h.parentChars_eq]
  rfl

/-- The parent and a mark are never found in the last part: the name would have come
apart behind them. -/
theorem names_resolve_of_parts {e : Doclet} {n : List Char} {scope : String}
    (hkind : dictionary.isNamespace e.kind = false) (h : ComesApart n p mark b) (hread : IsRead n)
    (hname : e.nameToResolve = memberChars b) (hm : e.memberof = some (String.ofList p))
    (hscope : e.scope = some scope) (hmark : markOf scope = mark) :
    (e.resolve dictionary).names =
      ⟨some (String.ofList b), some (String.ofList n), some (String.ofList p), some scope⟩ := by
  obtain ⟨happ, hp, -, hafter, hb⟩ := eq_append_of_splitChars h.split
  have hsuffix : b <:+ n := ⟨p ++ [mark], by rw [happ]; simp⟩
  have hstart : e.nameToResolve = b := hname.trans (memberChars_of_isRead (hread.suffix hsuffix))
  have hparent : e.parentText = p := by
    rw [parentText_eq, hm]
    simpa using dropMark_of_not_endsInMark h.no_mark
  have hbelow : below p b = b := below_eq_self_iff.mpr (underParent?_eq_none hafter hb)
  rw [resolve_member (by rw [hstart]; exact h.last_ne_nil) (by rw [hparent]; exact hp),
    names_withNames, memberNames, memberScope_of_scope hscope, hparent, hstart, hbelow, hmark,
    namespaceOf_eq_none hkind, ← happ, h.written_eq]

/-- A doclet that brings its whole name and one that brings the parts of it are
called the same. -/
theorem names_resolve_whole_eq_parts {d : Doclet} {name : String}
    (hkind : dictionary.isNamespace d.kind = false) (halias : said d.aliasName = none)
    (hm : said d.memberof = none) (hscope : d.scope = none)
    (hname : (said d.name).or (said d.place.code.name) = some name)
    (h : ComesApart (memberChars name.toList) p mark b) :
    ∃ scope : Scope, scope.mark? = some mark ∧
      let found : Names := ⟨some (String.ofList b), some (String.ofList (memberChars name.toList)),
        some (String.ofList p), some scope.name⟩
      (d.resolve dictionary).names = found ∧
        ∀ e : Doclet, dictionary.isNamespace e.kind = false → said e.aliasName = none →
          e.name = some (String.ofList b) → e.memberof = some (String.ofList p) →
          e.scope = some scope.name → (e.resolve dictionary).names = found := by
  obtain ⟨-, -, hmark, -⟩ := eq_append_of_splitChars h.split
  obtain ⟨scope, hscopeMark, hscopeName, hmarkOf⟩ := exists_scope_of_isMark hmark
  refine ⟨scope, hscopeMark, ?_, ?_⟩
  · have hstart := nameToResolve_of_name halias hname
    rw [← hstart] at h ⊢
    rw [names_resolve_of_comesApart hkind hm hscope h, hscopeName]
  · intro e hkind' halias' hname' hm' hscope'
    have hsaid : said e.name = some (String.ofList b) :=
      said_eq_some.mpr ⟨hname', by simpa using h.last_ne_nil⟩
    have hstart : e.nameToResolve = memberChars b := by
      rw [nameToResolve_of_name halias' (by rw [hsaid]; rfl)]
      simp
    exact names_resolve_of_parts hkind' h (isRead_memberChars _) hstart hm' hscope' hmarkOf

end

/-- The prototype is read as an instance mark before the name comes apart, and a mark
in brackets and quotes stays where it is. -/
theorem names_resolve_whole_eq_parts_prototype :
    let d : Doclet := { name := some "a[\"x.y\"].Foo.prototype.[\"b.c\"]", kind := some "function" }
    let e : Doclet :=
      { name := some "[\"b.c\"]", memberof := some "a[\"x.y\"].Foo", scope := some "instance" }
    let found : Names := ⟨some "[\"b.c\"]", some "a[\"x.y\"].Foo#[\"b.c\"]", some "a[\"x.y\"].Foo",
      some "instance"⟩
    (d.resolve .standard).names = found ∧ (e.resolve .standard).names = found := by
  intro d e found
  have happart : ComesApart (memberChars "a[\"x.y\"].Foo.prototype.[\"b.c\"]".toList)
      "a[\"x.y\"].Foo".toList '#' "[\"b.c\"]".toList :=
    ⟨by decide +kernel, by decide, by decide, by decide +kernel, by decide⟩
  have hkind : Dictionary.standard.isNamespace (some "function") = false := by
    rw [Dictionary.isNamespace, Dictionary.standard_definitions]
    decide +kernel
  obtain ⟨scope, hmark, hd, he⟩ := names_resolve_whole_eq_parts (d := d) hkind rfl rfl rfl rfl
    happart
  obtain rfl : scope = .ofInstance := by cases scope <;> simp_all [Scope.mark?]
  have hfound : Names.mk (some (String.ofList "[\"b.c\"]".toList))
      (some (String.ofList (memberChars "a[\"x.y\"].Foo.prototype.[\"b.c\"]".toList)))
      (some (String.ofList "a[\"x.y\"].Foo".toList)) (some Scope.ofInstance.name) = found := by
    decide +kernel
  rw [← hfound]
  exact ⟨hd, he e rfl rfl rfl rfl rfl⟩

end Doclet

end DocComment
