import DocComment.Doclet.Naming
import DocComment.Proofs.Longname.Written

/-! What finding the names of a doclet comes to. There are four cases: there is no
name to start from, the doclet has a parent, its name is plain, or its name is
qualified. Nothing but the four names of the doclet changes in any of them. -/

namespace DocComment

/-- What a doclet is called. -/
structure Names where
  name : Option String
  longname : Option String
  memberof : Option String
  scope : Option String
  deriving DecidableEq, Repr

/-- What doclets of that kind put before the last part of their longnames. -/
def Dictionary.namespaceOf (dictionary : Dictionary) (kind : Option String) :
    Option (List Char) :=
  if dictionary.isNamespace kind then some (kind.getD "").toList else none

namespace Doclet

def names (d : Doclet) : Names := ⟨d.name, d.longname, d.memberof, d.scope⟩

def withNames (d : Doclet) (n : Names) : Doclet :=
  { d with name := n.name, longname := n.longname, memberof := n.memberof, scope := n.scope }

@[simp] theorem names_withNames (d : Doclet) (n : Names) : (d.withNames n).names = n := rfl

/-- The parent that the names are found with. -/
def parentText (d : Doclet) : List Char := (d.takeParentMark.memberof.getD "").toList

/-- The part of a name below its parent. -/
def below (parent name : List Char) : List Char := ((underParent? parent name).map (·.2)).getD name

/-- The scope that a mark tells. -/
def scopeNameOf (mark : Char) : String := ((Scope.ofMark? mark).getD .static).name

/-- The mark that stands for a scope. -/
def markOf (scope : String) : Char := ((Scope.ofName? scope).bind Scope.mark?).getD '.'

/-- The scope of a doclet with a parent: its own, or that in its name. -/
def memberScope (d : Doclet) : String :=
  d.takeParentMark.scope.getD
    (((underParent? d.parentText d.nameToResolve).map fun found => scopeNameOf found.1).getD
      Scope.static.name)

/-- The names of a doclet with a parent. -/
def memberNames (dictionary : Dictionary) (d : Doclet) : Names where
  name := some (String.ofList (below d.parentText d.nameToResolve))
  longname := some (String.ofList (Longname.written (dictionary.namespaceOf d.kind)
    (d.parentText ++ markOf d.memberScope :: below d.parentText d.nameToResolve)))
  memberof := some (String.ofList d.parentText)
  scope := some d.memberScope

/-- The names of a doclet whose name is plain. -/
def plainNames (dictionary : Dictionary) (d : Doclet) : Names where
  name := some (String.ofList d.nameToResolve)
  longname := some (String.ofList
    (Longname.written (dictionary.namespaceOf d.kind) d.nameToResolve))
  memberof := d.takeParentMark.memberof
  scope := d.takeParentMark.scope

/-- The names of a doclet whose name was taken apart. -/
def qualifiedNames (dictionary : Dictionary) (d : Doclet) (p : List Char) (mark : Char)
    (b : List Char) : Names where
  name := some (String.ofList b)
  longname := some (String.ofList
    (Longname.written (dictionary.namespaceOf d.kind) d.nameToResolve))
  memberof := some (String.ofList (Longname.parentChars p))
  scope := some (d.takeParentMark.scope.getD (scopeNameOf mark))

theorem takeParentMark_eq (d : Doclet) :
    d.takeParentMark =
      { d with memberof := d.takeParentMark.memberof, scope := d.takeParentMark.scope } := by
  unfold takeParentMark fillScopeOf fillScope
  split
  · rfl
  · split
    · split
      · split <;> rfl
      · rfl
    · rfl

theorem setLongname_ofList (dictionary : Dictionary) (d : Doclet) (s : List Char) :
    d.setLongname dictionary (String.ofList s) =
      { d with
        longname :=
          some (String.ofList (Longname.written (dictionary.namespaceOf d.kind) s)) } := by
  unfold setLongname Dictionary.namespaceOf Longname.written
  split <;> simp_all [Longname.dropGlobal, Longname.addNamespace]

theorem resolve_of_nameless {dictionary : Dictionary} {d : Doclet} (h : d.nameToResolve = []) :
    d.resolve dictionary = d := by
  simp [resolve, h]

theorem memberof_takeParentMark {d : Doclet} (h : d.parentText ≠ []) :
    d.takeParentMark.memberof = some (String.ofList d.parentText) := by
  unfold parentText at h ⊢
  cases hm : d.takeParentMark.memberof with
  | none => simp [hm] at h
  | some m => simp

theorem fillScope_eq (d : Doclet) (scope : Scope) :
    d.fillScope scope = { d with scope := some (d.scope.getD scope.name) } := by
  cases h : d.scope with
  | none => simp [fillScope, h]
  | some s =>
    have hd : d = { d with scope := some s } := by rw [← h]
    simpa [fillScope, h] using hd

theorem fillScopeOf_eq {mark : Char} (h : Longname.isMark mark = true) (d : Doclet) :
    d.fillScopeOf mark = { d with scope := some (d.scope.getD (scopeNameOf mark)) } := by
  rcases Longname.isMark_iff.mp h with rfl | rfl | rfl <;> exact fillScope_eq d _

theorem isMark_markOf (scope : String) : Longname.isMark (markOf scope) = true := by
  unfold markOf
  cases (Scope.ofName? scope) with
  | none => rfl
  | some s => cases s <;> rfl

theorem dropStart?_parent (parent rest : List Char) (mark other : Char) :
    Text.dropStart? (parent ++ [other]) (parent ++ mark :: rest) =
      if other = mark then some rest else none := by
  split
  next h => exact Text.dropStart?_eq_some.mpr (by simp [h])
  next h =>
    cases hd : Text.dropStart? (parent ++ [other]) (parent ++ mark :: rest) with
    | none => rfl
    | some s =>
      have hs := Text.dropStart?_eq_some.mp hd
      simp only [List.append_assoc, List.append_cancel_left_eq, List.cons_append, List.nil_append,
        List.cons.injEq] at hs
      exact absurd hs.1.symm h

/-- A name lies below a parent when the parent, a mark and something more make it
up. -/
theorem underParent?_eq_some {parent name rest : List Char} {mark : Char} :
    underParent? parent name = some (mark, rest) ↔
      Longname.isMark mark = true ∧ rest ≠ [] ∧ name = parent ++ mark :: rest := by
  constructor
  · intro h
    obtain ⟨other, hmem, ho⟩ := List.exists_of_findSome?_eq_some h
    split at ho
    next c s hd =>
      obtain ⟨rfl, rfl⟩ : other = mark ∧ c :: s = rest := by simpa using ho
      exact ⟨by simpa [Longname.isMark] using hmem, by simp,
        by simpa using Text.dropStart?_eq_some.mp hd⟩
    next => simp at ho
  · rintro ⟨hmark, hrest, rfl⟩
    obtain ⟨c, s, rfl⟩ := List.exists_cons_of_ne_nil hrest
    rcases Longname.isMark_iff.mp hmark with rfl | rfl | rfl <;>
      simp [underParent?, Longname.marks, dropStart?_parent]

theorem below_suffix (parent name : List Char) : below parent name <:+ name := by
  unfold below
  cases hu : underParent? parent name with
  | none => exact List.suffix_refl _
  | some found =>
    obtain ⟨mark, rest⟩ := found
    obtain ⟨-, -, rfl⟩ := underParent?_eq_some.mp hu
    exact ⟨parent ++ [mark], by simp⟩

theorem below_ne_nil {parent name : List Char} (h : name ≠ []) : below parent name ≠ [] := by
  unfold below
  cases hu : underParent? parent name with
  | none => exact h
  | some found => exact (underParent?_eq_some.mp hu).2.1

theorem below_eq_self_iff {parent name : List Char} :
    below parent name = name ↔ underParent? parent name = none := by
  unfold below
  cases hu : underParent? parent name with
  | none => simp
  | some found =>
    obtain ⟨-, -, h⟩ := underParent?_eq_some.mp hu
    refine iff_of_false (fun he => ?_) (by simp)
    have hname : found.2 = name := he
    have hlen := congrArg List.length h
    rw [hname, List.length_append, List.length_cons] at hlen
    omega

theorem underParent?_of_below {parent name b : List Char} (h : below parent name = b)
    (hb : b ≠ name) :
    ∃ mark, underParent? parent name = some (mark, b) := by
  unfold below at h
  cases hu : underParent? parent name with
  | none =>
    rw [hu] at h
    exact absurd h.symm hb
  | some found =>
    rw [hu] at h
    exact ⟨found.1, by rw [← h]; rfl⟩

theorem underParent?_eq_none {parent name : List Char} (ha : Longname.Nesting.after {} parent = {})
    (hn : Longname.splitLast {} name = none) : underParent? parent name = none := by
  cases hu : underParent? parent name with
  | none => rfl
  | some found =>
    obtain ⟨hmark, -, rfl⟩ := underParent?_eq_some.mp hu
    exact absurd ha (Longname.after_ne_of_splitLast_eq_none hn hmark)

theorem resolve_member {dictionary : Dictionary} {d : Doclet} (hn : d.nameToResolve ≠ [])
    (hp : d.parentText ≠ []) :
    d.resolve dictionary = d.withNames (d.memberNames dictionary) := by
  have hm := memberof_takeParentMark hp
  have he := takeParentMark_eq d
  have hr : d.resolve dictionary =
      resolveMember dictionary d.takeParentMark d.parentText d.nameToResolve := by
    simp only [resolve, List.isEmpty_iff, hn, if_false]
    rw [if_neg (by simpa [parentText] using hp)]
    rfl
  rw [hr, he, hm]
  cases hu : underParent? d.parentText d.nameToResolve with
  | none =>
    simp only [resolveMember, hu, fillScope_eq, setLongname_ofList]
    simp [memberNames, below, memberScope, hu, withNames, scopeMark, markOf]
  | some found =>
    obtain ⟨mark, rest⟩ := found
    have hmark := (underParent?_eq_some.mp hu).1
    simp only [resolveMember, hu, fillScopeOf_eq hmark, fillScope_eq, setLongname_ofList]
    simp [memberNames, below, memberScope, hu, withNames, scopeMark, markOf]

theorem resolve_plain {dictionary : Dictionary} {d : Doclet} (hn : d.nameToResolve ≠ [])
    (hp : d.parentText = [])
    (hs : Longname.splitChars d.nameToResolve = ⟨[], none, d.nameToResolve⟩) :
    d.resolve dictionary = d.withNames (d.plainNames dictionary) := by
  have he := takeParentMark_eq d
  have hr : d.resolve dictionary =
      resolveQualified dictionary d.takeParentMark d.nameToResolve := by
    simp only [resolve, List.isEmpty_iff, hn, if_false]
    rw [if_pos (by simpa [parentText] using hp)]
  rw [hr, he]
  simp only [resolveQualified, hs, setLongname_ofList]
  simp [withNames, plainNames]

theorem resolve_qualified {dictionary : Dictionary} {d : Doclet} {p b : List Char} {mark : Char}
    (hn : d.nameToResolve ≠ []) (hp : d.parentText = [])
    (hs : Longname.splitChars d.nameToResolve = ⟨p, some mark, b⟩) (hne : p ≠ [])
    (hmark : Longname.isMark mark = true) :
    d.resolve dictionary = d.withNames (d.qualifiedNames dictionary p mark b) := by
  have he := takeParentMark_eq d
  have hr : d.resolve dictionary =
      resolveQualified dictionary d.takeParentMark d.nameToResolve := by
    simp only [resolve, List.isEmpty_iff, hn, if_false]
    rw [if_pos (by simpa [parentText] using hp)]
  rw [hr, he]
  simp only [resolveQualified, hs, List.isEmpty_iff, hne, if_false, fillScopeOf_eq hmark,
    setMemberof, setLongname_ofList]
  simp [withNames, qualifiedNames, Longname.parent]

/-- Without a parent the longname is all of the name. -/
theorem longname_resolve_of_rootless {dictionary : Dictionary} {d : Doclet}
    (hn : d.nameToResolve ≠ []) (hp : d.parentText = []) :
    (d.resolve dictionary).longname = some (String.ofList
      (Longname.written (dictionary.namespaceOf d.kind) d.nameToResolve)) := by
  rcases Longname.splitChars_cases d.nameToResolve with hs | ⟨p, c, b, hs, -, hne, hc, -⟩
  · rw [resolve_plain hn hp hs]
    rfl
  · rw [resolve_qualified hn hp hs hne hc]
    rfl

theorem exists_resolve_eq (dictionary : Dictionary) (d : Doclet) :
    ∃ n, d.resolve dictionary = d.withNames n := by
  by_cases hn : d.nameToResolve = []
  · exact ⟨d.names, resolve_of_nameless hn⟩
  by_cases hp : d.parentText = []
  · rcases Longname.splitChars_cases d.nameToResolve with hs | ⟨p, c, b, hs, -, hne, hc, -⟩
    · exact ⟨_, resolve_plain hn hp hs⟩
    · exact ⟨_, resolve_qualified hn hp hs hne hc⟩
  · exact ⟨_, resolve_member hn hp⟩

theorem scope_takeParentMark {d : Doclet} {scope : String} (h : d.scope = some scope) :
    d.takeParentMark.scope = some scope := by
  unfold takeParentMark fillScopeOf fillScope
  split
  · exact h
  · split
    · split <;> simp [h]
    · exact h

/-- A scope that is set stays. -/
theorem scope_resolve (dictionary : Dictionary) {d : Doclet} {scope : String}
    (h : d.scope = some scope) : (d.resolve dictionary).scope = some scope := by
  have hscope := scope_takeParentMark h
  by_cases hn : d.nameToResolve = []
  · rw [resolve_of_nameless hn, h]
  by_cases hp : d.parentText = []
  · rcases Longname.splitChars_cases d.nameToResolve with hs | ⟨p, c, b, hs, -, hne, hc, -⟩
    · rw [resolve_plain hn hp hs]
      exact hscope
    · rw [resolve_qualified hn hp hs hne hc]
      simp [withNames, qualifiedNames, hscope]
  · rw [resolve_member hn hp]
    simp [withNames, memberNames, memberScope, hscope]

/-- A doclet with nothing but what its names are found from. -/
def seed (d : Doclet) : Doclet :=
  { name := d.name, longname := d.longname, memberof := d.memberof, scope := d.scope
    kind := d.kind, aliasName := d.aliasName, place := { code := { name := d.place.code.name } } }

theorem takeParentMark_seed (d : Doclet) :
    d.seed.takeParentMark.memberof = d.takeParentMark.memberof ∧
      d.seed.takeParentMark.scope = d.takeParentMark.scope := by
  have hm : d.seed.memberof = d.memberof := rfl
  unfold takeParentMark
  rw [hm]
  split
  · exact ⟨rfl, rfl⟩
  · split
    next hc =>
      rw [fillScopeOf_eq hc, fillScopeOf_eq hc]
      exact ⟨rfl, rfl⟩
    next => exact ⟨rfl, rfl⟩

theorem names_resolve_seed (dictionary : Dictionary) (d : Doclet) :
    (d.seed.resolve dictionary).names = (d.resolve dictionary).names := by
  have hn : d.seed.nameToResolve = d.nameToResolve := rfl
  have hkind : d.seed.kind = d.kind := rfl
  obtain ⟨hmemberof, hscope⟩ := takeParentMark_seed d
  have hp : d.seed.parentText = d.parentText := by rw [parentText, parentText, hmemberof]
  by_cases hne : d.nameToResolve = []
  · rw [resolve_of_nameless hne, resolve_of_nameless (hn.trans hne)]
    rfl
  by_cases hpe : d.parentText = []
  · rcases Longname.splitChars_cases d.nameToResolve with hs | ⟨p, c, b, hs, -, hpne, hc, -⟩
    · rw [resolve_plain hne hpe hs, resolve_plain (hn ▸ hne) (hp.trans hpe) (hn ▸ hs)]
      simp only [names_withNames, plainNames, hn, hkind, hmemberof, hscope]
    · rw [resolve_qualified hne hpe hs hpne hc,
        resolve_qualified (hn ▸ hne) (hp.trans hpe) (hn ▸ hs) hpne hc]
      simp only [names_withNames, qualifiedNames, hn, hkind, hscope]
  · rw [resolve_member hne hpe, resolve_member (hn ▸ hne) (hp ▸ hpe)]
    simp only [names_withNames, memberNames, memberScope, hn, hp, hkind, hscope]

end Doclet

end DocComment
