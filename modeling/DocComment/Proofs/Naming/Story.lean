import DocComment.Proofs.Dictionary.Standard
import DocComment.Proofs.Longname.Parent
import DocComment.Proofs.Naming.Resolve

/-! Whether longname, parent and scope tell one story: with a parent and a scope
that has a mark, the longname begins with the parent and the mark. `Fits` says of
a doclet, before its names are found, whether they will. -/

namespace DocComment

/-- The mark of a scope that has one. -/
def scopeMark? (scope : Option String) : Option Char :=
  (scope.bind Scope.ofName?).bind Scope.mark?

namespace Names

/-- The longname with `shown` after it begins with the parent and the mark of the
scope, if there are any. -/
def Follows (shown : List Char) (n : Names) : Prop :=
  ∀ m k, n.memberof = some m → scopeMark? n.scope = some k →
    ∃ l, n.longname = some l ∧ m.toList ++ [k] <+: l.toList ++ shown

/-- Longname, parent and scope agree. -/
def TellOneStory (n : Names) : Prop :=
  ∀ m k, n.memberof = some m → scopeMark? n.scope = some k →
    ∃ l, n.longname = some l ∧ m.toList ++ [k] <+: l.toList

theorem tellOneStory_iff {n : Names} : n.TellOneStory ↔ n.Follows [] := by
  simp [TellOneStory, Follows]

end Names

namespace Dictionary

theorem isNamespace_namespaceOf_standard (kind : Option String) :
    Longname.IsNamespace (standard.namespaceOf kind) := by
  intro k hk
  unfold namespaceOf at hk
  split at hk
  next hn =>
    obtain rfl := Option.some.inj hk
    cases kind with
    | none => simp [isNamespace] at hn
    | some word =>
      have hne : word ≠ "" := by
        rintro rfl
        simp [isNamespace] at hn
      refine ⟨by simpa using hne, fun c hc => ⟨?_, ?_⟩⟩
      · cases hm : Longname.isMark c with
        | false => rfl
        | true =>
          have hforeign : c ∈ foreign := by
            rcases Longname.isMark_iff.mp hm with rfl | rfl | rfl <;> simp [foreign]
          exact absurd hc (foreign_not_mem_namespace hn hforeign)
      · rintro rfl
        exact foreign_not_mem_namespace hn (by simp [foreign]) hc
  next => simp at hk

end Dictionary

namespace Doclet

open Longname

/-- With a parent, only a namespace inside of it and the name of the global object
can be in the way. -/
def MemberFits (dictionary : Dictionary) (d : Doclet) : Prop :=
  let m := d.parentText
  let b := below m d.nameToResolve
  ∀ k, scopeMark? (some d.memberScope) = some k →
    if globalName <+: m then IsGlobalChain (m ++ [k]) ∧ globalPoint <+: b
    else dictionary.namespaceOf d.kind = none ∨
      isNamespaced (splitChars (m ++ k :: b)).name = true ∨
      m.length ≤ (splitChars (m ++ k :: b)).parent.length

/-- A name that is taken apart has to agree with a scope that was set before, and
its parent must not lose a prototype. -/
def QualifiedFits (dictionary : Dictionary) (d : Doclet) (p : List Char) (mark : Char) : Prop :=
  ∀ k, scopeMark? (some (d.takeParentMark.scope.getD (scopeNameOf mark))) = some k →
    if parentChars p = [] then [k] <+: written (dictionary.namespaceOf d.kind) d.nameToResolve
    else k = mark ∧ ¬ prototypeName <:+: dropGlobalChars p

/-- A plain name comes with a parent only when all of it was a mark. -/
def PlainFits (dictionary : Dictionary) (d : Doclet) : Prop :=
  d.takeParentMark.memberof = none ∨
    ∀ k, scopeMark? d.takeParentMark.scope = some k →
      [k] <+: written (dictionary.namespaceOf d.kind) d.nameToResolve

/-- The names that are going to be found tell one story. -/
def Fits (dictionary : Dictionary) (d : Doclet) : Prop :=
  if d.nameToResolve = [] then d.memberof = none ∨ scopeMark? d.scope = none
  else if d.parentText = [] then
    match splitChars d.nameToResolve with
    | ⟨p, some mark, _⟩ => d.QualifiedFits dictionary p mark
    | ⟨_, none, _⟩ => d.PlainFits dictionary
  else d.MemberFits dictionary

section Cases

variable {dictionary : Dictionary} {d : Doclet} {shown : List Char}

theorem isMark_of_scopeMark? {scope : Option String} {k : Char} (h : scopeMark? scope = some k) :
    isMark k = true := by
  obtain ⟨s, -, hs⟩ := Option.bind_eq_some_iff.mp h
  cases s <;> simp [Scope.mark?] at hs <;> subst hs <;> rfl

theorem markOf_of_scopeMark? {scope : String} {k : Char} (h : scopeMark? (some scope) = some k) :
    markOf scope = k := by
  unfold scopeMark? at h
  simp only [Option.bind_some] at h
  simp [markOf, h]

theorem not_bracket_of_isMark {k : Char} (h : isMark k = true) : '(' ∉ [k] := by
  rcases isMark_iff.mp h with rfl | rfl | rfl <;> decide

theorem follows_memberNames_iff (hkind : IsNamespace (dictionary.namespaceOf d.kind))
    (hp : d.parentText ≠ []) (hs : IsShown shown) :
    (d.memberNames dictionary).Follows shown ↔ d.MemberFits dictionary := by
  unfold Names.Follows MemberFits
  dsimp only [memberNames]
  constructor
  · intro h k hk
    obtain ⟨l, hl, hpre⟩ := h _ k rfl hk
    obtain rfl := Option.some.inj hl
    rw [String.toList_ofList, String.toList_ofList, markOf_of_scopeMark? hk] at hpre
    have hmark := isMark_of_scopeMark? hk
    split
    next hg => exact (prefix_written_global_iff hkind hg hmark hs).mp hpre
    next hg => exact (prefix_written_iff hkind hg hp hmark).mp hpre
  · intro h m k hm hk
    obtain rfl := Option.some.inj hm
    have hfit := h k hk
    have hmark := isMark_of_scopeMark? hk
    refine ⟨_, rfl, ?_⟩
    rw [String.toList_ofList, String.toList_ofList, markOf_of_scopeMark? hk]
    split at hfit
    next hg => exact (prefix_written_global_iff hkind hg hmark hs).mpr hfit
    next hg => exact (prefix_written_iff hkind hg hp hmark).mpr hfit

theorem follows_qualifiedNames_iff {p b : List Char} {mark : Char} (hs : IsShown shown)
    (hsplit : d.nameToResolve = p ++ mark :: b) (hmark : isMark mark = true)
    (ha : Nesting.after {} p = {}) (hb : splitLast {} b = none) :
    (d.qualifiedNames dictionary p mark b).Follows shown ↔ d.QualifiedFits dictionary p mark := by
  have hstep : ∀ k, scopeMark? (some (d.takeParentMark.scope.getD (scopeNameOf mark))) = some k →
      (parentChars p ++ [k] <+:
        written (dictionary.namespaceOf d.kind) d.nameToResolve ++ shown ↔
      if parentChars p = [] then [k] <+: written (dictionary.namespaceOf d.kind) d.nameToResolve
      else k = mark ∧ ¬ prototypeName <:+: dropGlobalChars p) := by
    intro k hk
    split
    next h =>
      rw [h, List.nil_append]
      exact hs.prefix_iff (not_bracket_of_isMark (isMark_of_scopeMark? hk))
    next h =>
      rw [hsplit]
      exact prefix_written_parentChars_iff h ha hmark hb
  unfold Names.Follows QualifiedFits
  dsimp only [qualifiedNames]
  constructor
  · intro h k hk
    obtain ⟨l, hl, hpre⟩ := h _ k rfl hk
    obtain rfl := Option.some.inj hl
    rw [String.toList_ofList, String.toList_ofList] at hpre
    exact (hstep k hk).mp hpre
  · intro h m k hm hk
    obtain rfl := Option.some.inj hm
    refine ⟨_, rfl, ?_⟩
    rw [String.toList_ofList, String.toList_ofList]
    exact (hstep k hk).mpr (h k hk)

theorem follows_plainNames_iff (hs : IsShown shown) (hp : d.parentText = []) :
    (d.plainNames dictionary).Follows shown ↔ d.PlainFits dictionary := by
  have hempty : ∀ s, d.takeParentMark.memberof = some s → s.toList = [] := by
    intro s h
    simpa [parentText, h] using hp
  unfold Names.Follows PlainFits
  dsimp only [plainNames]
  constructor
  · intro h
    cases hm : d.takeParentMark.memberof with
    | none => exact .inl rfl
    | some s =>
      refine .inr fun k hk => ?_
      obtain ⟨l, hl, hpre⟩ := h s k hm hk
      obtain rfl := Option.some.inj hl
      rw [hempty s hm, List.nil_append, String.toList_ofList] at hpre
      exact (hs.prefix_iff (not_bracket_of_isMark (isMark_of_scopeMark? hk))).mp hpre
  · rintro (hnone | h) m k hm hk
    · rw [hnone] at hm
      simp at hm
    · refine ⟨_, rfl, ?_⟩
      rw [hempty m hm, List.nil_append, String.toList_ofList]
      exact (hs.prefix_iff (not_bracket_of_isMark (isMark_of_scopeMark? hk))).mpr (h k hk)

theorem follows_of_no_longname (hlong : d.longname = none) :
    d.names.Follows shown ↔ d.memberof = none ∨ scopeMark? d.scope = none := by
  constructor
  · intro h
    cases hm : d.memberof with
    | none => exact .inl rfl
    | some m =>
      cases hk : scopeMark? d.scope with
      | none => exact .inr rfl
      | some k =>
        obtain ⟨l, hl, -⟩ := h m k hm hk
        exact absurd (hlong.symm.trans hl) (by simp)
  · rintro (hnone | hnone) m k hm hk
    · exact absurd (hnone.symm.trans hm) (by simp)
    · exact absurd (hnone.symm.trans hk) (by simp)

/-- The names that are found for a doclet without a longname tell one story exactly
when it fits. What is shown in brackets after the longname makes no difference. -/
theorem follows_resolve_iff (hkind : IsNamespace (dictionary.namespaceOf d.kind))
    (hlong : d.longname = none) (hs : IsShown shown) :
    (d.resolve dictionary).names.Follows shown ↔ d.Fits dictionary := by
  unfold Fits
  split
  next hn =>
    rw [resolve_of_nameless hn]
    exact follows_of_no_longname hlong
  next hn =>
    split
    next hp =>
      rcases splitChars_cases d.nameToResolve with hsp | ⟨p, c, b, hsp, hsplit, hne, hc, ha, hb⟩
      · rw [resolve_plain hn hp hsp, hsp]
        exact follows_plainNames_iff hs hp
      · rw [resolve_qualified hn hp hsp hne hc, hsp]
        exact follows_qualifiedNames_iff hs hsplit hc ha hb
    next hp =>
      rw [resolve_member hn hp]
      exact follows_memberNames_iff hkind hp hs

end Cases

end Doclet

end DocComment
