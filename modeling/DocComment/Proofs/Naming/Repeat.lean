import DocComment.Dictionary.Standard
import DocComment.Proofs.Naming.Resolve

/-! Finding the names of a doclet a second time. The second search starts from what
the first one has left, so it takes the same way only when the parent that was
left is still a parent and the name that was left no longer holds it. `Settles`
says exactly when both searches agree. -/

namespace DocComment

namespace Longname

def EndsInMark (s : List Char) : Prop := s.getLast?.any isMark = true

instance (s : List Char) : Decidable (EndsInMark s) := inferInstanceAs (Decidable (_ = true))

/-- Nothing is left of such a parent without the mark at its end. -/
def IsRootless (s : List Char) : Prop := s = [] ∨ (s.length = 1 ∧ EndsInMark s)

theorem not_endsInMark_nil : ¬ EndsInMark [] := by decide

theorem endsInMark_concat {s : List Char} {c : Char} : EndsInMark (s ++ [c]) ↔ isMark c = true := by
  simp [EndsInMark]

theorem EndsInMark.exists_eq {s : List Char} (h : EndsInMark s) :
    ∃ t c, s = t ++ [c] ∧ isMark c = true := by
  rcases List.eq_nil_or_concat s with rfl | ⟨t, c, rfl⟩
  · exact absurd h not_endsInMark_nil
  · rw [List.concat_eq_append] at h ⊢
    exact ⟨t, c, rfl, endsInMark_concat.mp h⟩

/-- A text without the mark at its end. -/
def dropMark (s : List Char) : List Char := if EndsInMark s then s.dropLast else s

theorem dropMark_of_not_endsInMark {s : List Char} (h : ¬ EndsInMark s) : dropMark s = s :=
  if_neg h

theorem dropMark_ne_self {s : List Char} (h : EndsInMark s) : dropMark s ≠ s := by
  obtain ⟨t, c, rfl, -⟩ := h.exists_eq
  simp [dropMark, h]

theorem dropMark_eq_nil_iff {s : List Char} : dropMark s = [] ↔ IsRootless s := by
  by_cases h : EndsInMark s
  · obtain ⟨t, c, rfl, -⟩ := h.exists_eq
    simp [dropMark, IsRootless, h]
  · simp [dropMark, IsRootless, h]

theorem IsRootless.eq_mark {m : List Char} (h : IsRootless m) (hm : m ≠ []) :
    ∃ c, m = [c] ∧ isMark c = true := by
  obtain ⟨hlen, hend⟩ := h.resolve_left hm
  obtain ⟨c, rfl⟩ := List.length_eq_one_iff.mp hlen
  exact ⟨c, rfl, by simpa [EndsInMark] using hend⟩

theorem written_mark_parent {kind : Option (List Char)} {b : List Char} {c mark : Char}
    (hc : isMark c = true) (hmark : isMark mark = true) (hb : splitLast {} b = none) :
    written kind (c :: mark :: b) = c :: mark :: lastPart kind b := by
  have hd : dropGlobalChars [c] = [c] := by
    rcases isMark_iff.mp hc with rfl | rfl | rfl <;> decide
  have happ : written kind ([c] ++ mark :: b) = dropGlobalChars [c] ++ mark :: lastPart kind b :=
    written_append (by rw [hd]; simp) (Nesting.step_mark hc) hmark hb
  rw [hd] at happ
  exact happ

theorem splitChars_mark_parent {b : List Char} {c mark : Char}
    (hc : isMark c = true) (hmark : isMark mark = true) (hb : splitLast {} b = none) :
    splitChars (c :: mark :: b) = ⟨[c], some mark, b⟩ :=
  splitChars_append (p := [c]) (by simp) (Nesting.step_mark hc) hmark hb

theorem parentChars_mark {c : Char} (hc : isMark c = true) : parentChars [c] = [c] := by
  rcases isMark_iff.mp hc with rfl | rfl | rfl <;> decide

theorem exists_split_of_parent_ne_nil {s : List Char} (h : (splitChars s).parent ≠ []) :
    ∃ p c b, splitChars s = ⟨p, some c, b⟩ ∧ s = p ++ c :: b ∧ b ≠ s ∧ isMark c = true ∧
      Nesting.after {} p = {} ∧ splitLast {} b = none := by
  rcases splitChars_cases s with hs | ⟨p, c, b, hs, he, -, hc, ha, hb⟩
  · rw [hs] at h
    exact absurd rfl h
  · refine ⟨p, c, b, hs, he, ?_, hc, ha, hb⟩
    intro hbs
    have hlen := congrArg List.length (hbs.trans he)
    rw [List.length_append, List.length_cons] at hlen
    omega

end Longname

namespace Doclet

open Longname

def isAliased (d : Doclet) : Bool := (said d.aliasName).isSome

theorem nameToResolve_withNames_of_isAliased {d : Doclet} (h : d.isAliased) (n : Names) :
    (d.withNames n).nameToResolve = d.nameToResolve := by
  obtain ⟨a, ha⟩ := Option.isSome_iff_exists.mp h
  simp [nameToResolve, withNames, ha]

/-- The name that the code gives. -/
def codeName (d : Doclet) : List Char := memberChars ((said d.place.code.name).getD "").toList

theorem nameToResolve_withNames_of_ne_nil {d : Doclet} (h : ¬ d.isAliased) {n : Names}
    {b : List Char} (hn : n.name = some (String.ofList b)) (hb : b ≠ []) :
    (d.withNames n).nameToResolve = memberChars b := by
  have ha : said d.aliasName = none := by simpa [isAliased] using h
  have hs : said n.name = some (String.ofList b) := said_eq_some.mpr ⟨hn, by simpa using hb⟩
  simp [nameToResolve, withNames, ha, hs]

theorem nameToResolve_withNames_of_nil {d : Doclet} (h : ¬ d.isAliased) {n : Names}
    (hn : n.name = some (String.ofList [])) : (d.withNames n).nameToResolve = d.codeName := by
  have ha : said d.aliasName = none := by simpa [isAliased] using h
  have hs : said n.name = none := by simp [hn, said]
  simp [nameToResolve, withNames, ha, hs, codeName]

theorem isRead_nameToResolve (d : Doclet) : IsRead d.nameToResolve := isRead_memberChars _

theorem parentText_eq (d : Doclet) : d.parentText = dropMark (d.memberof.getD "").toList := by
  unfold parentText takeParentMark
  split
  next h =>
    rw [List.reverse_eq_nil_iff.mp h]
    rfl
  next c rest h =>
    have hm : (d.memberof.getD "").toList = rest.reverse ++ [c] := by
      rw [← List.reverse_reverse (d.memberof.getD "").toList, h, List.reverse_cons]
    rw [hm]
    split
    next hc => simp [dropMark, endsInMark_concat.mpr hc]
    next hc => rw [dropMark_of_not_endsInMark (mt endsInMark_concat.mp hc), hm]

theorem memberScope_of_scope {d : Doclet} {scope : String} (h : d.scope = some scope) :
    d.memberScope = scope := by
  simp [memberScope, scope_takeParentMark h]

theorem takeParentMark_of_empty {d : Doclet} (h : (d.memberof.getD "").toList = []) :
    d.takeParentMark = d := by
  simp [takeParentMark, h]

theorem memberof_takeParentMark_of_some {d : Doclet} {s : String} (h : d.memberof = some s) :
    d.takeParentMark.memberof = some (String.ofList d.parentText) := by
  unfold parentText takeParentMark
  split
  · simp [h]
  · split <;> simp [h]

section Again

variable {dictionary : Dictionary} {d : Doclet} {scope : String} {m : List Char}

theorem mk_eq_names_iff (hscope : d.scope = some scope) (hm : d.memberof = some (String.ofList m))
    {name longname : String} {parent : List Char} :
    Names.mk (some name) (some longname) (some (String.ofList parent)) (some scope) = d.names ↔
      d.longname = some longname ∧ d.name = some name ∧ m = parent := by
  simp only [names, hm, hscope, Names.mk.injEq, Option.some.injEq, String.ofList_inj, and_true]
  constructor
  · rintro ⟨hname, hlong, hparent⟩
    exact ⟨hlong.symm, hname.symm, hparent.symm⟩
  · rintro ⟨hlong, hname, hparent⟩
    exact ⟨hname.symm, hlong.symm, hparent.symm⟩

/-- A doclet whose parent stays one is named after it once more. -/
theorem names_resolve_iff_of_parent (hscope : d.scope = some scope)
    (hm : d.memberof = some (String.ofList m)) (hn : d.nameToResolve ≠ [])
    (hroot : ¬ IsRootless m) :
    (d.resolve dictionary).names = d.names ↔
      ¬ EndsInMark m ∧ d.name = some (String.ofList (below m d.nameToResolve)) ∧
        d.longname = some (String.ofList (written (dictionary.namespaceOf d.kind)
          (m ++ markOf scope :: below m d.nameToResolve))) := by
  have hp : d.parentText = dropMark m := by simp [parentText_eq, hm]
  have hne : d.parentText ≠ [] := by rw [hp]; exact mt dropMark_eq_nil_iff.mp hroot
  rw [resolve_member hn hne, names_withNames, memberNames, memberScope_of_scope hscope, hp,
    mk_eq_names_iff hscope hm]
  by_cases hend : EndsInMark m
  · simp [hend, (dropMark_ne_self hend).symm]
  · rw [dropMark_of_not_endsInMark hend]
    simp [hend, and_comm]

/-- A doclet whose parent comes to nothing is taken apart once more. -/
theorem names_resolve_iff_of_rootless (hscope : d.scope = some scope)
    (hm : d.memberof = some (String.ofList m)) (hn : d.nameToResolve ≠ [])
    (hroot : IsRootless m) :
    (d.resolve dictionary).names = d.names ↔
      d.longname = some (String.ofList (written (dictionary.namespaceOf d.kind)
        d.nameToResolve)) ∧
      d.name = some (String.ofList (splitChars d.nameToResolve).name) ∧
      m = parentChars (splitChars d.nameToResolve).parent := by
  have hp : d.parentText = [] := by
    rw [parentText_eq, hm]
    simpa using dropMark_eq_nil_iff.mpr hroot
  have hs := scope_takeParentMark hscope
  rcases splitChars_cases d.nameToResolve with hsplit | ⟨p, c, b, hsplit, -, hne, hc, -⟩
  · rw [resolve_plain hn hp hsplit, names_withNames, plainNames,
      memberof_takeParentMark_of_some hm, hp, hs, hsplit]
    exact mk_eq_names_iff hscope hm
  · rw [resolve_qualified hn hp hsplit hne hc, names_withNames, qualifiedNames, hs, hsplit]
    exact mk_eq_names_iff hscope hm

end Again

/-- A doclet with a parent keeps its names when the parent ends in no mark and the
name does not hold it any more. An alias starts from the same name each time, so
it may even hold a parent that is a mere mark. -/
def MemberSettles (d : Doclet) : Prop :=
  (¬ EndsInMark d.parentText ∧
    (d.isAliased ∨ underParent? d.parentText (below d.parentText d.nameToResolve) = none)) ∨
  (d.isAliased ∧ IsRootless d.parentText ∧
    ∃ rest, underParent? d.parentText d.nameToResolve = some (markOf d.memberScope, rest) ∧
      splitLast {} rest = none)

/-- A doclet that was taken apart is named after its new parent the next time. -/
def QualifiedSettles (dictionary : Dictionary) (d : Doclet) (p : List Char) (mark : Char)
    (b : List Char) : Prop :=
  let left := parentChars p
  let k := markOf (d.takeParentMark.scope.getD (scopeNameOf mark))
  let written := written (dictionary.namespaceOf d.kind)
  if d.isAliased then
    IsRootless left ∨ (¬ EndsInMark left ∧ left = p ∧ b ≠ [] ∧ k = mark)
  else if b = [] then
    d.codeName = [] ∨
      (IsRootless left ∧ (splitChars d.codeName).name = [] ∧
        left = parentChars (splitChars d.codeName).parent ∧
        written d.nameToResolve = written d.codeName)
  else
    (left ≠ [] ∧ ¬ EndsInMark left ∧ k = mark ∧ ¬ prototypeName <:+: dropGlobalChars p ∧
      ¬ globalName <+: left) ∨
    (p = globalName ∧ mark = '.' ∧ ¬ globalName <+: b)

/-- Exactly these doclets keep the names that were found for them. -/
def Settles (dictionary : Dictionary) (d : Doclet) : Prop :=
  d.nameToResolve = [] ∨
  (d.parentText ≠ [] ∧ d.MemberSettles) ∨
  (d.parentText = [] ∧
    match splitChars d.nameToResolve with
    | ⟨p, some mark, b⟩ => d.QualifiedSettles dictionary p mark b
    | ⟨_, none, _⟩ => True)

section Cases

variable {dictionary : Dictionary} {d : Doclet}

theorem below_mark_parent_iff {kind : Option (List Char)} {m n : List Char} {k : Char}
    (hk : isMark k = true) (hm : m ≠ []) (hroot : IsRootless m) :
    (written kind (m ++ k :: below m n) = written kind n ∧
      below m n = (splitChars n).name ∧ m = parentChars (splitChars n).parent) ↔
      ∃ rest, underParent? m n = some (k, rest) ∧ splitLast {} rest = none := by
  obtain ⟨c, rfl, hc⟩ := hroot.eq_mark hm
  constructor
  · rintro ⟨hw, hb, hparent⟩
    have hne : (splitChars n).parent ≠ [] := by
      intro h
      rw [h] at hparent
      exact hm hparent
    obtain ⟨p, mark, b, hs, hn, hbn, hmark, -, hnone⟩ := exists_split_of_parent_ne_nil hne
    rw [hs] at hb
    obtain ⟨other, hu⟩ := underParent?_of_below hb hbn
    obtain ⟨hother, -, hn'⟩ := underParent?_eq_some.mp hu
    have hkeep : other = k := by
      rw [hb, hn'] at hw
      simp only [List.cons_append, List.nil_append, written_mark_parent hc hk hnone,
        written_mark_parent hc hother hnone, List.cons.injEq, true_and, and_true] at hw
      exact hw.symm
    exact ⟨b, by rw [hu, hkeep], hnone⟩
  · rintro ⟨rest, hu, hnone⟩
    obtain ⟨-, -, hn⟩ := underParent?_eq_some.mp hu
    have hb : below [c] n = rest := by simp [below, hu]
    have hs : splitChars n = ⟨[c], some k, rest⟩ := by
      rw [hn]
      exact splitChars_mark_parent hc hk hnone
    rw [hb, hs, hn]
    exact ⟨rfl, rfl, (parentChars_mark hc).symm⟩

theorem names_resolve_memberNames_iff_of_isAliased (hn : d.nameToResolve ≠ [])
    (hp : d.parentText ≠ []) (halias : d.isAliased) :
    ((d.withNames (d.memberNames dictionary)).resolve dictionary).names =
      d.memberNames dictionary ↔ d.MemberSettles := by
  have hstart := nameToResolve_withNames_of_isAliased halias (d.memberNames dictionary)
  have hne : (d.withNames (d.memberNames dictionary)).nameToResolve ≠ [] := by
    rw [hstart]
    exact hn
  by_cases hroot : IsRootless d.parentText
  · refine (names_resolve_iff_of_rootless rfl rfl hne hroot).trans ?_
    rw [hstart]
    simp only [withNames, memberNames, Option.some.injEq, String.ofList_inj]
    rw [below_mark_parent_iff (isMark_markOf _) hp hroot]
    simp [MemberSettles, halias, hroot, (hroot.resolve_left hp).2]
  · refine (names_resolve_iff_of_parent rfl rfl hne hroot).trans ?_
    rw [hstart]
    simp [withNames, memberNames, MemberSettles, halias, hroot]

theorem names_resolve_memberNames_iff (hn : d.nameToResolve ≠ []) (hp : d.parentText ≠ [])
    (halias : ¬ d.isAliased) :
    ((d.withNames (d.memberNames dictionary)).resolve dictionary).names =
      d.memberNames dictionary ↔ d.MemberSettles := by
  have hbelow : below d.parentText d.nameToResolve ≠ [] := below_ne_nil hn
  have hstart : (d.withNames (d.memberNames dictionary)).nameToResolve =
      below d.parentText d.nameToResolve := by
    rw [nameToResolve_withNames_of_ne_nil halias rfl hbelow]
    exact memberChars_of_isRead (d.isRead_nameToResolve.suffix (below_suffix _ _))
  have hne : (d.withNames (d.memberNames dictionary)).nameToResolve ≠ [] := by
    rw [hstart]
    exact hbelow
  by_cases hroot : IsRootless d.parentText
  · refine (names_resolve_iff_of_rootless rfl rfl hne hroot).trans (iff_of_false ?_ ?_)
    · rw [hstart]
      rintro ⟨-, hb, hparent⟩
      have hsplit : (splitChars (below d.parentText d.nameToResolve)).parent ≠ [] := by
        intro h
        rw [h] at hparent
        exact hp hparent
      obtain ⟨p, mark, b, hs, -, hbn, -⟩ := exists_split_of_parent_ne_nil hsplit
      rw [hs] at hb
      exact hbn (String.ofList_inj.mp (Option.some.inj hb)).symm
    · simp [MemberSettles, halias, (hroot.resolve_left hp).2]
  · refine (names_resolve_iff_of_parent rfl rfl hne hroot).trans ?_
    rw [hstart]
    simp only [withNames, memberNames, Option.some.injEq, String.ofList_inj, MemberSettles, halias,
      ← below_eq_self_iff]
    constructor
    · rintro ⟨hend, hb, -⟩
      exact .inl ⟨hend, .inr hb.symm⟩
    · rintro (⟨hend, hb⟩ | h)
      · have hb := hb.resolve_left (by simp)
        exact ⟨hend, hb.symm, by rw [hb]⟩
      · simp at h

theorem names_resolve_plainNames (hn : d.nameToResolve ≠ []) (hp : d.parentText = [])
    (hs : splitChars d.nameToResolve = ⟨[], none, d.nameToResolve⟩) :
    ((d.withNames (d.plainNames dictionary)).resolve dictionary).names =
      d.plainNames dictionary := by
  have hsame : (d.withNames (d.plainNames dictionary)).takeParentMark =
      d.withNames (d.plainNames dictionary) := takeParentMark_of_empty hp
  have hparent : (d.withNames (d.plainNames dictionary)).parentText = [] := by
    rw [parentText, hsame]
    exact hp
  have hstart : (d.withNames (d.plainNames dictionary)).nameToResolve = d.nameToResolve := by
    by_cases halias : d.isAliased
    · exact nameToResolve_withNames_of_isAliased halias _
    · rw [nameToResolve_withNames_of_ne_nil halias rfl hn]
      exact memberChars_of_isRead d.isRead_nameToResolve
  have hne : (d.withNames (d.plainNames dictionary)).nameToResolve ≠ [] := by
    rw [hstart]
    exact hn
  rw [resolve_plain hne hparent (by rw [hstart]; exact hs), names_withNames, plainNames, hsame,
    hstart]
  rfl

theorem below_parentChars_iff {kind : Option (List Char)} {p b : List Char} {k mark : Char}
    (hp : parentChars p ≠ []) (ha : Nesting.after {} p = {}) (hk : isMark k = true)
    (hmark : isMark mark = true) (hb : splitLast {} b = none) :
    (b = below (parentChars p) (p ++ mark :: b) ∧
      written kind (p ++ mark :: b) =
        written kind (parentChars p ++ k :: below (parentChars p) (p ++ mark :: b))) ↔
      parentChars p = p ∧ b ≠ [] ∧ k = mark := by
  have hd : dropGlobalChars p ≠ [] := mt parentChars_eq_nil_iff.mpr hp
  constructor
  · rintro ⟨hbelow, hw⟩
    have hbn : b ≠ p ++ mark :: b := by
      intro h
      have hlen := congrArg List.length h
      rw [List.length_append, List.length_cons] at hlen
      omega
    obtain ⟨other, hu⟩ := underParent?_of_below hbelow.symm hbn
    obtain ⟨-, hne, happ⟩ := underParent?_eq_some.mp hu
    have hself : p = parentChars p := (List.append_inj' happ rfl).1
    rw [← hbelow, ← hself, written_append hd ha hmark hb, written_append hd ha hk hb] at hw
    simp only [List.append_cancel_left_eq, List.cons.injEq, and_true] at hw
    exact ⟨hself.symm, hne, hw.symm⟩
  · rintro ⟨hself, hne, rfl⟩
    have hu : underParent? p (p ++ k :: b) = some (k, b) := underParent?_eq_some.mpr ⟨hk, hne, rfl⟩
    have hbelow : below p (p ++ k :: b) = b := by simp [below, hu]
    rw [hself, hbelow]
    exact ⟨rfl, rfl⟩

section Qualified

variable {p b : List Char} {mark : Char}

theorem names_resolve_qualifiedNames_iff_of_isAliased (halias : d.isAliased)
    (hn : d.nameToResolve ≠ []) (hs : splitChars d.nameToResolve = ⟨p, some mark, b⟩)
    (hsplit : d.nameToResolve = p ++ mark :: b) (hmark : isMark mark = true)
    (ha : Nesting.after {} p = {}) (hb : splitLast {} b = none) :
    ((d.withNames (d.qualifiedNames dictionary p mark b)).resolve dictionary).names =
      d.qualifiedNames dictionary p mark b ↔ d.QualifiedSettles dictionary p mark b := by
  have hstart :=
    nameToResolve_withNames_of_isAliased halias (d.qualifiedNames dictionary p mark b)
  have hne : (d.withNames (d.qualifiedNames dictionary p mark b)).nameToResolve ≠ [] := by
    rw [hstart]
    exact hn
  simp only [QualifiedSettles, halias, if_true]
  by_cases hroot : IsRootless (parentChars p)
  · refine (names_resolve_iff_of_rootless rfl rfl hne hroot).trans ?_
    rw [hstart, hs]
    simp [withNames, qualifiedNames, hroot]
  · refine (names_resolve_iff_of_parent rfl rfl hne hroot).trans ?_
    rw [hstart]
    simp only [withNames, qualifiedNames, Option.some.injEq, String.ofList_inj, hroot, false_or]
    rw [hsplit, below_parentChars_iff (mt .inl hroot) ha (isMark_markOf _) hmark hb]

/-- When nothing follows the mark, the next search starts from the name that the
code gives. -/
theorem names_resolve_qualifiedNames_iff_of_nil (halias : ¬ d.isAliased) (hb : b = []) :
    ((d.withNames (d.qualifiedNames dictionary p mark b)).resolve dictionary).names =
      d.qualifiedNames dictionary p mark b ↔ d.QualifiedSettles dictionary p mark b := by
  have hstart : (d.withNames (d.qualifiedNames dictionary p mark b)).nameToResolve = d.codeName :=
    nameToResolve_withNames_of_nil halias (by rw [qualifiedNames, hb])
  simp only [QualifiedSettles, halias, hb, if_true]
  by_cases hcode : d.codeName = []
  · rw [hb] at hstart
    simp [resolve_of_nameless (hstart.trans hcode), hcode]
  have hne : (d.withNames (d.qualifiedNames dictionary p mark b)).nameToResolve ≠ [] := by
    rw [hstart]
    exact hcode
  rw [hb] at hstart hne
  by_cases hroot : IsRootless (parentChars p)
  · refine (names_resolve_iff_of_rootless rfl rfl hne hroot).trans ?_
    rw [hstart]
    simp only [withNames, qualifiedNames, Option.some.injEq, String.ofList_inj, hcode, hroot,
      false_or, true_and]
    exact ⟨fun h => ⟨h.2.1.symm, h.2.2, h.1⟩, fun h => ⟨h.2.2, h.1.symm, h.2.1⟩⟩
  · refine (names_resolve_iff_of_parent rfl rfl hne hroot).trans ?_
    rw [hstart]
    simp only [withNames, qualifiedNames, Option.some.injEq, String.ofList_inj, hcode, hroot,
      false_or, false_and]
    exact iff_false_intro fun h => below_ne_nil hcode h.2.1.symm

theorem names_resolve_qualifiedNames_iff (halias : ¬ d.isAliased) (hbe : b ≠ [])
    (hsplit : d.nameToResolve = p ++ mark :: b) (hp : p ≠ []) (hmark : isMark mark = true)
    (ha : Nesting.after {} p = {}) (hb : splitLast {} b = none) :
    ((d.withNames (d.qualifiedNames dictionary p mark b)).resolve dictionary).names =
      d.qualifiedNames dictionary p mark b ↔ d.QualifiedSettles dictionary p mark b := by
  have hstart : (d.withNames (d.qualifiedNames dictionary p mark b)).nameToResolve = b := by
    rw [nameToResolve_withNames_of_ne_nil halias rfl hbe]
    apply memberChars_of_isRead
    exact d.isRead_nameToResolve.suffix ⟨p ++ [mark], by rw [hsplit]; simp⟩
  have hne : (d.withNames (d.qualifiedNames dictionary p mark b)).nameToResolve ≠ [] := by
    rw [hstart]
    exact hbe
  simp only [QualifiedSettles, halias, hbe, if_false]
  by_cases hroot : IsRootless (parentChars p)
  · refine (names_resolve_iff_of_rootless rfl rfl hne hroot).trans ?_
    rw [hstart, splitChars_of_splitLast_eq_none hb]
    simp only [withNames, qualifiedNames, Option.some.injEq, String.ofList_inj, hsplit]
    constructor
    · rintro ⟨hw, -, hnil⟩
      have hd := parentChars_eq_nil_iff.mp hnil
      exact .inr ((written_eq_written_global_iff hp hd hmark hb).mp hw.symm)
    · rintro (⟨hleft, hend, -⟩ | h)
      · exact absurd (hroot.resolve_left hleft).2 hend
      · have hd : dropGlobalChars p = [] := by rw [h.1]; decide
        exact ⟨((written_eq_written_global_iff hp hd hmark hb).mpr h).symm, trivial,
          parentChars_eq_nil_iff.mpr hd⟩
  · have hleft : parentChars p ≠ [] := mt .inl hroot
    have hlone := underParent?_eq_none ((after_parentChars p).trans ha) hb
    refine (names_resolve_iff_of_parent rfl rfl hne hroot).trans ?_
    rw [hstart, below_eq_self_iff.mpr hlone]
    simp only [withNames, qualifiedNames, Option.some.injEq, String.ofList_inj, hsplit]
    have hmember := isMark_markOf (d.takeParentMark.scope.getD (scopeNameOf mark))
    have hglobal : ¬ EndsInMark (parentChars p) → parentChars p ≠ globalName ++ ['.'] :=
      fun hend h => hend (by rw [h]; decide)
    constructor
    · rintro ⟨hend, -, hw⟩
      exact .inl ⟨hleft, hend,
        (written_parentChars_eq_iff hleft ha (hglobal hend) hmember hmark hb).mp hw.symm⟩
    · rintro (⟨-, hend, h⟩ | ⟨rfl, -⟩)
      · exact ⟨hend, trivial,
          ((written_parentChars_eq_iff hleft ha (hglobal hend) hmember hmark hb).mpr h).symm⟩
      · exact absurd (by decide) hleft

end Qualified

end Cases

/-- Finding the names a second time leaves them as they are exactly when the doclet
settles. -/
theorem names_resolve_resolve_iff (dictionary : Dictionary) (d : Doclet) :
    ((d.resolve dictionary).resolve dictionary).names = (d.resolve dictionary).names ↔
      d.Settles dictionary := by
  unfold Settles
  by_cases hn : d.nameToResolve = []
  · have hr : d.resolve dictionary = d := resolve_of_nameless hn
    simp [hr, hn]
  by_cases hp : d.parentText = []
  · rcases splitChars_cases d.nameToResolve with hs | ⟨p, c, b, hs, hsplit, hne, hc, ha, hb⟩
    · rw [resolve_plain hn hp hs, names_withNames, hs]
      simp [hn, hp, names_resolve_plainNames hn hp hs]
    · rw [resolve_qualified hn hp hs hne hc, names_withNames, hs]
      simp only [hn, hp, ne_eq, not_true_eq_false, false_and, false_or, true_and]
      by_cases halias : d.isAliased
      · exact names_resolve_qualifiedNames_iff_of_isAliased halias hn hs hsplit hc ha hb
      by_cases hbe : b = []
      · exact names_resolve_qualifiedNames_iff_of_nil halias hbe
      · exact names_resolve_qualifiedNames_iff halias hbe hsplit hne hc ha hb
  · rw [resolve_member hn hp, names_withNames]
    simp only [hn, hp, ne_eq, not_false_eq_true, true_and, false_and, or_false, false_or]
    by_cases halias : d.isAliased
    · exact names_resolve_memberNames_iff_of_isAliased hn hp halias
    · exact names_resolve_memberNames_iff hn hp halias

/-- A scope that was set before does not fit the mark in the name, and the second
search puts its own mark there. -/
theorem resolve_resolve_preset_scope :
    let d : Doclet := { name := some "Foo#bar", scope := some "inner" }
    (d.resolve .standard).names = ⟨some "bar", some "Foo#bar", some "Foo", some "inner"⟩ ∧
      ((d.resolve .standard).resolve .standard).names =
        ⟨some "bar", some "Foo~bar", some "Foo", some "inner"⟩ := by
  decide +kernel

end Doclet

end DocComment
