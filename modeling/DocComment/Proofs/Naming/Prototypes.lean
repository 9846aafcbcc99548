import DocComment.Proofs.Dictionary.Standard
import DocComment.Proofs.Longname.Reading
import DocComment.Proofs.Naming.Agreement

/-! One longname as a parent and as a name. Both should denote the same symbol, and
they do as long as a prototype stands at the end of it: the point after any other
prototype stays in the parent and goes from the name. -/

namespace DocComment.Doclet

open Longname

/-- The doclet with that name for all that it brings of its own. -/
def calledAlone (d : Doclet) (name : String) : Doclet :=
  { d with name := some name, aliasName := none, memberof := none }

theorem longname_resolve_calledAlone {dictionary : Dictionary} {d : Doclet} {s : String}
    (hkind : dictionary.isNamespace d.kind = false) (hs : s ≠ "") :
    ((d.calledAlone s).resolve dictionary).longname =
      some (String.ofList (dropGlobalChars (memberChars s.toList))) := by
  have hsaid : said (d.calledAlone s).name = some s := said_eq_some.mpr ⟨rfl, hs⟩
  have hname : (d.calledAlone s).nameToResolve = memberChars s.toList :=
    nameToResolve_of_name rfl (by rw [hsaid]; rfl)
  have hparent : (d.calledAlone s).parentText = [] := (parentText_of_unsaid rfl).1
  have hne : (d.calledAlone s).nameToResolve ≠ [] := by
    rw [hname]
    exact memberChars_ne_nil (by simpa using hs)
  have hnamespace : dictionary.namespaceOf (d.calledAlone s).kind = none :=
    namespaceOf_eq_none hkind
  rw [longname_resolve_of_rootless hne hparent, hname, hnamespace]
  rfl

theorem memberof_setMemberof_eq_iff (d : Doclet) (s : String) (t : List Char) :
    (d.setMemberof s).memberof = some (String.ofList t) ↔ parentChars s.toList = t := by
  simp [setMemberof, parent, String.ofList_inj]

/-- A parent is read as the names are, and denotes what the name of the same text
denotes, exactly when no prototype stands before the end. -/
theorem setMemberof_reads_as_name_iff (dictionary : Dictionary) (d : Doclet) (s : String) :
    ((d.setMemberof s).memberof = some (String.ofList (memberChars (dropGlobal s).toList)) ↔
        PrototypeEnds (dropGlobal s).toList) ∧
      (dictionary.isNamespace d.kind = false → s ≠ "" →
        ((d.setMemberof s).memberof = ((d.calledAlone s).resolve dictionary).longname ↔
          PrototypeEnds (dropGlobal s).toList ∧ ¬ IsGlobalPrototype s.toList)) := by
  have hdrop : (dropGlobal s).toList = dropGlobalChars s.toList := String.toList_ofList
  rw [hdrop]
  constructor
  · rw [memberof_setMemberof_eq_iff]
    exact parentChars_eq_memberChars_iff s.toList
  · intro hkind hs
    rw [longname_resolve_calledAlone hkind hs, memberof_setMemberof_eq_iff]
    exact parentChars_eq_dropGlobalChars_iff s.toList

/-- The prototype at the end of a parent is the one that the documentation shows. -/
theorem setMemberof_reads_as_name_iff_prototype :
    let d : Doclet := { kind := some "function" }
    (d.setMemberof "<global>.Foo.prototype").memberof = some "Foo#" ∧
      ((d.calledAlone "<global>.Foo.prototype").resolve .standard).longname = some "Foo#" := by
  intro d
  have hread : (d.setMemberof "<global>.Foo.prototype").memberof = some "Foo#" := by
    decide +kernel
  have hkind : Dictionary.standard.isNamespace d.kind = false := by
    rw [Dictionary.isNamespace, Dictionary.standard_definitions]
    decide +kernel
  have hends : PrototypeEnds (dropGlobal "<global>.Foo.prototype").toList :=
    (replaceFrom_eq_memberChars_iff _).mp (by decide +kernel)
  have hglobal : ¬ IsGlobalPrototype "<global>.Foo.prototype".toList := by
    rintro ⟨v, hv, hr⟩
    have hsplit : globalName ++ ".Foo.prototype".toList = globalName ++ v := hv
    obtain rfl := List.append_cancel_left hsplit
    exact hr (by decide)
  have hsame := ((setMemberof_reads_as_name_iff .standard d "<global>.Foo.prototype").2 hkind
    (by decide)).mpr ⟨hends, hglobal⟩
  exact ⟨hread, hsame.symm.trans hread⟩

/-- The point after a prototype stays in the parent, so that the symbol is not the
one of that name. A longer word that begins like the prototype is cut. -/
theorem setMemberof_not_read_as_name :
    let d : Doclet := { kind := some "function" }
    (d.setMemberof "Foo.prototype.bar").memberof = some "Foo#.bar" ∧
      String.ofList (memberChars (dropGlobal "Foo.prototype.bar").toList) = "Foo#bar" ∧
      ((d.calledAlone "Foo.prototype.bar").resolve .standard).longname = some "Foo#bar" ∧
      (d.setMemberof "Foo.prototypes").memberof = some "Foo#s" ∧
      String.ofList (memberChars (dropGlobal "Foo.prototypes").toList) = "Foo.prototypes" := by
  decide +kernel

end DocComment.Doclet
