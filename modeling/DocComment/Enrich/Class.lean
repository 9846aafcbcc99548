import DocComment.Doclet.Naming
import DocComment.Enrich.Declared

/-! Filling in what the declaration of a class or of a field tells. -/

namespace DocComment.Doclet

def classDecl? (d : Doclet) : Option ClassFact :=
  match d.firstFact? (· = .classDecl) with
  | some (.classDecl c) => some c
  | _ => none

def classField? (d : Doclet) : Option ClassFieldFact :=
  match d.firstFact? (· = .classField) with
  | some (.classField c) => some c
  | _ => none

/-- Implemented interfaces and the base class, where none are documented. -/
def fillClass (c : ClassFact) (d : Doclet) : Doclet :=
  { d with
    implements := if (d.implements.getD []).isEmpty && !c.implements.isEmpty then
        some (c.implements.map TypeRef.typeId)
      else d.implements
    augments := if c.superClass.string != "" && (d.augments.getD []).isEmpty then
        some [c.superClass.typeId]
      else d.augments }

def classBackfill (d : Doclet) : Doclet :=
  match d.classDecl? with
  | none => d
  | some c => d.fillClass c

/-- Access and type of a field, where none are documented. -/
def fillField (c : ClassFieldFact) (d : Doclet) : Doclet :=
  let d := if isRestricted c.accessibility then d.setAccess c.accessibility else d
  { d with
    types := if c.declared.string = "" then d.types else d.types.or (some [c.declared.typeId]) }

/-- A static field takes the static scope, and is named anew. -/
def makeStatic (dictionary : Dictionary) (d : Doclet) : Progress :=
  { d with scope := some Scope.static.name, longname := none : Doclet }.tryResolve dictionary

def classMemberBackfill (dictionary : Dictionary) (d : Doclet) : Progress :=
  match d.classField? with
  | none => { doclet := d }
  | some c =>
    let filled := d.fillField c
    let start : Progress :=
      { doclet := filled
        notes := [note "docletkit.enrich" .debug "Class member backfill"
          [("operation", .text "class_member_backfill"),
            ("longname", Value.ofText? d.longname)]] }
    if c.static && filled.scope != some Scope.static.name then
      start.andThen (makeStatic dictionary)
    else start

def classNotes (d : Doclet) : List Journal.Record :=
  match d.classDecl? with
  | none => []
  | some _ =>
    [note "docletkit.enrich" .debug "Class backfill"
      [("operation", .text "class_backfill"), ("longname", Value.ofText? d.longname)]]

end DocComment.Doclet
