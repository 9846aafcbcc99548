import DocComment.Doclet.Progress
import DocComment.Enrich.Declared

/-! Filling in what the declaration of a function tells: access, type
parameters, the type of the result, and the parameters. -/

namespace DocComment.Doclet

/-- The declaration of a function or method among the facts. -/
def declaration? (d : Doclet) : Option Callable :=
  match d.firstFact? fun t => t = .callable .function || t = .callable .method with
  | some (.callable _ c) => some c
  | _ => none

/-- A parameter without documentation. -/
def newParam (name : String) (p : DeclaredParam) : ParamDoc where
  name := some (((said (some p.id)).or (said (some name))).getD "")
  types := some (p.type.toList.map TypeRef.typeId)
  description := some ""
  optional := if p.optional then some true else none
  default := p.defaultText

/-- What the declaration adds to the documentation of a parameter. -/
def fillParam (name : String) (p : DeclaredParam) (doc : ParamDoc) : ParamDoc :=
  { doc with
    name := (said doc.name).or (newParam name p).name
    optional := if p.optional then some true else doc.optional
    default := match said doc.default with
      | some s => some s
      | none => p.defaultText.or doc.default
    types := match p.type with
      | some t => if hasNames doc.types then doc.types else some [t.typeId]
      | none => doc.types }

/-- Goes through the names of the parameters with what is declared and what is
documented for each; parameters beyond the names stay as they are. -/
def fillParams : List String → List Param → List ParamDoc → List ParamDoc
  | [], _, docs => docs
  | name :: names, declared, [] =>
    newParam name ((declared.head?.map Param.declared).getD {}) ::
      fillParams names declared.tail []
  | name :: names, declared, doc :: docs =>
    fillParam name ((declared.head?.map Param.declared).getD {}) doc ::
      fillParams names declared.tail docs

/-- The declared type of the result stands in when the first result has none. -/
def fillReturns (declared : TypeRef) (returns : List ResultDoc) : List ResultDoc :=
  if declared.string = "" then returns
  else
    match returns with
    | [] => [{ types := some [declared.typeId] }]
    | first :: rest =>
      if hasNames first.types then returns
      else { first with types := some [declared.typeId] } :: rest

def fillCallable (c : Callable) (d : Doclet) : Doclet :=
  let d := if isRestricted c.accessibility then d.setAccess c.accessibility else d
  { d with
    typeParams := if c.typeParams.string = "" then d.typeParams
      else d.typeParams.or (some c.typeParams)
    returns := some (fillReturns c.returnType (d.returns.getD []))
    params := some (fillParams (d.place.code.paramNames.getD []) c.parameters (d.params.getD [])) }

/-- Parameters and results are at least empty lists. -/
def withLists (d : Doclet) : Doclet :=
  { d with params := some (d.params.getD []), returns := some (d.returns.getD []) }

def functionBackfill (d : Doclet) : Doclet :=
  match d.declaration? with
  | none => d.withLists
  | some c => d.withLists.fillCallable c

def functionNotes (d : Doclet) : List Journal.Record :=
  match d.declaration? with
  | none => []
  | some _ =>
    [note "docletkit.enrich" .debug "Function backfill"
      [("operation", .text "function_backfill"), ("longname", Value.ofText? d.longname)]]

end DocComment.Doclet
