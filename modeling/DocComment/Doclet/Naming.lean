import DocComment.Dictionary.Basic
import DocComment.Doclet.Progress

/-! Finding the longname of a doclet. A doclet with a parent is named after it
with the mark of its scope; a doclet without one whose own name is qualified is
taken apart. A scope is only filled in where none is set. -/

namespace DocComment.Doclet

/-- Sets the longname. Kinds that are namespaces put themselves before the last
part. -/
def setLongname (dictionary : Dictionary) (d : Doclet) (name : String) : Doclet :=
  let longname := Longname.dropGlobal name
  { d with
    longname := some <|
      if dictionary.isNamespace d.kind then Longname.addNamespace longname (d.kind.getD "")
      else longname }

def fillScope (d : Doclet) (scope : Scope) : Doclet :=
  if d.scope.isNone then { d with scope := some scope.name } else d

def fillScopeOf (d : Doclet) (mark : Char) : Doclet :=
  match Scope.ofMark? mark with
  | some scope => d.fillScope scope
  | none => d

/-- The mark between a parent and a member with the scope of the doclet. -/
def scopeMark (d : Doclet) : Char :=
  ((d.scope.bind Scope.ofName?).bind Scope.mark?).getD '.'

/-- The name to start from, with prototypes read as instance marks. -/
def nameToResolve (d : Doclet) : List Char :=
  Longname.memberChars
    ((((said d.aliasName).or (said d.name)).or (said d.place.code.name)).getD "").toList

/-- A mark at the end of the parent tells the scope and goes. -/
def takeParentMark (d : Doclet) : Doclet :=
  match (d.memberof.getD "").toList.reverse with
  | [] => d
  | mark :: rest =>
    if Longname.isMark mark then
      { d.fillScopeOf mark with memberof := some (String.ofList rest.reverse) }
    else d

/-- The mark and the rest of a name that begins with its parent. -/
def underParent? (parent name : List Char) : Option (Char × List Char) :=
  Longname.marks.findSome? fun mark =>
    match Text.dropStart? (parent ++ [mark]) name with
    | some (c :: rest) => some (mark, c :: rest)
    | _ => none

/-- Names a doclet that has a parent. -/
def resolveMember (dictionary : Dictionary) (d : Doclet) (parent name : List Char) : Doclet :=
  let (d, name) := match underParent? parent name with
    | some (mark, rest) => (d.fillScopeOf mark, rest)
    | none => (d, name)
  let d := d.fillScope .static
  setLongname dictionary { d with name := some (String.ofList name) }
    (String.ofList (parent ++ d.scopeMark :: name))

/-- Names a doclet without a parent. -/
def resolveQualified (dictionary : Dictionary) (d : Doclet) (name : List Char) : Doclet :=
  let parts := Longname.splitChars name
  let d :=
    if parts.parent.isEmpty then { d with name := some (String.ofList name) }
    else
      let d := d.setMemberof (String.ofList parts.parent)
      let d := match parts.mark with
        | some mark => d.fillScopeOf mark
        | none => d
      { d with name := some (String.ofList parts.name) }
  setLongname dictionary d (String.ofList name)

def resolve (dictionary : Dictionary) (d : Doclet) : Doclet :=
  let name := d.nameToResolve
  if name.isEmpty then d
  else
    let d := d.takeParentMark
    let parent := (d.memberof.getD "").toList
    if parent.isEmpty then resolveQualified dictionary d name
    else resolveMember dictionary d parent name

/-- Resolving is noted when there is a name to resolve. -/
def tryResolve (dictionary : Dictionary) (d : Doclet) : Progress where
  doclet := d.resolve dictionary
  notes :=
    let resolved := d.resolve dictionary
    if d.nameToResolve.isEmpty then []
    else
      [note "docletkit.names" .debug "Resolved longname"
        [("operation", .text "resolve"), ("longname", Value.ofText? resolved.longname),
          ("scope", Value.ofText? resolved.scope)]]

end DocComment.Doclet
