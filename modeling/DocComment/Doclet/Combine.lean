import DocComment.Doclet.Basic

/-! Combining two doclets into a new one. What the first one has goes before what
the second one has; parameters and properties are taken whole, and an empty list
gives way to one that is not. -/

namespace DocComment.Doclet

/-- The first list if it has entries or the second has none. -/
def preferFilled {α : Type} (first second : Option (List α)) : Option (List α) :=
  match first, second with
  | some (a :: rest), _ => some (a :: rest)
  | some [], some (b :: rest) => some (b :: rest)
  | some [], _ => some []
  | none, other => other

/-- Code record and list of facts of the new doclet are its own; node, twin and
context stay shared. `stamp` is the number of the operation. -/
def combine (stamp : Nat) (first second : Doclet) : Doclet where
  comment := first.comment.or second.comment
  name := first.name.or second.name
  longname := first.longname.or second.longname
  memberof := first.memberof.or second.memberof
  scope := first.scope.or second.scope
  kind := first.kind.or second.kind
  aliasName := first.aliasName.or second.aliasName
  variation := first.variation.or second.variation
  description := first.description.or second.description
  classdesc := first.classdesc.or second.classdesc
  summary := first.summary.or second.summary
  since := first.since.or second.since
  version := first.version.or second.version
  deprecated := first.deprecated.or second.deprecated
  defaultValue := first.defaultValue.or second.defaultValue
  readonly := first.readonly.or second.readonly
  virtual := first.virtual.or second.virtual
  ignore := first.ignore.or second.ignore
  isEnum := first.isEnum.or second.isEnum
  this := first.this.or second.this
  examples := first.examples.or second.examples
  see := first.see.or second.see
  todo := first.todo.or second.todo
  exceptions := first.exceptions.or second.exceptions
  params := preferFilled first.params second.params
  returns := first.returns.or second.returns
  properties := preferFilled first.properties second.properties
  types := first.types.or second.types
  typeParams := first.typeParams.or second.typeParams
  augments := first.augments.or second.augments
  implements := first.implements.or second.implements
  mixes := first.mixes.or second.mixes
  borrowed := first.borrowed.or second.borrowed
  access := first.access.or second.access
  tags := first.tags.or second.tags
  signatures := first.signatures.or second.signatures
  place := first.place
  filename := first.filename.or second.filename
  sort := first.sort.or second.sort
  links :=
    { code := stamp
      node := first.links.node
      facts := stamp
      twin := first.links.twin
      context := first.links.context.or second.links.context }

end DocComment.Doclet
