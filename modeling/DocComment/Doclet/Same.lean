import DocComment.Doclet.Basic

/-! Equality of doclets by their content. Links, syntax nodes and source records
do not count. -/

namespace DocComment

def CodeRecord.same (c d : CodeRecord) : Bool :=
  c.id == d.id && c.name == d.name && c.type == d.type && c.value.agrees d.value &&
    c.paramNames == d.paramNames && c.funcScope == d.funcScope

def sameFacts : Option (List Fact) → Option (List Fact) → Bool
  | none, none => true
  | some fs, some gs => Fact.sameList fs gs
  | _, _ => false

def Placement.same (p q : Placement) : Bool :=
  p.range == q.range && p.filename == q.filename && p.line == q.line && p.column == q.column &&
    p.path == q.path && p.code.same q.code && sameFacts p.facts q.facts

/-- The order of the extras does not count. -/
def PropertyDoc.same (p q : PropertyDoc) : Bool :=
  { p with extras := [] } == { q with extras := [] } &&
    p.extras.length == q.extras.length &&
    p.extras.all fun (key, s) => q.extras.lookup key == some s

def sameProperties : Option (List PropertyDoc) → Option (List PropertyDoc) → Bool
  | none, none => true
  | some ps, some qs => ps.length == qs.length && (ps.zip qs).all fun (p, q) => p.same q
  | _, _ => false

namespace Doclet

def sameTexts (d e : Doclet) : Bool :=
  d.comment == e.comment && d.name == e.name && d.longname == e.longname &&
    d.memberof == e.memberof && d.scope == e.scope && d.kind == e.kind &&
    d.aliasName == e.aliasName &&
    d.variation == e.variation && d.description == e.description && d.classdesc == e.classdesc &&
    d.summary == e.summary && d.since == e.since && d.version == e.version &&
    d.defaultValue == e.defaultValue && d.this == e.this && d.access == e.access &&
    d.filename == e.filename

def sameFlags (d e : Doclet) : Bool :=
  d.deprecated == e.deprecated && d.readonly == e.readonly && d.virtual == e.virtual &&
    d.ignore == e.ignore && d.isEnum == e.isEnum && d.sort == e.sort

def sameLists (d e : Doclet) : Bool :=
  d.examples == e.examples && d.see == e.see && d.todo == e.todo &&
    d.exceptions == e.exceptions && d.params == e.params && d.returns == e.returns &&
    sameProperties d.properties e.properties && d.types == e.types &&
    d.typeParams == e.typeParams &&
    d.augments == e.augments && d.implements == e.implements && d.mixes == e.mixes &&
    d.borrowed == e.borrowed && d.tags == e.tags && d.signatures == e.signatures

def same (d e : Doclet) : Bool :=
  d.sameTexts e && d.sameFlags e && d.sameLists e && d.place.same e.place

end Doclet

end DocComment
