import DocComment.Data.Clean
import DocComment.Data.Json.Writer
import DocComment.Doclet.Basic
import DocComment.Fact.Encode

/-! Doclets as plain data, in the order of their fields. Whatever is absent is
left out, and all names are in camel case. -/

namespace DocComment

def orNull {α : Type} (encode : α → Value) : Option α → Value
  | some a => encode a
  | none => .null

def encodeTypes (names : List String) : Value := .object [("names", Value.texts names)]

def Mark.encode : Mark → Value
  | .flag b => .bool b
  | .words s => .text s

def TagParts.encode (p : TagParts) : Value :=
  .object
    [("type", orNull encodeTypes p.types), ("name", Value.ofText? p.name),
      ("optional", orNull .bool p.optional), ("nullable", orNull .bool p.nullable),
      ("variable", orNull .bool p.variadic), ("defaultvalue", Value.ofText? p.default),
      ("description", Value.ofText? p.description)]

def TagValue.encode : TagValue → Value
  | .none => .null
  | .text s => .text s
  | .parts p => p.encode

def Tag.encode (t : Tag) : Value :=
  .object
    [("original_title", .text t.written), ("title", .text t.title), ("text", Value.ofText? t.text),
      ("value", t.value.encode)]

def ParamDoc.encode (p : ParamDoc) : Value :=
  .object
    [("name", Value.ofText? p.name), ("type", orNull encodeTypes p.types),
      ("description", Value.ofText? p.description), ("optional", orNull .bool p.optional),
      ("defaultvalue", Value.ofText? p.default), ("nullable", orNull .bool p.nullable),
      ("variable", orNull .bool p.variadic)]

def ResultDoc.encode (r : ResultDoc) : Value :=
  .object [("type", orNull encodeTypes r.types), ("description", Value.ofText? r.description)]

def PropertyDoc.encode (p : PropertyDoc) : Value :=
  .object
    [("name", Value.ofText? p.name), ("type", orNull encodeTypes p.types),
      ("description", Value.ofText? p.description), ("optional", orNull Mark.encode p.optional),
      ("defaultvalue", Value.ofText? p.default), ("nullable", orNull Mark.encode p.nullable),
      ("deprecated", orNull .bool p.deprecated), ("access", Value.ofText? p.access),
      ("readonly", orNull Mark.encode p.readonly),
      ("extras", .object (p.extras.map fun (key, s) => (key, .text s)))]

def Borrowing.encode (b : Borrowing) : Value :=
  .object [("source", .text b.source), ("target", Value.ofText? b.target)]

def Signature.encode (s : Signature) : Value :=
  .object
    [("string", .text s.string), ("type_parameters", s.typeParams.encode),
      ("return_type", s.returnType.encode),
      ("parameters", .list (s.parameters.map ParamDoc.encode))]

def CodeRecord.encode (c : CodeRecord) : Value :=
  .object
    [("id", Value.ofText? c.id), ("name", Value.ofText? c.name), ("type", Value.ofText? c.type),
      ("value", c.value), ("paramnames", orNull Value.texts c.paramNames),
      ("funcscope", Value.ofText? c.funcScope)]

def Placement.encode (p : Placement) : Value :=
  .object
    [("range", orNull (fun ns => .list (ns.map .int)) p.range),
      ("filename", Value.ofText? p.filename), ("lineno", orNull .int p.line),
      ("columnno", orNull .int p.column), ("path", Value.ofText? p.path),
      ("code", p.code.encode), ("extras", orNull (fun fs => .list (Fact.encodeList fs)) p.facts)]

namespace Doclet

def optionalList {α : Type} (encode : α → Value) : Option (List α) → Value :=
  orNull fun items => .list (items.map encode)

/-- All fields, absent ones being null. -/
def members (d : Doclet) : List (String × Value) :=
  [("comment", Value.ofText? d.comment), ("name", Value.ofText? d.name),
    ("longname", Value.ofText? d.longname), ("memberof", Value.ofText? d.memberof),
    ("scope", Value.ofText? d.scope), ("kind", Value.ofText? d.kind),
    ("alias", Value.ofText? d.aliasName), ("variation", Value.ofText? d.variation),
    ("description", Value.ofText? d.description), ("classdesc", Value.ofText? d.classdesc),
    ("summary", Value.ofText? d.summary), ("since", Value.ofText? d.since),
    ("version", Value.ofText? d.version), ("deprecated", orNull Mark.encode d.deprecated),
    ("defaultvalue", Value.ofText? d.defaultValue), ("readonly", orNull .bool d.readonly),
    ("virtual", orNull .bool d.virtual), ("ignore", orNull .bool d.ignore),
    ("is_enum", orNull .bool d.isEnum), ("this", Value.ofText? d.this),
    ("examples", orNull Value.texts d.examples), ("see", orNull Value.texts d.see),
    ("todo", orNull Value.texts d.todo),
    ("exceptions", optionalList ResultDoc.encode d.exceptions),
    ("params", optionalList ParamDoc.encode d.params),
    ("returns", optionalList ResultDoc.encode d.returns),
    ("properties", optionalList PropertyDoc.encode d.properties),
    ("type", orNull encodeTypes d.types),
    ("type_parameters", orNull TypeParams.encode d.typeParams),
    ("augments", orNull Value.texts d.augments),
    ("implements", orNull Value.texts d.implements), ("mixes", orNull Value.texts d.mixes),
    ("borrowed", optionalList Borrowing.encode d.borrowed), ("access", Value.ofText? d.access),
    ("tags", optionalList Tag.encode d.tags),
    ("extras", optionalList Signature.encode d.signatures), ("meta", d.place.encode),
    ("filename", Value.ofText? d.filename), ("sort", orNull .int d.sort)]

def encode (d : Doclet) : Value := (Value.object d.members).clean

/-- The text of a list of doclets. -/
def encodeAll (docs : List Doclet) (pretty : Bool) : String :=
  (if pretty then Json.pretty else Json.compact).write (.list (docs.map encode))

end Doclet

end DocComment
