import DocComment.Data.Value
import DocComment.Fact.Basic

/-! Facts as plain data. The kind of a fact comes first and its source text last;
members that hold nothing are left out, except for types and type parameters
that a fact always has. -/

namespace DocComment

namespace Value

def textMember (key s : String) : List (String × Value) :=
  if s = "" then [] else [(key, text s)]

def textMember? (key : String) : Option String → List (String × Value)
  | some s => [(key, text s)]
  | none => []

def flagMember (key : String) (b : Bool) : List (String × Value) :=
  if b then [(key, bool true)] else []

def listMember (key : String) (items : List Value) : List (String × Value) :=
  if items.isEmpty then [] else [(key, list items)]

def member? {α : Type} (key : String) (encode : α → Value) : Option α → List (String × Value)
  | some a => [(key, encode a)]
  | none => []

end Value

open Value

def TypeRef.encode (r : TypeRef) : Value :=
  .object (textMember "string" r.string ++ textMember? "id" r.id)

def TypeParams.encode (p : TypeParams) : Value :=
  .object (textMember "string" p.string ++ listMember "params" (p.params.map .text))

/-- The member that tells which kind of fact an object is. -/
def tagMember (name : String) : String × Value := ("nodeType", .text name)

def PlainParam.members (p : PlainParam) : List (String × Value) :=
  textMember "id" p.id ++ member? "typeAnnotation" TypeRef.encode p.declared ++
    flagMember "optional" p.optional ++ member? "default" TypeRef.encode p.default ++
    textMember "string" p.string

def PlainParam.encode (p : PlainParam) : Value := .object (tagMember "Identifier" :: p.members)

def DefaultParam.members (p : DefaultParam) : List (String × Value) :=
  ("left", p.left.encode) :: member? "right" TypeRef.encode p.right ++
    textMember "string" p.string

def DefaultParam.encode (p : DefaultParam) : Value :=
  .object (tagMember "AssignmentPattern" :: p.members)

def BasicParam.encode : BasicParam → Value
  | .plain p => p.encode
  | .withDefault p => p.encode

def PropertyParam.members (p : PropertyParam) : List (String × Value) :=
  ("parameter", p.parameter.encode) :: textMember? "accessibility" p.accessibility ++
    textMember "string" p.string

def PropertyParam.encode (p : PropertyParam) : Value :=
  .object (tagMember "TSParameterProperty" :: p.members)

def Param.encode : Param → Value
  | .basic p => p.encode
  | .property p => p.encode

def Callable.members (c : Callable) : List (String × Value) :=
  listMember "parameters" (c.parameters.map Param.encode) ++
    ("returnType", c.returnType.encode) :: ("typeParameters", c.typeParams.encode) ::
    textMember? "accessibility" c.accessibility ++ textMember "string" c.string

def ClassFact.members (c : ClassFact) : List (String × Value) :=
  listMember "implements" (c.implements.map TypeRef.encode) ++
    ("superClass", c.superClass.encode) :: textMember "string" c.string

def ClassFieldFact.members (c : ClassFieldFact) : List (String × Value) :=
  textMember? "accessibility" c.accessibility ++ ("typeAnnotation", c.declared.encode) ::
    flagMember "static" c.static ++ textMember "string" c.string

def InterfaceMember.encode (m : InterfaceMember) : Value :=
  .object (textMember "key" m.key ++ flagMember "optional" m.optional ++
    textMember? "type" m.type ++ ("typeAnnotation", m.declared.encode) ::
    listMember "leadingComments" (m.comments.map .text))

def InterfaceFact.members (i : InterfaceFact) : List (String × Value) :=
  listMember "extends" (i.bases.map TypeRef.encode) ++
    ("typeParameters", i.typeParams.encode) ::
    listMember "body" (i.body.map InterfaceMember.encode) ++ textMember "string" i.string

def AliasFact.members (a : AliasFact) : List (String × Value) :=
  ("typeParameters", a.typeParams.encode) :: ("typeAnnotation", a.declared.encode) ::
    textMember "string" a.string

namespace Fact

mutual

def encode : Fact → Value
  | callable form c => .object (tagMember (FactTag.callable form).name :: c.members)
  | wrap form string inner =>
    .object (tagMember (FactTag.wrap form).name :: ("typeAnnotation", encode inner) ::
      textMember "string" string)
  | combo form string types =>
    .object (tagMember (FactTag.combo form).name :: listMember "types" (encodeList types) ++
      textMember "string" string)
  | classDecl c => .object (tagMember FactTag.classDecl.name :: c.members)
  | classField c => .object (tagMember FactTag.classField.name :: c.members)
  | interface i => .object (tagMember FactTag.interface.name :: i.members)
  | typeAlias a => .object (tagMember FactTag.typeAlias.name :: a.members)

def encodeList : List Fact → List Value
  | [] => []
  | f :: rest => encode f :: encodeList rest

end

end Fact

end DocComment
