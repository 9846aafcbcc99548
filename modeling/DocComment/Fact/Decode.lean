import DocComment.Data.Decode
import DocComment.Fact.Basic

/-! Reading facts from plain data. The tag of a fact is looked at before its
other members, unknown members are passed over, and members that a fact must
have are asked for last. -/

namespace DocComment

def TypeRef.read (r : TypeRef) (key : String) (v : Value) : Decode TypeRef :=
  match key with
  | "string" => do return { r with string := ← Decode.text v }
  | "id" => do return { r with id := ← Decode.text? v }
  | _ => return r

def TypeRef.decode : Value → Decode TypeRef := Decode.object TypeRef.read {}

def TypeRef.decode? : Value → Decode (Option TypeRef) := Decode.object? TypeRef.read {}

def TypeParams.read (p : TypeParams) (key : String) (v : Value) : Decode TypeParams :=
  match key with
  | "string" => do return { p with string := ← Decode.text v }
  | "params" => do return { p with params := ← Decode.list Decode.text v }
  | _ => return p

def TypeParams.decode : Value → Decode TypeParams := Decode.object TypeParams.read {}

namespace Decode

/-- The tag that an object must have when several kinds are possible. -/
def tag {α : Type} (ofName? : String → Option α) (ms : List (String × Value)) : Decode α :=
  match ms.lookup "nodeType" with
  | none => .error ⟨[], .missing "nodeType"⟩
  | some (.text s) =>
    match ofName? s with
    | some a => .ok a
    | none => .error ⟨[.field "nodeType"], .unknownTag s⟩
  | some v => .error ⟨[.field "nodeType"], .shape .text false v.tagShapeName⟩

/-- The tag of an object of which only one kind is possible. -/
def onlyTag (name : String) : Value → Decode Unit
  | .text s => if s = name then .ok () else .error ⟨[], .unknownTag s⟩
  | v => .error ⟨[], .shape .text false v.tagShapeName⟩

end Decode

def PlainParam.read (p : PlainParam) (key : String) (v : Value) : Decode PlainParam :=
  match key with
  | "id" => do return { p with id := ← Decode.text v }
  | "typeAnnotation" => do return { p with declared := ← TypeRef.decode? v }
  | "optional" => do return { p with optional := ← Decode.bool v }
  | "default" => do return { p with default := ← TypeRef.decode? v }
  | "string" => do return { p with string := ← Decode.text v }
  | _ => return p

/-- The left side of a parameter with a default can only be a plain parameter, so
its tag is one member among others. -/
def PlainParam.readTagged (p : PlainParam) (key : String) (v : Value) : Decode PlainParam :=
  match key with
  | "nodeType" => do
    Decode.onlyTag "Identifier" v
    return p
  | _ => p.read key v

/-- A parameter with a default while it is being read. -/
structure DefaultParamDraft where
  string : String := ""
  left : Option PlainParam := none
  right : Option TypeRef := none

def DefaultParamDraft.read (d : DefaultParamDraft) (key : String) (v : Value) :
    Decode DefaultParamDraft :=
  match key with
  | "left" => do return { d with left := some (← Decode.object PlainParam.readTagged {} v) }
  | "right" => do return { d with right := ← TypeRef.decode? v }
  | "string" => do return { d with string := ← Decode.text v }
  | _ => return d

def DefaultParamDraft.finish (d : DefaultParamDraft) : Decode DefaultParam :=
  match d.left with
  | some left => .ok { string := d.string, left, right := d.right }
  | none => .error ⟨[], .missing "left"⟩

inductive ParamTag where
  | plain
  | withDefault
  | property
  deriving DecidableEq, Repr

def ParamTag.basicOfName? : String → Option ParamTag
  | "Identifier" => some .plain
  | "AssignmentPattern" => some .withDefault
  | _ => none

def ParamTag.ofName? : String → Option ParamTag
  | "TSParameterProperty" => some .property
  | s => basicOfName? s

def BasicParam.decodeMembers (withDefault : Bool) (ms : List (String × Value)) :
    Decode BasicParam := do
  if withDefault then
    let draft ← Decode.members DefaultParamDraft.read {} ms
    return .withDefault (← draft.finish)
  else return .plain (← Decode.members PlainParam.read {} ms)

def BasicParam.decode : Value → Decode BasicParam
  | .object ms => do
    let tag ← Decode.tag ParamTag.basicOfName? ms
    decodeMembers (tag == .withDefault) ms
  | v => Decode.wrong .object false v

structure PropertyParamDraft where
  string : String := ""
  parameter : Option BasicParam := none
  accessibility : Option String := none

def PropertyParamDraft.read (d : PropertyParamDraft) (key : String) (v : Value) :
    Decode PropertyParamDraft :=
  match key with
  | "parameter" => do return { d with parameter := some (← BasicParam.decode v) }
  | "accessibility" => do return { d with accessibility := ← Decode.text? v }
  | "string" => do return { d with string := ← Decode.text v }
  | _ => return d

def PropertyParamDraft.finish (d : PropertyParamDraft) : Decode PropertyParam :=
  match d.parameter with
  | some parameter => .ok { string := d.string, parameter, accessibility := d.accessibility }
  | none => .error ⟨[], .missing "parameter"⟩

def Param.decode : Value → Decode Param
  | .object ms => do
    match ← Decode.tag ParamTag.ofName? ms with
    | .property =>
      let draft ← Decode.members PropertyParamDraft.read {} ms
      return .property (← draft.finish)
    | tag => return .basic (← BasicParam.decodeMembers (tag == .withDefault) ms)
  | v => Decode.wrong .object false v

def Callable.read (c : Callable) (key : String) (v : Value) : Decode Callable :=
  match key with
  | "parameters" => do return { c with parameters := ← Decode.list Param.decode v }
  | "returnType" => do return { c with returnType := ← TypeRef.decode v }
  | "typeParameters" => do return { c with typeParams := ← TypeParams.decode v }
  | "accessibility" => do return { c with accessibility := ← Decode.text? v }
  | "string" => do return { c with string := ← Decode.text v }
  | _ => return c

def ClassFact.read (c : ClassFact) (key : String) (v : Value) : Decode ClassFact :=
  match key with
  | "implements" => do return { c with implements := ← Decode.list TypeRef.decode v }
  | "superClass" => do return { c with superClass := ← TypeRef.decode v }
  | "string" => do return { c with string := ← Decode.text v }
  | _ => return c

def ClassFieldFact.read (c : ClassFieldFact) (key : String) (v : Value) :
    Decode ClassFieldFact :=
  match key with
  | "accessibility" => do return { c with accessibility := ← Decode.text? v }
  | "typeAnnotation" => do return { c with declared := ← TypeRef.decode v }
  | "static" => do return { c with static := ← Decode.bool v }
  | "string" => do return { c with string := ← Decode.text v }
  | _ => return c

def InterfaceMember.read (m : InterfaceMember) (key : String) (v : Value) :
    Decode InterfaceMember :=
  match key with
  | "key" => do return { m with key := ← Decode.text v }
  | "optional" => do return { m with optional := ← Decode.bool v }
  | "type" => do return { m with type := ← Decode.text? v }
  | "typeAnnotation" => do return { m with declared := ← TypeRef.decode v }
  | "leadingComments" => do return { m with comments := ← Decode.list Decode.text v }
  | _ => return m

def InterfaceFact.read (i : InterfaceFact) (key : String) (v : Value) : Decode InterfaceFact :=
  match key with
  | "extends" => do return { i with bases := ← Decode.list TypeRef.decode v }
  | "typeParameters" => do return { i with typeParams := ← TypeParams.decode v }
  | "body" => do
    return { i with body := ← Decode.list (Decode.object InterfaceMember.read {}) v }
  | "string" => do return { i with string := ← Decode.text v }
  | _ => return i

def AliasFact.read (a : AliasFact) (key : String) (v : Value) : Decode AliasFact :=
  match key with
  | "typeParameters" => do return { a with typeParams := ← TypeParams.decode v }
  | "typeAnnotation" => do return { a with declared := ← TypeRef.decode v }
  | "string" => do return { a with string := ← Decode.text v }
  | _ => return a

/-- The members of a fact that holds other facts, while they are being read. -/
structure NestDraft where
  string : String := ""
  inner : Option Fact := none
  types : List Fact := []

namespace Fact

mutual

def decode : Value → Decode Fact
  | .object ms => do
    match ← Decode.tag FactTag.ofName? ms with
    | .callable form => return callable form (← Decode.members Callable.read {} ms)
    | .classDecl => return classDecl (← Decode.members ClassFact.read {} ms)
    | .classField => return classField (← Decode.members ClassFieldFact.read {} ms)
    | .interface => return interface (← Decode.members InterfaceFact.read {} ms)
    | .typeAlias => return typeAlias (← Decode.members AliasFact.read {} ms)
    | .wrap form =>
      let draft ← readNest true {} ms
      match draft.inner with
      | some inner => return wrap form draft.string inner
      | none => .error ⟨[], .missing "typeAnnotation"⟩
    | .combo form =>
      let draft ← readNest false {} ms
      return combo form draft.string draft.types
  | v => Decode.wrong .object false v

/-- `single` tells a fact around one other from one put together of several. -/
def readNest (single : Bool) (d : NestDraft) : List (String × Value) → Decode NestDraft
  | [] => .ok d
  | (key, v) :: rest => do
    let d ← Decode.member key v <|
      if key = "typeAnnotation" && single then do return { d with inner := some (← decode v) }
      else if key = "types" && !single then do return { d with types := ← decodeList v }
      else if key = "string" then do return { d with string := ← Decode.text v }
      else return d
    readNest single d rest

def decodeList : Value → Decode (List Fact)
  | .list vs => decodeItems 0 vs
  | v => Decode.wrong .list false v

def decodeItems (index : Nat) : List Value → Decode (List Fact)
  | [] => .ok []
  | v :: rest => do
    let f ← Decode.under (.item index) (decode v)
    let more ← decodeItems (index + 1) rest
    return f :: more

end

end Fact

end DocComment
