import DocComment.Comment.Tags
import DocComment.Context
import DocComment.Doclet.Tagging
import DocComment.Enrich.Declared

/-! Spreading the declaration of an interface or type alias over a doclet. The
members of an interface become properties, in the order of their declaration and
side by side with the properties that tags have documented; the comments of a
member add what they tell. -/

namespace DocComment

/-- Something noted about a member. -/
inductive MemberNote where
  | absent
  | flag (b : Bool)
  | words (s : String)
  | types (names : List String)
  deriving DecidableEq, Repr

abbrev MemberNotes := List (String × MemberNote)

namespace MemberNote

def ofText? : Option String → MemberNote
  | some s => .words s
  | none => .absent

def text? : MemberNote → Option String
  | .words s => some s
  | _ => none

def mark? : MemberNote → Option Mark
  | .flag b => some (.flag b)
  | .words s => some (.words s)
  | _ => none

def bool? : MemberNote → Option Bool
  | .flag b => some b
  | _ => none

def names? : MemberNote → Option (List String)
  | .types names => some names
  | _ => none

end MemberNote

namespace PropertyHook

def apply (hook : PropertyHook) (tag : Tag) (notes : MemberNotes) : MemberNotes :=
  match hook with
  | .type =>
    match tag.value.asParts.types with
    | some names => Assoc.insert "type" (.types names) notes
    | none => Assoc.erase "type" notes
  | .readonly => Assoc.insert "readonly" (.flag true) notes
  | .access level =>
    let chosen := (said level).getD (Text.lower (tag.plain?.getD ""))
    if Doclet.accessLevels.contains chosen then Assoc.insert "access" (.words chosen) notes
    else Assoc.erase "access" notes

end PropertyHook

namespace Doclet

/-- Titles with a note of their own. -/
def noteOfTitle (tag : Tag) (notes : MemberNotes) : MemberNotes :=
  match tag.title with
  | "description" => Assoc.insert "description" (.ofText? tag.text) notes
  | "deprecated" => Assoc.insert "deprecated" (.flag true) notes
  | "default" =>
    Assoc.insert "default" (.ofText? tag.text)
      (Assoc.insert "defaultvalue" (.ofText? tag.text) notes)
  | "private" => Assoc.insert "access" (.words "private") notes
  | _ => notes

def hasOwnNote (title : String) : Bool :=
  ["description", "deprecated", "default", "private"].contains title

/-- Notes one tag of a member's comment. -/
def noteTag (dictionary : Dictionary) (notes : MemberNotes) (w : WrittenTag) : MemberNotes :=
  let tag := dictionary.makeTag w.title w.body
  let notes := noteOfTitle tag notes
  match dictionary.lookUp w.title with
  | none => notes
  | some t =>
    if hasOwnNote tag.title then notes
    else
      let notes := Assoc.insert tag.title (.ofText? tag.text) notes
      match t.propertyHook with
      | some hook => hook.apply tag notes
      | none => notes

/-- What the comments of a member tell. -/
def memberNotes (dictionary : Dictionary) (m : InterfaceMember) : MemberNotes :=
  (m.comments.flatMap fun comment => Comment.parse (some comment) none).foldl (noteTag dictionary)
    [("deprecated", .flag false), ("access", .words "public")]

/-- Puts a note into the field it names when the field holds nothing, and
anything else among the extras. -/
def placeNote (p : PropertyDoc) (entry : String × MemberNote) : PropertyDoc :=
  let (key, note) := entry
  match key with
  | "name" => { p with name := (said p.name).or (note.text?.or p.name) }
  | "type" => if hasNames p.types then p else { p with types := note.names?.or p.types }
  | "description" => { p with description := (said p.description).or (note.text?.or p.description) }
  | "optional" => { p with optional := p.optional.or note.mark? }
  | "defaultvalue" => { p with default := (said p.default).or (note.text?.or p.default) }
  | "nullable" => { p with nullable := p.nullable.or note.mark? }
  | "deprecated" => { p with deprecated := p.deprecated.or note.bool? }
  | "access" => { p with access := (said p.access).or (note.text?.or p.access) }
  | "readonly" => { p with readonly := p.readonly.or note.mark? }
  | _ =>
    match note with
    | .words s => { p with extras := Assoc.insertNew key s p.extras }
    | _ => p

/-- A type that was noted as mere text cannot be taken for a type. -/
def typeIsText (p : PropertyDoc) (notes : MemberNotes) : Bool :=
  !hasNames p.types && (notes.lookup "type").any fun note => note.text?.isSome

/-- Merges a member into the property at its place. A type in the comment goes
before the declared one. -/
def mergeMember (dictionary : Dictionary) (p : PropertyDoc) (m : InterfaceMember) :
    Option PropertyDoc :=
  let notes := memberNotes dictionary m
  if typeIsText p notes then none
  else
    let p := if (said p.name).isNone && m.key != "" then { p with name := some m.key } else p
    let p := if m.optional then { p with optional := some (.flag true) } else p
    let p := notes.foldl placeNote p
    let declared := ((said m.type).or (said (some m.declared.string))).getD ""
    some (if !hasNames p.types && declared != "" then
        { p with types := some [Text.trimmed declared] }
      else p)

/-- A property that was documented as part of another one is not a member. -/
def isNested (p : PropertyDoc) : Bool :=
  match (p.name.getD "").toList with
  | [] => false
  | _ :: rest => (p.name.getD "").toList.head? != some '.' && rest.contains '.'

/-- Lines members and properties up. Every member gets a property, and nested
properties in between only the notes that all properties have. The flag tells
that all went well. -/
def alignMembers (dictionary : Dictionary) :
    List InterfaceMember → List PropertyDoc → List PropertyDoc × Bool
  | [], properties => (properties, true)
  | m :: members, [] =>
    match mergeMember dictionary {} m with
    | none => ([], false)
    | some p =>
      let (rest, ok) := alignMembers dictionary members []
      (p :: rest, ok)
  | m :: members, p :: properties =>
    if isNested p then
      match mergeMember dictionary p {} with
      | none => (p :: properties, false)
      | some merged =>
        let (rest, ok) := alignMembers dictionary (m :: members) properties
        (merged :: rest, ok)
    else
      match mergeMember dictionary p m with
      | none => (p :: properties, false)
      | some merged =>
        let (rest, ok) := alignMembers dictionary members properties
        (merged :: rest, ok)
termination_by members properties => members.length + properties.length

def unrollInterface (context : Context) (i : InterfaceFact) (d : Doclet) : Progress :=
  let (properties, ok) := alignMembers context.dictionary i.body (d.properties.getD [])
  { doclet :=
      { d with
        augments := if !i.bases.isEmpty && (d.augments.getD []).isEmpty then
            some (i.bases.map TypeRef.typeId)
          else d.augments
        typeParams := if i.typeParams.string = "" then d.typeParams else some i.typeParams
        types := d.types.or (some [context.settings.interfaceTypeName])
        properties := some properties }
    fault := if ok then none else some .memberTypeText }

def unrollAlias (settings : Settings) (a : AliasFact) (d : Doclet) : Doclet :=
  let name := if a.declared.typeId = "" then settings.aliasTypeName else a.declared.typeId
  { d with
    typeParams := if a.typeParams.string = "" then d.typeParams else some a.typeParams
    types := d.types.or (some [name]) }

/-- The interface or, failing that, the alias that is declared at or below the
node of the symbol. -/
def structure? (d : Doclet) : Option Fact :=
  d.place.code.node.bind fun n =>
    (n.find FactTag.interface.name).or (n.find FactTag.typeAlias.name)

def unrollNote (message : String) (d : Doclet) : Journal.Record :=
  note "docletkit.enrich" .debug message
    [("operation", .text "unroll_structural_type"), ("longname", Value.ofText? d.longname)]

def unrollStructure (context : Context) (d : Doclet) : Progress :=
  match d.structure? with
  | some (.interface i) =>
    let p := unrollInterface context i d
    { p with notes := unrollNote "Unrolling interface" d :: p.notes }
  | some (.typeAlias a) =>
    { doclet := unrollAlias context.settings a d
      notes := [unrollNote "Unrolling type alias" d] }
  | _ => { doclet := d }

end Doclet

end DocComment
