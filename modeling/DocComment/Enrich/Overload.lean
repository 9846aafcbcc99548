import DocComment.Doclet.Progress
import DocComment.Enrich.Declared
import DocComment.Settings.Basic

/-! Bringing the call signatures of an overloaded function together. A union
grows to at most two entries, and the second place of a full one is taken by a
marker. Every distinct signature is recorded. -/

namespace DocComment

namespace Fact

mutual

/-- The call signatures in a fact, looking through parentheses, unions and
intersections. -/
def signatures : Fact → List Callable
  | callable .functionType c => [c]
  | callable .declaredFunction c => [c]
  | callable .declaredMethod c => [c]
  | wrap _ _ inner => signatures inner
  | combo _ _ types => signaturesOf types
  | _ => []

def signaturesOf : List Fact → List Callable
  | [] => []
  | f :: rest => signatures f ++ signaturesOf rest

end

end Fact

/-- Adds a type to a union, and tells whether it found a place there. -/
def growUnion (marker : String) (names : List String) (type : String) : List String × Bool :=
  if names.contains type then (names, false)
  else
    match names with
    | [] => ([type], true)
    | [one] => ([one, marker], false)
    | _ => (names, false)

/-- Whether `part` occurs in a text. -/
def occursIn (part : List Char) : List Char → Bool
  | [] => part.isEmpty
  | c :: rest => part.isPrefixOf (c :: rest) || occursIn part rest

namespace Doclet

/-- Adds the result type of a signature. -/
def mergeReturn (marker : String) (declared : TypeRef) (returns : List ResultDoc) :
    List ResultDoc × Bool :=
  match returns with
  | [] =>
    if declared.string = "" then ([], false)
    else ([{ types := some [declared.typeId], description := some "" }], true)
  | first :: rest =>
    if declared.typeId = "" then (returns, false)
    else
      let (names, grew) := growUnion marker (first.types.getD []) declared.typeId
      ({ first with types := some names } :: rest, grew)

/-- Adds the type of one declared parameter, unless the parameter is variadic. -/
def mergeParam (settings : Settings) (name : Option String) (p : DeclaredParam) (doc : ParamDoc) :
    ParamDoc × Bool :=
  let id := (((said doc.name).or (said name)).or (said (some p.id))).getD ""
  let type := (p.type.map TypeRef.typeId).getD ""
  if occursIn settings.variadicMarker.toList id.toList || type = "" then (doc, false)
  else
    let (names, grew) := growUnion settings.truncationMarker (doc.types.getD []) type
    ({ doc with types := some names }, grew)

/-- Goes through the declared parameters with their documentation. -/
def mergeParams (settings : Settings) :
    List String → List Param → List ParamDoc → List ParamDoc × Bool
  | names, p :: declared, doc :: docs =>
    let (doc, grew) := mergeParam settings names.head? p.declared doc
    let (docs, more) := mergeParams settings names.tail declared docs
    (doc :: docs, grew || more)
  | _, _, docs => (docs, false)

/-- A parameter of a recorded signature. -/
def signatureParam (p : DeclaredParam) : ParamDoc where
  name := some p.id
  types := some ((p.type.filter fun t => t.string != "").toList.map TypeRef.typeId)
  description := some ""
  optional := if p.optional then some true else none

/-- Records a signature unless one with the same text is there. -/
def recordSignature (c : Callable) (signatures : List Signature) : List Signature :=
  if signatures.any (·.string == c.string) then signatures
  else signatures ++
    [{ string := c.string
       typeParams := c.typeParams
       returnType := c.returnType
       parameters := c.parameters.map fun p => signatureParam p.declared }]

/-- Type parameters are taken over from a signature that added something and has
more of them. -/
def mergeTypeParams (current : Option TypeParams) (grew : Bool) (declared : TypeParams) :
    Option TypeParams :=
  let arity := (current.map (·.params.length)).getD 0
  if grew && declared.string != "" && arity < declared.params.length then some declared
  else current

/-- Merges one signature. With `settled` the documented result type stays. -/
def mergeSignature (settings : Settings) (settled : Bool) (d : Doclet) (c : Callable) : Doclet :=
  let (returns, grewReturns) :=
    if settled then (d.returns.getD [], false)
    else mergeReturn settings.truncationMarker c.returnType (d.returns.getD [])
  let (params, grewParams) :=
    mergeParams settings (d.place.code.paramNames.getD []) c.parameters (d.params.getD [])
  { d with
    returns := some returns
    params := some params
    typeParams := mergeTypeParams d.typeParams (grewReturns || grewParams) c.typeParams
    signatures := some (recordSignature c (d.signatures.getD [])) }

/-- Whether the first result is documented with a type. -/
def returnSettled (d : Doclet) : Bool :=
  match d.returns with
  | some (first :: _) => hasNames first.types
  | _ => false

def reconcileOverloads (settings : Settings) (d : Doclet) : Doclet :=
  if d.facts.isEmpty then d
  else
    let start := { d with params := some (d.params.getD []), returns := some (d.returns.getD []) }
    (Fact.signaturesOf d.facts).foldl (mergeSignature settings d.returnSettled) start

def overloadNotes (d : Doclet) : List Journal.Record :=
  (Fact.signaturesOf d.facts).map fun c =>
    note "docletkit.enrich" .debug "Reconciling overload"
      [("operation", .text "reconcile_overloads"), ("signature", .text c.string)]

end Doclet

end DocComment
