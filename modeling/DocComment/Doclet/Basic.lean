import DocComment.Longname
import DocComment.Path
import DocComment.Source
import DocComment.Tag.Basic

/-! Doclets: the structured documentation of one symbol. Whatever has not been
said is absent, which is not the same as being empty. -/

namespace DocComment

/-- Something that is told by a mere flag or with words. -/
inductive Mark where
  | flag (b : Bool)
  | words (s : String)
  deriving DecidableEq, Repr

structure ParamDoc where
  name : Option String := none
  types : Option (List String) := none
  description : Option String := none
  optional : Option Bool := none
  default : Option String := none
  nullable : Option Bool := none
  variadic : Option Bool := none
  deriving DecidableEq, Repr

/-- A value that is returned or an error that is thrown. -/
structure ResultDoc where
  types : Option (List String) := none
  description : Option String := none
  deriving DecidableEq, Repr

/-- A member of an object or interface. Tags without a place of their own are
kept in `extras`. -/
structure PropertyDoc where
  name : Option String := none
  types : Option (List String) := none
  description : Option String := none
  optional : Option Mark := none
  default : Option String := none
  nullable : Option Mark := none
  deprecated : Option Bool := none
  access : Option String := none
  readonly : Option Mark := none
  extras : List (String × String) := []
  deriving DecidableEq, Repr

/-- A symbol taken over from elsewhere, perhaps under a new name. -/
structure Borrowing where
  source : String
  target : Option String
  deriving DecidableEq, Repr

/-- One of the call signatures of an overloaded function. -/
structure Signature where
  string : String
  typeParams : TypeParams
  returnType : TypeRef
  parameters : List ParamDoc
  deriving DecidableEq, Repr

/-- What is known about the code of the symbol. The node and the record that it
was taken from lead into the syntax tree and are no part of the content. -/
structure CodeRecord where
  id : Option String := none
  name : Option String := none
  type : Option String := none
  value : Value := .null
  paramNames : Option (List String) := none
  funcScope : Option String := none
  source : Option SourceSymbol := none
  node : Option SyntaxNode := none
  deriving Inhabited

structure Placement where
  range : Option (List Int) := none
  filename : Option String := none
  line : Option Int := none
  column : Option Int := none
  path : Option String := none
  code : CodeRecord := {}
  facts : Option (List Fact) := none
  deriving Inhabited

/-- How a doclet hangs together with others. Two doclets with the same number for
their code have one code record in common, and likewise for the syntax node and
the list of facts; the numbers are those of the operations that made them. The
twin and the context are numbered too. -/
structure Links where
  code : Nat := 0
  node : Nat := 0
  facts : Nat := 0
  twin : Option Nat := none
  context : Option Nat := none
  deriving DecidableEq, Repr, Inhabited

structure Doclet where
  comment : Option String := none
  name : Option String := none
  longname : Option String := none
  memberof : Option String := none
  scope : Option String := none
  kind : Option String := none
  aliasName : Option String := none
  variation : Option String := none
  description : Option String := none
  classdesc : Option String := none
  summary : Option String := none
  since : Option String := none
  version : Option String := none
  deprecated : Option Mark := none
  defaultValue : Option String := none
  readonly : Option Bool := none
  virtual : Option Bool := none
  ignore : Option Bool := none
  isEnum : Option Bool := none
  this : Option String := none
  examples : Option (List String) := none
  see : Option (List String) := none
  todo : Option (List String) := none
  exceptions : Option (List ResultDoc) := none
  params : Option (List ParamDoc) := none
  returns : Option (List ResultDoc) := none
  properties : Option (List PropertyDoc) := none
  types : Option (List String) := none
  typeParams : Option TypeParams := none
  augments : Option (List String) := none
  implements : Option (List String) := none
  mixes : Option (List String) := none
  borrowed : Option (List Borrowing) := none
  access : Option String := none
  tags : Option (List Tag) := none
  signatures : Option (List Signature) := none
  place : Placement := {}
  filename : Option String := none
  sort : Option Int := none
  links : Links := {}
  deriving Inhabited

/-- A text that says nothing is as good as none. -/
def said (s : Option String) : Option String := s.filter (· != "")

theorem said_eq_some {x : Option String} {s : String} : said x = some s ↔ x = some s ∧ s ≠ "" := by
  simp [said, Option.filter_eq_some_iff]

/-- Adds to a list that need not be there yet. -/
def added {α : Type} (items : Option (List α)) (a : α) : Option (List α) :=
  some (items.getD [] ++ [a])

namespace Doclet

/-- The path of the source file, empty when it is not known. -/
def filepath (d : Doclet) : String :=
  match said d.place.filename with
  | none => ""
  | some name => ((Path.parse (d.place.path.getD "")).join (Path.parse name)).text

def setMemberof (d : Doclet) (parent : String) : Doclet :=
  { d with memberof := some (Longname.parent parent) }

/-- The first kind stays. -/
def setKind (d : Doclet) (kind : Option String) : Doclet :=
  match said d.kind, said kind with
  | none, some k => { d with kind := some k }
  | _, _ => d

/-- The first access level stays. -/
def setAccess (d : Doclet) (level : Option String) : Doclet :=
  if d.access.isNone then { d with access := level } else d

theorem setAccess_eq (d : Doclet) (level : Option String) :
    d.setAccess level = { d with access := d.access.or level } := by
  unfold setAccess
  cases h : d.access with
  | none => rfl
  | some a =>
    rw [Option.some_or, ← h]
    exact if_neg (by simp [h])

def borrow (d : Doclet) (source : String) (target : Option String) : Doclet :=
  { d with borrowed := added d.borrowed ⟨source, target⟩ }

def mix (d : Doclet) (source : String) : Doclet := { d with mixes := added d.mixes source }

def augment (d : Doclet) (base : String) : Doclet := { d with augments := added d.augments base }

/-- Takes over the place of a source record: the position only with a line
number, and of the rest whatever says something. `stamp` is the number of the
operation. -/
def setPlace (d : Doclet) (stamp : Nat) (source : Source) : Doclet :=
  let place := match source.range with
    | some range => { d.place with range := some range }
    | none => d.place
  let place := match source.line.filter (· != 0) with
    | some line =>
      let path := Path.parse (source.filename.getD "")
      let parent := path.parent.text
      { place with
        filename := some (String.ofList path.name)
        line := some line
        column := source.column
        path := if parent = "." then place.path else some parent }
    | none => place
  let code := { place.code with id := (said source.id).or place.code.id }
  match source.code with
  | none => { d with place := { place with code } }
  | some symbol =>
    let facts := symbol.facts.filter fun fs => !fs.isEmpty
    { d with
      place :=
        { place with
          facts := facts.or place.facts
          code :=
            { code with
              source := some symbol
              name := (said symbol.name).or code.name
              type := (said symbol.type).or code.type
              node := symbol.node.or code.node
              funcScope := (said symbol.funcScope).or code.funcScope
              value := match symbol.value with
                | .null => code.value
                | v => v
              paramNames := (symbol.paramNames.filter fun ns => !ns.isEmpty).or code.paramNames } }
      links :=
        { d.links with
          facts := if facts.isSome then stamp else d.links.facts
          node := if symbol.node.isSome then stamp else d.links.node } }

end Doclet

end DocComment
