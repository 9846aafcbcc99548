import DocComment.Doclet.Basic

/-! Parameters as they are declared, without their wrappers. -/

namespace DocComment

structure DeclaredParam where
  id : String := ""
  type : Option TypeRef := none
  optional : Bool := false
  default : Option TypeRef := none
  deriving DecidableEq, Repr

/-- A parameter with a default is optional. -/
def BasicParam.declared : BasicParam → DeclaredParam
  | .plain p => { id := p.id, type := p.declared, optional := p.optional, default := p.default }
  | .withDefault p =>
    { id := p.left.id, type := p.left.declared, optional := true, default := p.right }

def Param.declared : Param → DeclaredParam
  | .basic p => p.declared
  | .property p => p.parameter.declared

/-- The text of the default value, if there is any. -/
def DeclaredParam.defaultText (p : DeclaredParam) : Option String :=
  said (p.default.map (·.string))

/-- Whether a type has any names. -/
def hasNames (types : Option (List String)) : Bool :=
  match types with
  | some (_ :: _) => true
  | _ => false

def isRestricted (access : Option String) : Bool :=
  access == some "private" || access == some "protected"

namespace Doclet

/-- The facts about the symbol. -/
def facts (d : Doclet) : List Fact := d.place.facts.getD []

def firstFact? (d : Doclet) (wanted : FactTag → Bool) : Option Fact :=
  d.facts.find? fun f => wanted f.tag

end Doclet

end DocComment
