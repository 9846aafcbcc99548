import DocComment.Data.Assoc
import DocComment.Dictionary.Hook
import DocComment.Fault
import DocComment.Tag.Basic
import DocComment.Text.Lower

/-! The dictionary of tags. Titles are compared without regard to case, and a
synonym stands for one title. -/

namespace DocComment

/-- How the tags of one title are read and what they do. -/
structure TagDefinition where
  title : String
  synonyms : List String := []
  form : BodyForm := {}
  keepsBlanks : Bool := false
  dropsIndent : Bool := false
  /-- Doclets of this kind carry the title in their longnames. -/
  isNamespace : Bool := false
  hook : Option Hook := none
  propertyHook : Option PropertyHook := none
  deriving DecidableEq, Repr

/-- Definitions by title and titles by synonym, all in lower case. -/
structure Dictionary where
  definitions : List (String × TagDefinition) := []
  synonyms : List (String × String) := []
  deriving DecidableEq, Repr

/-- How a tag is applied after its effect on the identity of the doclet. -/
inductive Handler where
  | hook
  | fallback
  | ignore
  deriving DecidableEq, Repr

def Handler.name : Handler → String
  | .hook => "hook"
  | .fallback => "fallback"
  | .ignore => "ignore"

def Handler.ofDefinition? : Option TagDefinition → Handler
  | none => .fallback
  | some definition => if definition.hook.isSome then .hook else .ignore

namespace TagDefinition

/-- The title and the synonyms in lower case. -/
def names (t : TagDefinition) : List String :=
  Text.lower t.title :: t.synonyms.map Text.lower

end TagDefinition

namespace Dictionary

def isTaken (d : Dictionary) (name : String) : Bool :=
  Assoc.contains name d.definitions || Assoc.contains name d.synonyms

/-- Adds a definition, whatever its names stood for before. -/
def put (d : Dictionary) (t : TagDefinition) : Dictionary where
  definitions := Assoc.insert (Text.lower t.title) t d.definitions
  synonyms := t.synonyms.foldl
    (fun table s => Assoc.insert (Text.lower s) (Text.lower t.title) table) d.synonyms

/-- Adds a definition; a name that is taken is a fault unless it may be
replaced. -/
def define (d : Dictionary) (t : TagDefinition) (replace : Bool) : Except Fault Dictionary :=
  let taken := t.names.filter d.isTaken
  if !replace && !taken.isEmpty then .error (.titleTaken (Text.lower t.title) taken)
  else .ok (d.put t)

/-- The title that a title or synonym stands for. -/
def normalise (d : Dictionary) (title : String) : String :=
  let lowered := Text.lower title
  (d.synonyms.lookup lowered).getD lowered

def lookUp (d : Dictionary) (title : String) : Option TagDefinition :=
  d.definitions.lookup (d.normalise title)

def size (d : Dictionary) : Nat := d.definitions.length

/-- Whether doclets of that kind carry it in their longnames. -/
def isNamespace (d : Dictionary) (kind : Option String) : Bool :=
  match kind with
  | none => false
  | some k =>
    k != "" && match d.definitions.lookup (Text.lower k) with
      | some t => t.isNamespace
      | none => false

/-- Reads a tag as its definition says; an unknown tag has its trimmed text. -/
def makeTag (d : Dictionary) (title : String) (body : Option String) : Tag :=
  match d.lookUp title with
  | none =>
    let text := Text.nonempty? (Tag.trimBody body false false)
    { written := title, title := d.normalise title, text, value := .ofText? text }
  | some t =>
    let trimmed := Tag.trimBody body t.keepsBlanks t.dropsIndent
    let text := Text.nonempty? trimmed
    { written := title
      title := d.normalise title
      text
      value := if t.form.type || t.form.name then .parts (Tag.parseBody t.form trimmed)
        else .ofText? text }

end Dictionary

end DocComment
