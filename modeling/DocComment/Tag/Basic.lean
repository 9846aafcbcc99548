import DocComment.Tag.Body

/-! Tags that have been read with the definition of their title. -/

namespace DocComment

/-- The value of a tag: nothing, its text, or the parts of its body. -/
inductive TagValue where
  | none
  | text (s : String)
  | parts (p : TagParts)
  deriving DecidableEq, Repr

/-- A tag with the title its author wrote and the one it stands for. -/
structure Tag where
  written : String
  title : String
  text : Option String := none
  value : TagValue := .none
  deriving DecidableEq, Repr

namespace TagValue

def ofText? : Option String → TagValue
  | some s => .text s
  | Option.none => .none

/-- The value as plain text, which is the description of parts. -/
def plain? : TagValue → Option String
  | .none => Option.none
  | .text s => some s
  | .parts p => p.description

/-- The value as parts; a text is a mere description. -/
def asParts : TagValue → TagParts
  | .none => {}
  | .text s => { description := some s }
  | .parts p => p

end TagValue

def Tag.plain? (t : Tag) : Option String := t.value.plain?

end DocComment
