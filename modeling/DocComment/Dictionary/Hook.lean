/-! What a tag does to a doclet, as data. A hook changes the doclet that the tag
stands on; a property hook changes what is noted about the member of an
interface in whose comment the tag stands. -/

namespace DocComment

/-- Fields of a doclet that hold a text. -/
inductive TextField where
  | comment
  | name
  | longname
  | memberof
  | scope
  | kind
  | aliasName
  | variation
  | description
  | classdesc
  | summary
  | since
  | version
  | deprecated
  | defaultValue
  | this
  | access
  | filename
  deriving DecidableEq, Repr

/-- Fields of a doclet that tell something of it. -/
inductive FlagField where
  | deprecated
  | readonly
  | virtual
  | ignore
  | isEnum
  deriving DecidableEq, Repr

/-- Fields of a doclet that collect texts. -/
inductive ListField where
  | examples
  | see
  | todo
  | augments
  | implements
  | mixes
  deriving DecidableEq, Repr

inductive Hook where
  | setText (field : TextField)
  | setFlag (field : FlagField)
  | setScope (scope : String)
  | setAccess (level : String)
  | appendText (field : ListField)
  /-- Declares a symbol of that kind, perhaps with its type. -/
  | declare (kind : String) (withType : Bool)
  | access
  | augments
  | implements
  | borrows
  | memberof
  | global
  | mixes
  | default
  | deprecated
  | enum
  | param
  | property
  | returns
  | throws
  | type
  deriving DecidableEq, Repr

inductive PropertyHook where
  | type
  | readonly
  /-- Without a level the tag names it. -/
  | access (level : Option String)
  deriving DecidableEq, Repr

end DocComment
