import DocComment.Text.Indent
import DocComment.TypeExpr

/-! Bodies of tags. A body may hold a type in braces, a name or an optional name
in square brackets with a default, and a description, as in
`{(string|number)=} [label="x"] - The label.`; which parts are looked for is up
to the definition of the tag. -/

namespace DocComment

/-- The parts of a body that was taken apart. -/
structure TagParts where
  types : Option (List String) := none
  name : Option String := none
  optional : Option Bool := none
  nullable : Option Bool := none
  variadic : Option Bool := none
  default : Option String := none
  description : Option String := none
  deriving DecidableEq, Repr

/-- Which parts a body may have. A bare type needs no braces. -/
structure BodyForm where
  type : Bool := false
  name : Bool := false
  bareType : Bool := false
  deriving DecidableEq, Repr

namespace Tag

def isLineEnd (c : Char) : Bool := c == '\n' || c == '\r' || c.toNat == 12

/-- Trims a body. When white space is kept, only line ends at the edges go, and
on demand the common indentation. -/
def trimBody (body : Option String) (keepBlanks dropIndent : Bool) : String :=
  let s := (body.getD "").toList
  if keepBlanks then
    let inner := Text.dropEnd isLineEnd (s.dropWhile isLineEnd)
    String.ofList (if dropIndent then Text.dedent inner else inner)
  else String.ofList (Text.trim s)

/-- A type in braces at the beginning, and what follows it. -/
def takeType? (s : List Char) : Option (List Char × List Char) :=
  match Text.trimLeft s with
  | '\x7b' :: rest => TypeExpr.splitClose '\x7b' '\x7d' 0 rest
  | _ => none

/-- The name part of a body. -/
structure NamePart where
  name : Option String := none
  optional : Option Bool := none
  default : Option String := none
  rest : List Char := []

/-- The trimmed text, unless nothing is left of it. -/
def trimmed? (s : List Char) : Option String :=
  Text.nonempty? (String.ofList (Text.trim s))

def takeWord (s : List Char) : NamePart :=
  let (word, rest) := Text.cutWord s
  { name := some (String.ofList word), rest }

def takeName (s : List Char) : NamePart :=
  match Text.trimLeft s with
  | [] => {}
  | '[' :: inner =>
    match TypeExpr.splitClose '[' ']' 0 inner with
    | some (inside, rest) =>
      { name := trimmed? (inside.takeWhile (· != '='))
        optional := some true
        default := trimmed? ((inside.dropWhile (· != '=')).drop 1)
        rest }
    | none => takeWord ('[' :: inner)
  | s => takeWord s

/-- Drops a hyphen that is followed by white space. -/
def dropHyphen (s : List Char) : List Char :=
  match Text.trimLeft s with
  | '-' :: c :: rest => if Text.isBlank c then Text.trimLeft rest else s
  | _ => s

/-- The type of a body, if the form allows one, and what is left. -/
def typePart (form : BodyForm) (s : List Char) : Option TypeExpr × List Char :=
  if form.type then
    match takeType? s with
    | some (inside, rest) => (some (TypeExpr.parseChars inside), rest)
    | none =>
      if form.bareType && !(Text.trim s).isEmpty then (some (TypeExpr.parseChars s), [])
      else (none, s)
  else (none, s)

def parseBodyChars (form : BodyForm) (s : List Char) : TagParts :=
  let (type, s) := typePart form s
  let part := if form.name then takeName s else { rest := s }
  { types := type.map (·.names)
    name := part.name
    optional := part.optional.or (type.bind (·.optional))
    nullable := type.bind (·.nullable)
    variadic := type.bind (·.variadic)
    default := part.default
    description := trimmed? (dropHyphen part.rest) }

def parseBody (form : BodyForm) (body : String) : TagParts := parseBodyChars form body.toList

end Tag

end DocComment
