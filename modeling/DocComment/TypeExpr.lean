import DocComment.Text.Blank

/-! Type expressions such as `?(string|Array<number>)=`. -/

namespace DocComment

/-- Names in the order written, and the modifiers around them. A modifier that
was not written is absent. -/
structure TypeExpr where
  names : List String
  optional : Option Bool := none
  nullable : Option Bool := none
  variadic : Option Bool := none
  deriving DecidableEq, Repr

namespace TypeExpr

def isOpening (c : Char) : Bool := c == '(' || c == '<' || c == '\x7b' || c == '['

def isClosing (c : Char) : Bool := c == ')' || c == '>' || c == '\x7d' || c == ']'

/-- Splits what follows an opening bracket at the bracket that closes it. Only
brackets of that kind are counted; `depth` many more are open. -/
def splitClose (opening closing : Char) (depth : Nat) : List Char → Option (List Char × List Char)
  | [] => none
  | c :: rest =>
    if c = opening then
      (splitClose opening closing (depth + 1) rest).map fun (inside, after) => (c :: inside, after)
    else if c = closing then
      match depth with
      | 0 => some ([], rest)
      | depth + 1 =>
        (splitClose opening closing depth rest).map fun (inside, after) => (c :: inside, after)
    else (splitClose opening closing depth rest).map fun (inside, after) => (c :: inside, after)

/-- How far a character changes the number of open brackets, which falls below
zero when a closing bracket has no partner. -/
def bracketStep (c : Char) : Int :=
  if isOpening c then 1 else if isClosing c then -1 else 0

/-- The pieces between the pipes that stand outside all brackets. -/
def splitPipes (depth : Int) : List Char → List (List Char)
  | [] => [[]]
  | c :: rest =>
    let pieces := splitPipes (depth + bracketStep c) rest
    if c = '|' && depth = 0 then [] :: pieces
    else
      match pieces with
      | [] => [[c]]
      | piece :: more => (c :: piece) :: more

def splitNamesChars (s : List Char) : List (List Char) :=
  ((splitPipes 0 s).map Text.trim).filter fun name => !name.isEmpty

/-- The names of a union. -/
def splitNames (s : String) : List String :=
  (splitNamesChars s.toList).map String.ofList

/-- Leading dots make the type variadic. -/
def takeVariadic : List Char → Option Bool × List Char
  | '.' :: '.' :: '.' :: rest => (some true, Text.trimLeft rest)
  | s => (none, s)

def takeNullable : List Char → Option Bool × List Char
  | '?' :: rest => (some true, rest)
  | '!' :: rest => (some false, rest)
  | s => (none, s)

def takeOptional (s : List Char) : Option Bool × List Char :=
  match s.reverse with
  | '=' :: rest => (some true, Text.trimRight rest.reverse)
  | _ => (none, s)

/-- Removes parentheses that enclose the whole text. -/
def dropParentheses : List Char → List Char
  | '(' :: rest =>
    match splitClose '(' ')' 0 rest with
    | some (inside, []) => inside
    | _ => '(' :: rest
  | s => s

def parseChars (s : List Char) : TypeExpr :=
  let (variadic, s) := takeVariadic (Text.trim s)
  let (nullable, s) := takeNullable s
  let (optional, s) := takeOptional s
  { names := (splitNamesChars (dropParentheses s)).map String.ofList
    optional, nullable, variadic }

/-- Reads what stands between the braces of a type expression. -/
def parse (s : String) : TypeExpr := parseChars s.toList

end TypeExpr

end DocComment
