import DocComment.Text.Replace

/-! Longnames. A longname joins the longname of a parent and the name of a
member with a mark that tells the scope: `~` for inner, `#` for instance and `.`
for static members. The kinds `module`, `external` and `event` put their name
and a colon before the last part. -/

namespace DocComment

/-- Where a symbol lives relative to its parent. -/
inductive Scope where
  | global
  | inner
  | ofInstance
  | static
  deriving DecidableEq, Repr

namespace Scope

def all : List Scope := [.global, .inner, .ofInstance, .static]

def name : Scope → String
  | .global => "global"
  | .inner => "inner"
  | .ofInstance => "instance"
  | .static => "static"

def ofName? (s : String) : Option Scope := all.find? (·.name == s)

def mark? : Scope → Option Char
  | .global => none
  | .inner => some '~'
  | .ofInstance => some '#'
  | .static => some '.'

def ofMark? (c : Char) : Option Scope := all.find? (·.mark? == some c)

end Scope

namespace Longname

/-- The scope marks, in the order in which a parent is looked for. -/
def marks : List Char := ['~', '#', '.']

def isMark (c : Char) : Bool := marks.contains c

/-- The reserved name of the global object. -/
def globalName : List Char := "<global>".toList

def dropGlobalChars (s : List Char) : List Char :=
  match Text.dropStart? globalName s with
  | some ('.' :: rest) => rest
  | some rest => rest
  | none => s

/-- Drops the name of the global object, and a point after it, from the
beginning. -/
def dropGlobal (s : String) : String := String.ofList (dropGlobalChars s.toList)

/-- The state of the search for a mark: how many brackets are open, and the
quote that has to be met again. -/
structure Nesting where
  depth : Nat := 0
  quote : Option Char := none
  deriving DecidableEq, Repr

namespace Nesting

def isOpening (c : Char) : Bool := c == '(' || c == '[' || c == '<' || c == '\x7b'

def isClosing (c : Char) : Bool := c == ')' || c == ']' || c == '>' || c == '\x7d'

/-- Nothing counts inside quotes, and a closing bracket without partner is
passed over. -/
def step (n : Nesting) (c : Char) : Nesting :=
  match n.quote with
  | some q => if c = q then { n with quote := none } else n
  | none =>
    if c = '"' || c = '\'' then { n with quote := some c }
    else if isOpening c then { n with depth := n.depth + 1 }
    else if isClosing c then { n with depth := n.depth - 1 }
    else n

/-- Outside all brackets and quotes. -/
def outside (n : Nesting) : Bool := n.depth == 0 && n.quote.isNone

end Nesting

/-- Splits at the last mark outside brackets and quotes. -/
def splitLast (n : Nesting) : List Char → Option (List Char × Char × List Char)
  | [] => none
  | c :: rest =>
    match splitLast (n.step c) rest with
    | some (before, mark, after) => some (c :: before, mark, after)
    | none => if n.outside && isMark c then some ([], c, rest) else none

/-- The parts of a longname. Without a mark all of it is the name. -/
structure Parts where
  parent : List Char
  mark : Option Char
  name : List Char
  deriving DecidableEq, Repr

/-- A mark at the very beginning belongs to the name. -/
def splitChars : List Char → Parts
  | [] => ⟨[], none, []⟩
  | c :: rest =>
    match splitLast (Nesting.step {} c) rest with
    | some (before, mark, after) => ⟨c :: before, some mark, after⟩
    | none => ⟨[], none, c :: rest⟩

def split (s : String) : Parts := splitChars s.toList

def Parts.join (p : Parts) : List Char := p.parent ++ p.mark.toList ++ p.name

def isLetter (c : Char) : Bool := ('a' ≤ c && c ≤ 'z') || ('A' ≤ c && c ≤ 'Z')

/-- One line that is not empty, perhaps with the line end. -/
def isLine (s : List Char) : Bool :=
  let line := s.takeWhile (· != '\n')
  !line.isEmpty && (s.drop line.length == [] || s.drop line.length == ['\n'])

/-- Letters, a colon and a line. -/
def isNamespaced (name : List Char) : Bool :=
  match name.takeWhile isLetter, name.dropWhile isLetter with
  | _ :: _, ':' :: rest => isLine rest
  | _, _ => false

def addNamespaceChars (s kind : List Char) : List Char :=
  let parts := splitChars s
  if isNamespaced parts.name then s
  else parts.parent ++ parts.mark.toList ++ kind ++ ':' :: parts.name

/-- Puts `kind:` before the last part unless it has such a beginning already. -/
def addNamespace (s kind : String) : String :=
  String.ofList (addNamespaceChars s.toList kind.toList)

def prototypeName : List Char := ".prototype".toList

/-- Parents: every `.prototype` becomes the instance mark. -/
def parentChars (s : List Char) : List Char :=
  Text.replaceAll prototypeName ['#'] (dropGlobalChars s)

def parent (s : String) : String := String.ofList (parentChars s.toList)

/-- Names: `.prototype` becomes the instance mark when a point or the end of the
text follows, and the point goes too. -/
def memberRule (s : List Char) : Option (List Char × Nat) :=
  match Text.dropStart? prototypeName s with
  | some ('.' :: _) => some (['#'], prototypeName.length + 1)
  | some [] => some (['#'], prototypeName.length)
  | some ['\n'] => some (['#'], prototypeName.length)
  | _ => none

def memberChars (s : List Char) : List Char := Text.replaceBy memberRule s

end Longname

end DocComment
