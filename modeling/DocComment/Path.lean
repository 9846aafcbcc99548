import DocComment.Text.Replace

/-! Slash-separated file paths in normal form: no empty and no `.` segments.
Exactly two leading slashes form a root of their own. -/

namespace DocComment

structure Path where
  root : List Char
  segments : List (List Char)
  deriving DecidableEq, Repr, Inhabited

namespace Path

def rootOf (s : List Char) : List Char :=
  match (s.takeWhile (· == '/')).length with
  | 0 => []
  | 2 => ['/', '/']
  | _ => ['/']

def ofChars (s : List Char) : Path where
  root := rootOf s
  segments := (Text.splitWhere (· == '/') s).filter fun seg => seg != [] && seg != ['.']

def parse (s : String) : Path := ofChars s.toList

def chars (p : Path) : List Char :=
  if p.root.isEmpty && p.segments.isEmpty then ['.'] else p.root ++ Text.joinWith ['/'] p.segments

/-- The normal form as text; the empty path is `.`. -/
def text (p : Path) : String := String.ofList p.chars

/-- The last segment, empty when there is none. -/
def name (p : Path) : List Char := p.segments.getLast?.getD []

def parent (p : Path) : Path := { p with segments := p.segments.dropLast }

/-- A path below another; a rooted path stays where it is. -/
def join (p q : Path) : Path :=
  if q.root.isEmpty then { p with segments := p.segments ++ q.segments } else q

/-- The last point of the name and what follows it, unless the point begins or
ends the name. -/
def extension (p : Path) : List Char :=
  let tail := (p.name.reverse.takeWhile (· != '.')).reverse
  let stem := p.name.length - tail.length
  if 1 < stem && !tail.isEmpty then '.' :: tail else []

end Path

end DocComment
