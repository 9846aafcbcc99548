import DocComment.Text.Blank
import DocComment.Text.Replace

/-! The text inside a documentation comment: the delimiters and the starred left
margin go, white space at the end of a line stays. The closing delimiter is
first turned into an end mark, so that the margin of the last line is taken off
like any other. -/

namespace DocComment.Comment

def endMark : List Char := ['\\', 'Z']

/-- Drops a slash with two or more stars at the beginning. -/
def dropOpening : List Char → List Char
  | '/' :: '*' :: '*' :: rest => rest.dropWhile (· == '*')
  | s => s

/-- Puts the end mark in place of the stars and slash at the end. -/
def markClosing (s : List Char) : List Char :=
  match s.reverse with
  | '/' :: '*' :: rest => (rest.dropWhile (· == '*')).reverse ++ endMark
  | _ => s

/-- Takes off the left margin of every line: white space with a star and at most
one space, or with the end mark. White space reaches over empty lines, so a
margin takes the blank lines above it along. `held` has the white space since
the line began, last first; it is absent once the line has shown anything
else. -/
def dropMargins (held : Option (List Char)) : List Char → List Char
  | [] => (held.getD []).reverse
  | c :: rest =>
    match held with
    | none => c :: dropMargins (if c = '\n' then some [] else none) rest
    | some blanks =>
      match c, rest with
      | '*', ' ' :: more => dropMargins none more
      | '*', more => dropMargins none more
      | '\\', 'Z' :: more => dropMargins none more
      | c, more =>
        if Text.isBlank c then dropMargins (some (c :: blanks)) more
        else blanks.reverse ++ c :: dropMargins none more

/-- Drops the end mark at the very end and the white space before it. -/
def dropEndMark (s : List Char) : List Char :=
  match s.reverse with
  | 'Z' :: '\\' :: rest => (rest.dropWhile Text.isBlank).reverse
  | _ => s

def unwrapChars (s : List Char) : List Char :=
  dropEndMark (dropMargins (some []) (markClosing (dropOpening s)))

/-- The text of a comment; an absent comment has the empty text. -/
def unwrap (source : Option String) : String :=
  String.ofList (unwrapChars (source.getD "").toList)

end DocComment.Comment
