import DocComment.Text.Replace

/-! Removing the indentation that all lines of a text have in common. Only
spaces and tabs indent, and a line of nothing else counts as empty. -/

namespace DocComment.Text

def isIndent (c : Char) : Bool := c == ' ' || c == '\t'

def commonStart : List Char → List Char → List Char
  | c :: s, d :: t => if c = d then c :: commonStart s t else []
  | _, _ => []

/-- The indentation shared by all lines that are not empty. -/
def margin : List (List Char) → Option (List Char)
  | [] => none
  | line :: more =>
    if line.isEmpty then margin more
    else
      let own := line.takeWhile isIndent
      match margin more with
      | none => some own
      | some rest => some (commonStart own rest)

def dedent (s : List Char) : List Char :=
  let rows := (lines s).map fun line => if line.all isIndent then [] else line
  let width := ((margin rows).getD []).length
  joinWith ['\n'] (rows.map (·.drop width))

end DocComment.Text
