/-! White space and the ways of cutting text at it. Comments may hold any
Unicode text, so white space is the Unicode set together with the four
ASCII separators U+001C to U+001F. -/

namespace DocComment.Text

def isBlank (c : Char) : Bool :=
  let n := c.toNat
  (9 ≤ n && n ≤ 13) || (28 ≤ n && n ≤ 32) || n == 0x85 || n == 0xA0 || n == 0x1680 ||
    (0x2000 ≤ n && n ≤ 0x200A) || n == 0x2028 || n == 0x2029 || n == 0x202F || n == 0x205F ||
    n == 0x3000

/-- Drops the longest ending made of characters that satisfy `p`. -/
def dropEnd (p : Char → Bool) (s : List Char) : List Char :=
  (s.reverse.dropWhile p).reverse

def trimLeft (s : List Char) : List Char := s.dropWhile isBlank

def trimRight (s : List Char) : List Char := dropEnd isBlank s

def trim (s : List Char) : List Char := trimRight (trimLeft s)

/-- The text without white space at its ends. -/
def trimmed (s : String) : String := String.ofList (trim s.toList)

/-- The characters up to the first blank, and what follows the blanks after
them. -/
def cutWord (s : List Char) : List Char × List Char :=
  (s.takeWhile fun c => !isBlank c, trimLeft (s.dropWhile fun c => !isBlank c))

/-- Absent when the text is empty. -/
def nonempty? (s : String) : Option String := if s.isEmpty then none else some s

end DocComment.Text
