/-! Places in a YAML text. Columns count from the last line break, and a byte
order mark takes no column. -/

namespace DocComment.Yaml

def isBreak (c : Char) : Bool :=
  c == '\n' || c == '\r' || c.toNat == 0x85 || c.toNat == 0x2028 || c.toNat == 0x2029

def isBlank (c : Char) : Bool := c == ' ' || c == '\t'

/-- The line ends here. -/
def endsLine (s : List Char) : Bool := s.head?.all isBreak

/-- The line ends here, or a space follows. -/
def endsPart (s : List Char) : Bool := s.head?.all fun c => isBreak c || c == ' '

/-- The line ends here, or a space or a tab follows. -/
def endsWord (s : List Char) : Bool := s.head?.all fun c => isBreak c || isBlank c

/-- A line that divides documents begins here. -/
def startsMarker : List Char → Bool
  | '-' :: '-' :: '-' :: rest => endsWord rest
  | '.' :: '.' :: '.' :: rest => endsWord rest
  | _ => false

structure Cursor where
  rest : List Char
  index : Nat := 0
  line : Nat := 0
  column : Nat := 0

namespace Cursor

/-- Passes one character. Of a line end of two characters the second counts. -/
def step (c : Cursor) : Cursor :=
  match c.rest with
  | [] => c
  | ch :: rest =>
    if isBreak ch && !(ch == '\r' && rest.head? == some '\n') then
      ⟨rest, c.index + 1, c.line + 1, 0⟩
    else if ch.toNat = 0xFEFF then ⟨rest, c.index + 1, c.line, c.column⟩
    else ⟨rest, c.index + 1, c.line, c.column + 1⟩

def advance : Nat → Cursor → Cursor
  | 0, c => c
  | n + 1, c => advance n c.step

def skipWhile (p : Char → Bool) (c : Cursor) : Cursor :=
  c.advance (c.rest.takeWhile p).length

/-- More than the number of characters that are left. -/
def fuel (c : Cursor) : Nat := c.rest.length + 1

/-- The line break that begins here. Two of them are kept as they are, all others
count as the usual one. -/
def lineBreak? (c : Cursor) : Option (Char × Cursor) :=
  match c.rest with
  | '\r' :: '\n' :: _ => some ('\n', c.advance 2)
  | ch :: _ =>
    if isBreak ch then some (if ch.toNat < 0x2000 then '\n' else ch, c.step) else none
  | [] => none

/-- Spaces and a comment up to the end of the line, and its break. -/
def endLine? (c : Cursor) : Option Cursor :=
  let c := c.skipWhile (· == ' ')
  let c := if c.rest.head? == some '#' then c.skipWhile (!isBreak ·) else c
  if endsLine c.rest then some ((c.lineBreak?.map (·.2)).getD c) else none

end Cursor

end DocComment.Yaml
