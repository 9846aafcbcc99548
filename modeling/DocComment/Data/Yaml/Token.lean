import DocComment.Data.Yaml.Scalar
import DocComment.Text.Utf8

/-! YAML text as tokens. Indentation becomes tokens that open and close block
collections. A key is only known by the colon after it, so that the tokens for
it are put in front of it later. -/

namespace DocComment.Yaml

inductive Directive where
  | version (major : Nat)
  | handle (name : List Char) (start : List Char)
  | other
  deriving DecidableEq, Repr

inductive Token where
  | directive (d : Directive)
  | documentStart
  | documentEnd
  | blockSequence
  | blockMapping
  | blockEnd
  | openList
  | closeList
  | openMap
  | closeMap
  /-- A hyphen before an item. -/
  | item
  | comma
  | key
  | colon
  | reference (name : List Char)
  | anchor (name : List Char)
  /-- A tag without a handle is complete. -/
  | tag (handle : Option (List Char)) (suffix : List Char)
  | scalar (text : List Char) (plain : Bool)
  deriving DecidableEq, Repr

def isNameChar (c : Char) : Bool := c.isAlphanum || c == '-' || c == '_'

/-- The name of an anchor, which must be followed by something that ends it. -/
def anchorName (c : Cursor) : Option (List Char × Cursor) :=
  let name := c.rest.takeWhile isNameChar
  let after := c.advance name.length
  if !name.isEmpty &&
      (endsWord after.rest || after.rest.head?.any ("?:,]\x7d%@`".toList.contains ·))
  then some (name, after)
  else none

/-- A handle with its exclamation marks. -/
def tagHandle (c : Cursor) : Option (List Char × Cursor) :=
  match c.rest with
  | '!' :: rest =>
    if rest.head? == some ' ' then some (['!'], c.step)
    else
      let name := rest.takeWhile isNameChar
      match rest.drop name.length with
      | '!' :: _ => some ('!' :: name ++ ['!'], c.advance (name.length + 2))
      | _ => none
  | _ => none

def isUriChar (c : Char) : Bool :=
  c.isAlphanum || "-;/?:@&=+$,_.!~*'()[]%".toList.contains c

/-- Bytes written as percent signs with two digits. -/
def uriBytes : Nat → List Char → Option (List UInt8 × List Char)
  | fuel + 1, '%' :: rest =>
    match Json.readHex 2 rest with
    | .ok (n, rest) => (uriBytes fuel rest).map fun (more, rest) => (n.toUInt8 :: more, rest)
    | .error _ => none
  | _, s => some ([], s)

/-- The characters of a tag, written out or as bytes. -/
def uriText : Nat → List Char → Option (List Char)
  | 0, _ => none
  | _, [] => some []
  | fuel + 1, '%' :: rest => do
    let (bytes, rest) ← uriBytes (rest.length + 1) ('%' :: rest)
    let text ← Text.Utf8.decode? bytes
    let more ← uriText fuel rest
    return text ++ more
  | fuel + 1, c :: rest => (uriText fuel rest).map (c :: ·)

def uri (c : Cursor) : Option (List Char × Cursor) :=
  let run := c.rest.takeWhile isUriChar
  if run.isEmpty then none
  else (uriText (run.length + 1) run).map fun text => (text, c.advance run.length)

def tag (c : Cursor) : Option (Token × Cursor) := do
  let (token, c) ← match c.rest with
    | _ :: '<' :: _ => do
      let (suffix, c) ← uri (c.advance 2)
      if c.rest.head? == some '>' then some (Token.tag none suffix, c.step) else none
    | _ :: rest =>
      if endsWord rest then some (Token.tag none ['!'], c.step)
      else do
        let word := rest.takeWhile fun ch => !(isBreak ch || ch == ' ')
        let (handle, c) ← if word.contains '!' then tagHandle c else some (['!'], c.step)
        let (suffix, c) ← uri c
        some (Token.tag (some handle) suffix, c)
    | [] => none
  if endsPart c.rest then some (token, c) else none

def number (c : Cursor) : Option (Nat × Cursor) :=
  let digits := c.rest.takeWhile Json.isDigit
  if digits.isEmpty then none else some (Json.natOf digits, c.advance digits.length)

def versionDirective (c : Cursor) : Option (Directive × Cursor) := do
  let (major, c) ← number (c.skipWhile (· == ' '))
  if c.rest.head? != some '.' then none
  let (_, c) ← number c.step
  if endsPart c.rest then some (.version major, c) else none

def handleDirective (c : Cursor) : Option (Directive × Cursor) := do
  let (handle, c) ← tagHandle (c.skipWhile (· == ' '))
  if c.rest.head? != some ' ' then none
  let (start, c) ← uri (c.skipWhile (· == ' '))
  if endsPart c.rest then some (.handle handle start, c) else none

/-- A directive after its percent sign. -/
def directive (c : Cursor) : Option (Token × Cursor) := do
  let name := c.rest.takeWhile isNameChar
  let c := c.advance name.length
  if name.isEmpty || !endsPart c.rest then none
  let (d, c) ←
    if name = "YAML".toList then versionDirective c
    else if name = "TAG".toList then handleDirective c
    else some (.other, c.skipWhile (!isBreak ·))
  let c ← c.endLine?
  return (.directive d, c)

/-- A token that becomes a key if a colon follows on its line. -/
structure Candidate where
  /-- How many tokens stand before it. -/
  position : Nat
  /-- Whether nothing but a key can stand there. -/
  required : Bool
  index : Nat
  line : Nat
  column : Nat

structure Scan where
  cursor : Cursor
  /-- The tokens read so far, last first. -/
  tokens : List Token := []
  /-- The columns of the open block collections, innermost first. -/
  indents : List Nat := []
  /-- Whether a key may begin here. -/
  keyAllowed : Bool := true
  /-- For every open bracket, and for the block around them, the candidate there,
  innermost first. -/
  candidates : List (Option Candidate) := [none]

namespace Scan

def inFlow (s : Scan) : Bool := 1 < s.candidates.length

def emit (t : Token) (s : Scan) : Scan := { s with tokens := t :: s.tokens }

/-- Gives up the candidate of the innermost level. -/
def dropCandidate (s : Scan) : Option Scan :=
  match s.candidates with
  | some k :: rest => if k.required then none else some { s with candidates := none :: rest }
  | _ => some s

/-- Takes the token that begins here for a candidate, if a key may begin. -/
def addCandidate (s : Scan) : Option Scan :=
  if s.keyAllowed then
    s.dropCandidate.map fun s =>
      let k : Candidate :=
        { position := s.tokens.length
          required := !s.inFlow && s.indents.head? == some s.cursor.column
          index := s.cursor.index, line := s.cursor.line, column := s.cursor.column }
      { s with candidates := some k :: s.candidates.tail }
  else some s

/-- A key ends on its line and within 1024 characters. -/
def dropStale (s : Scan) : Option Scan :=
  let stale (k : Candidate) : Bool :=
    k.line != s.cursor.line || 1024 < s.cursor.index - k.index
  if s.candidates.any fun slot => slot.any fun k => stale k && k.required then none
  else some { s with candidates := s.candidates.map fun slot => slot.filter fun k => !stale k }

/-- Closes the block collections that lie deeper than a column, or all. -/
def closeBlocks (column : Option Nat) (s : Scan) : Scan :=
  if s.inFlow then s
  else
    let left := s.indents.dropWhile fun i => column.all (· < i)
    { s with
      indents := left
      tokens := List.replicate (s.indents.length - left.length) Token.blockEnd ++ s.tokens }

/-- Opens a block collection if the column lies deeper than the innermost one. -/
def openBlock (t : Token) (s : Scan) : Scan :=
  let column := s.cursor.column
  if s.indents.head?.all (· < column) then
    { s with indents := column :: s.indents, tokens := t :: s.tokens }
  else s

def move (c : Cursor) (s : Scan) : Scan := { s with cursor := c }

/-- Spaces, comments and line ends before a token. A key may begin a line. -/
def skipFiller : Nat → Scan → Scan
  | 0, s => s
  | fuel + 1, s =>
    let c := s.cursor.skipWhile (· == ' ')
    let c := if c.rest.head? == some '#' then c.skipWhile (!isBreak ·) else c
    match c.lineBreak? with
    | some (_, c) => skipFiller fuel { s with cursor := c, keyAllowed := s.keyAllowed || !s.inFlow }
    | none => s.move c

/-- A token that stands alone at the margin. -/
def marginToken (t : Token) (after : Cursor) (s : Scan) : Option Scan := do
  let s ← (s.closeBlocks none).dropCandidate
  return ({ s with keyAllowed := false, cursor := after } : Scan).emit t

def openFlow (t : Token) (s : Scan) : Option Scan := do
  let s ← s.addCandidate
  return ({ s with
    candidates := none :: s.candidates, keyAllowed := true, cursor := s.cursor.step } : Scan).emit t

def closeFlow (t : Token) (s : Scan) : Option Scan := do
  if !s.inFlow then none
  let s ← s.dropCandidate
  return ({ s with
    candidates := s.candidates.tail, keyAllowed := false, cursor := s.cursor.step } : Scan).emit t

def comma (s : Scan) : Option Scan := do
  let s ← s.dropCandidate
  return ({ s with keyAllowed := true, cursor := s.cursor.step } : Scan).emit .comma

/-- The sign of an item or of a key that is marked as one. -/
def blockSign (opening t : Token) (keyAfter : Bool) (s : Scan) : Option Scan := do
  if !s.inFlow && !s.keyAllowed then none
  let s := if s.inFlow then s else s.openBlock opening
  let s ← s.dropCandidate
  return ({ s with keyAllowed := keyAfter, cursor := s.cursor.step } : Scan).emit t

/-- A colon after a candidate makes it a key, which may open a mapping. -/
def colonAfter (k : Candidate) (s : Scan) : Scan :=
  let opens := !s.inFlow && s.indents.head?.all (· < k.column)
  let later := s.tokens.length - k.position
  let start := if opens then [Token.key, Token.blockMapping] else [Token.key]
  ({ s with
    tokens := s.tokens.take later ++ start ++ s.tokens.drop later
    indents := if opens then k.column :: s.indents else s.indents
    candidates := none :: s.candidates.tail
    keyAllowed := false
    cursor := s.cursor.step } : Scan).emit .colon

def colon (s : Scan) : Option Scan :=
  match s.candidates with
  | some k :: _ => some (s.colonAfter k)
  | _ => s.blockSign .blockMapping .colon (!s.inFlow)

/-- A token that may become a key. -/
def content (t : Token) (after : Cursor) (s : Scan) : Option Scan := do
  let s ← s.addCandidate
  return ({ s with keyAllowed := false, cursor := after } : Scan).emit t

/-- A plain scalar can begin here. -/
def startsPlain (flow : Bool) : List Char → Bool
  | [] => false
  | ch :: rest =>
    !(isBlank ch || isBreak ch || "-?:,[]\x7b\x7d#&*!|>'\"%@`".toList.contains ch) ||
      (!endsWord rest && (ch == '-' || (!flow && (ch == '?' || ch == ':'))))

/-- The column that the text of the innermost block collection needs. -/
def least (s : Scan) : Nat := (s.indents.head?.map (· + 1)).getD 0

def plainToken (s : Scan) : Option Scan := do
  let flow := s.inFlow
  let (text, ended, after) := plain flow s.least s.cursor.fuel [] false s.cursor
  let s ← s.content (.scalar text true) after
  return { s with keyAllowed := ended }

def blockToken (folded : Bool) (s : Scan) : Option Scan := do
  let s ← s.dropCandidate
  let (text, after) ← block folded s.least s.cursor.step
  return ({ s with keyAllowed := true, cursor := after } : Scan).emit (.scalar text false)

def quotedToken (double : Bool) (s : Scan) : Option Scan := do
  let start := s.cursor.step
  let (text, after) ← quoted double start.fuel start
  s.content (.scalar text false) after

/-- Reads one token, before which nothing stands. -/
def token (s : Scan) : Option Scan :=
  let c := s.cursor
  match c.rest with
  | [] => none
  | ch :: rest =>
    if ch = '%' && c.column = 0 then
      (directive c.step).bind fun (t, after) => s.marginToken t after
    else if c.column = 0 && startsMarker c.rest then
      s.marginToken (if ch = '-' then .documentStart else .documentEnd) (c.advance 3)
    else if ch = '[' then s.openFlow .openList
    else if ch = '\x7b' then s.openFlow .openMap
    else if ch = ']' then s.closeFlow .closeList
    else if ch = '\x7d' then s.closeFlow .closeMap
    else if ch = ',' then s.comma
    else if ch = '-' && endsWord rest then s.blockSign .blockSequence .item true
    else if ch = '?' && (s.inFlow || endsWord rest) then
      s.blockSign .blockMapping .key (!s.inFlow)
    else if ch = ':' && (s.inFlow || endsWord rest) then s.colon
    else if ch = '*' then
      (anchorName c.step).bind fun (name, after) => s.content (.reference name) after
    else if ch = '&' then
      (anchorName c.step).bind fun (name, after) => s.content (.anchor name) after
    else if ch = '!' then (tag c).bind fun (t, after) => s.content t after
    else if ch = '|' && !s.inFlow then s.blockToken false
    else if ch = '>' && !s.inFlow then s.blockToken true
    else if ch = '\'' then s.quotedToken false
    else if ch = '"' then s.quotedToken true
    else if startsPlain s.inFlow c.rest then s.plainToken
    else none

/-- Reads all tokens; each takes at least a character. -/
def run : Nat → Scan → Option Scan
  | 0, _ => none
  | fuel + 1, s => do
    let s := s.skipFiller s.cursor.fuel
    let s ← s.dropStale
    if s.cursor.rest.isEmpty then (s.closeBlocks none).dropCandidate
    else
      let s ← (s.closeBlocks (some s.cursor.column)).token
      run fuel s

end Scan

/-- The tokens of a text, which may begin with a byte order mark. -/
def tokens (text : List Char) : Option (List Token) :=
  let c : Cursor := { rest := text }
  let c := if text.head?.any (·.toNat == 0xFEFF) then c.step else c
  (Scan.run c.fuel { cursor := c }).map (·.tokens.reverse)

end DocComment.Yaml
