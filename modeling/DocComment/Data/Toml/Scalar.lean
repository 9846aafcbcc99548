import DocComment.Data.Json.Reader

/-! The simple values of TOML: strings in their four forms, numbers, truth values
and moments in time. Every reader gives the value and what is left of the text.
No setting takes a moment, so moments are only read past. -/

namespace DocComment.Toml

def isSpace (c : Char) : Bool := c == ' ' || c == '\t'

def skipSpace (s : List Char) : List Char := s.dropWhile isSpace

/-- Control characters other than the tab. -/
def isControl (c : Char) : Bool := (c.toNat < 32 && c != '\t') || c.toNat == 127

/-- A comment reaches to the end of its line. -/
def skipComment : List Char → Option (List Char)
  | '#' :: rest =>
    let line := rest.takeWhile (· != '\n')
    if line.any isControl then none else some (rest.dropWhile (· != '\n'))
  | s => some s

/-- Blanks, line ends and comments, as they may stand between items. -/
def skipFiller : Nat → List Char → Option (List Char)
  | 0, s => some s
  | fuel + 1, s =>
    match s.dropWhile fun c => isSpace c || c == '\n' with
    | '#' :: rest => (skipComment ('#' :: rest)).bind (skipFiller fuel)
    | rest => some rest

def literal (s : List Char) : Option (String × List Char) :=
  let body := s.takeWhile (· != '\'')
  match s.drop body.length with
  | _ :: rest => if body.any isControl then none else some (String.ofList body, rest)
  | [] => none

def scalarOf? (n : Nat) : Option Char :=
  if n < 0xD800 || (0xE000 ≤ n && n < 0x110000) then some (Char.ofNat n) else none

def hexChar (count : Nat) (s : List Char) : Option (Char × List Char) :=
  match Json.readHex count s with
  | .ok (n, rest) => (scalarOf? n).map fun c => (c, rest)
  | .error _ => none

def escapeChar? : Char → Option Char
  | 'b' => some (Char.ofNat 8)
  | 't' => some '\t'
  | 'n' => some '\n'
  | 'f' => some (Char.ofNat 12)
  | 'r' => some '\r'
  | '"' => some '"'
  | '\\' => some '\\'
  | _ => none

/-- What follows a backslash at the end of a line of a string of several lines. -/
def skipBreak (s : List Char) : Option (List Char) :=
  match skipSpace s with
  | [] => some []
  | '\n' :: rest => some (rest.dropWhile fun c => isSpace c || c == '\n')
  | _ => none

/-- The rest of a string in double quotes; `done` holds what was read, last
first. -/
def basic (multiline : Bool) : Nat → List Char → List Char → Option (List Char × List Char)
  | 0, _, _ => none
  | _ + 1, _, [] => none
  | fuel + 1, done, '"' :: rest =>
    if multiline then
      match rest with
      | '"' :: '"' :: after => some (done.reverse, after)
      | _ => basic multiline fuel ('"' :: done) rest
    else some (done.reverse, rest)
  | fuel + 1, done, '\\' :: e :: rest =>
    if multiline && (isSpace e || e == '\n') then
      (skipBreak (e :: rest)).bind (basic multiline fuel done)
    else if e = 'u' then
      (hexChar 4 rest).bind fun (c, rest) => basic multiline fuel (c :: done) rest
    else if e = 'U' then
      (hexChar 8 rest).bind fun (c, rest) => basic multiline fuel (c :: done) rest
    else (escapeChar? e).bind fun c => basic multiline fuel (c :: done) rest
  | fuel + 1, done, c :: rest =>
    if c == '\\' || (isControl c && !(multiline && c == '\n')) then none
    else basic multiline fuel (c :: done) rest

/-- The rest of a literal string of several lines. -/
def longLiteral : List Char → List Char → Option (List Char × List Char)
  | _, [] => none
  | done, '\'' :: '\'' :: '\'' :: rest => some (done.reverse, rest)
  | done, c :: rest => if isControl c && c != '\n' then none else longLiteral (c :: done) rest

/-- Up to two quotes before the closing ones belong to the string. -/
def extraQuotes (quote : Char) (read : List Char × List Char) : String × List Char :=
  let (body, rest) := read
  let extra := (rest.take 2).takeWhile (· == quote)
  (String.ofList (body ++ extra), rest.drop extra.length)

def dropFirstBreak : List Char → List Char
  | '\n' :: rest => rest
  | s => s

def string : List Char → Option (String × List Char)
  | '"' :: '"' :: '"' :: rest =>
    (basic true (rest.length + 1) [] (dropFirstBreak rest)).map (extraQuotes '"')
  | '"' :: rest =>
    (basic false (rest.length + 1) [] rest).map fun (body, rest) => (String.ofList body, rest)
  | '\'' :: '\'' :: '\'' :: rest => (longLiteral [] (dropFirstBreak rest)).map (extraQuotes '\'')
  | '\'' :: rest => literal rest
  | _ => none

/-- Digits with single underscores between them, as many as there are. -/
def digitRun (isDigit : Char → Bool) : List Char → List Char × List Char
  | [] => ([], [])
  | '_' :: c :: rest =>
    if isDigit c then
      let (digits, rest) := digitRun isDigit rest
      (c :: digits, rest)
    else ([], '_' :: c :: rest)
  | c :: rest =>
    if isDigit c then
      let (digits, rest) := digitRun isDigit rest
      (c :: digits, rest)
    else ([], c :: rest)

/-- A run that begins with a digit. -/
def digits? (isDigit : Char → Bool) (s : List Char) : Option (List Char × List Char) :=
  match s with
  | c :: _ => if isDigit c then some (digitRun isDigit s) else none
  | [] => none

def based (base : Nat) (s : List Char) : Option (Value × List Char) :=
  let isDigit (c : Char) : Bool := (Json.hexValue? c).any (· < base)
  (digits? isDigit s).map fun (digits, rest) =>
    (.int (digits.foldl (fun n c => base * n + (Json.hexValue? c).getD 0) 0), rest)

def takeSign : List Char → Bool × List Char
  | '-' :: rest => (true, rest)
  | '+' :: rest => (false, rest)
  | rest => (false, rest)

/-- A whole part without leading zeros. -/
def wholePart (s : List Char) : Option (List Char × List Char) :=
  match s with
  | '0' :: rest => some (['0'], rest)
  | _ => digits? Json.isDigit s

def fractionPart : List Char → List Char × List Char
  | '.' :: rest => (digits? Json.isDigit rest).getD ([], '.' :: rest)
  | s => ([], s)

def exponentPart (s : List Char) : Option Int × List Char :=
  match s with
  | e :: rest =>
    if e = 'e' || e = 'E' then
      let (negative, digits) := takeSign rest
      match digits? Json.isDigit digits with
      | some (digits, after) =>
        let n : Int := Json.natOf digits
        (some (if negative then -n else n), after)
      | none => (none, s)
    else (none, s)
  | [] => (none, s)

def decimal (s : List Char) : Option (Value × List Char) := do
  let (negative, s) := takeSign s
  let (whole, rest) ← wholePart s
  let (fraction, rest) := fractionPart rest
  let (exponent, rest) := exponentPart rest
  if fraction.isEmpty && exponent.isNone then
    let n : Int := Json.natOf whole
    return (.int (if negative then -n else n), rest)
  else
    let digits := whole ++ fraction
    let e := Json.clampExponent digits.length (exponent.getD 0 - fraction.length)
    return (.float (Json.scientific negative (Json.natOf digits) e), rest)

def number (s : List Char) : Option (Value × List Char) :=
  let special := match s with
    | '0' :: 'x' :: rest => based 16 rest
    | '0' :: 'o' :: rest => based 8 rest
    | '0' :: 'b' :: rest => based 2 rest
    | _ => none
  special.or (decimal s)

/-- A number of exactly so many digits within bounds. -/
def fixed (count low high : Nat) (s : List Char) : Option (Nat × List Char) :=
  let digits := s.take count
  let n := Json.natOf digits
  if digits.length = count && digits.all Json.isDigit && low ≤ n && n ≤ high then
    some (n, s.drop count)
  else none

def expect (c : Char) : List Char → Option (List Char)
  | d :: rest => if c = d then some rest else none
  | [] => none

def time (s : List Char) : Option (List Char) := do
  let (_, s) ← fixed 2 0 23 s
  let (_, s) ← fixed 2 0 59 (← expect ':' s)
  let (_, s) ← fixed 2 0 59 (← expect ':' s)
  match s with
  | '.' :: rest =>
    if rest.head?.any Json.isDigit then return rest.dropWhile Json.isDigit else return s
  | _ => return s

def zone (s : List Char) : List Char :=
  match s with
  | [] => []
  | c :: rest =>
    if c = 'Z' || c = 'z' then rest
    else if c = '+' || c = '-' then
      (do
        let (_, r) ← fixed 2 0 23 rest
        let (_, r) ← fixed 2 0 59 (← expect ':' r)
        return r : Option (List Char)).getD s
    else s

def daysIn (year month : Nat) : Nat :=
  if month = 2 then
    if year % 4 = 0 && (year % 100 != 0 || year % 400 = 0) then 29 else 28
  else if [4, 6, 9, 11].contains month then 30
  else 31

/-- A date, perhaps with a time of day. The outer result tells whether there is
one, the inner whether it exists. -/
def date (s : List Char) : Option (Option (List Char)) := do
  let (year, s) ← fixed 4 0 9999 s
  let (month, s) ← fixed 2 1 12 (← expect '-' s)
  let (day, s) ← fixed 2 1 31 (← expect '-' s)
  let rest := match s with
    | c :: more => if c = 'T' || c = 't' || c = ' ' then ((time more).map zone).getD s else s
    | [] => s
  if year = 0 || daysIn year month < day then return none else return some rest

def specialFloat : List Char → Option (Value × List Char)
  | 'i' :: 'n' :: 'f' :: rest => some (.float (1.0 / 0.0), rest)
  | 'n' :: 'a' :: 'n' :: rest => some (.float (0.0 / 0.0), rest)
  | '+' :: 'i' :: 'n' :: 'f' :: rest => some (.float (1.0 / 0.0), rest)
  | '-' :: 'i' :: 'n' :: 'f' :: rest => some (.float (-1.0 / 0.0), rest)
  | '+' :: 'n' :: 'a' :: 'n' :: rest => some (.float (0.0 / 0.0), rest)
  | '-' :: 'n' :: 'a' :: 'n' :: rest => some (.float (0.0 / 0.0), rest)
  | _ => none

/-- Any value that is neither an array nor a table. -/
def scalar (s : List Char) : Option (Value × List Char) :=
  match s with
  | '"' :: _ | '\'' :: _ => (string s).map fun (t, rest) => (.text t, rest)
  | 't' :: 'r' :: 'u' :: 'e' :: rest => some (.bool true, rest)
  | 'f' :: 'a' :: 'l' :: 's' :: 'e' :: rest => some (.bool false, rest)
  | _ =>
    match date s with
    | some moment => moment.map fun rest => (.null, rest)
    | none => (((time s).map fun rest => (.null, rest)).or (number s)).or (specialFloat s)

end DocComment.Toml
