import DocComment.Data.Value

/-! Reading JSON text. Of two members with one name the later counts. A number
without fraction and exponent is a whole number of any size. -/

namespace DocComment.Json

/-- Reading stopped with so many characters left. -/
structure Failure where
  remaining : Nat

def fail {α : Type} (rest : List Char) : Except Failure α := .error ⟨rest.length⟩

def isSpace (c : Char) : Bool := c == ' ' || c == '\t' || c == '\n' || c == '\r'

def skipSpace (s : List Char) : List Char := s.dropWhile isSpace

def hexValue? (c : Char) : Option Nat :=
  if '0' ≤ c && c ≤ '9' then some (c.toNat - '0'.toNat)
  else if 'a' ≤ c && c ≤ 'f' then some (c.toNat - 'a'.toNat + 10)
  else if 'A' ≤ c && c ≤ 'F' then some (c.toNat - 'A'.toNat + 10)
  else none

def readHex (count : Nat) (s : List Char) : Except Failure (Nat × List Char) :=
  let digits := (s.take count).filterMap hexValue?
  if digits.length = count then .ok (digits.foldl (fun n d => 16 * n + d) 0, s.drop count)
  else fail s

/-- The character of a `\u` escape, which takes two escapes outside the basic
plane. -/
def readUnit (s : List Char) : Except Failure (Char × List Char) := do
  let (first, rest) ← readHex 4 s
  if 0xD800 ≤ first && first < 0xDC00 then
    match rest with
    | '\\' :: 'u' :: more =>
      let (second, rest) ← readHex 4 more
      if 0xDC00 ≤ second && second < 0xE000 then
        return (Char.ofNat (0x10000 + (first - 0xD800) * 0x400 + (second - 0xDC00)), rest)
      else fail s
    | _ => fail s
  else if 0xDC00 ≤ first && first < 0xE000 then fail s
  else return (Char.ofNat first, rest)

def shortEscape? : Char → Option Char
  | '"' => some '"'
  | '\\' => some '\\'
  | '/' => some '/'
  | 'b' => some (Char.ofNat 8)
  | 'f' => some (Char.ofNat 12)
  | 'n' => some '\n'
  | 'r' => some '\r'
  | 't' => some '\t'
  | _ => none

/-- The rest of a string after its opening quote. -/
def readString : Nat → List Char → List Char → Except Failure (String × List Char)
  | 0, _, s => fail s
  | _ + 1, _, [] => fail []
  | _ + 1, done, '"' :: rest => .ok (String.ofList done.reverse, rest)
  | fuel + 1, done, '\\' :: 'u' :: rest => do
    let (c, rest) ← readUnit rest
    readString fuel (c :: done) rest
  | fuel + 1, done, '\\' :: e :: rest =>
    match shortEscape? e with
    | some c => readString fuel (c :: done) rest
    | none => fail (e :: rest)
  | fuel + 1, done, c :: rest =>
    if c.toNat < 32 || c = '\\' then fail (c :: rest) else readString fuel (c :: done) rest

def isDigit (c : Char) : Bool := '0' ≤ c && c ≤ '9'

def natOf (digits : List Char) : Nat :=
  digits.foldl (fun n d => 10 * n + (d.toNat - '0'.toNat)) 0

/-- The number `digits * 10 ^ exponent`. -/
def scientific (negative : Bool) (digits : Nat) (exponent : Int) : Float :=
  let x := Float.ofScientific digits (exponent < 0) exponent.natAbs
  if negative then -x else x

/-- Exponents beyond this size give zero or overflow whatever the digits are. -/
def clampExponent (digits : Nat) (e : Int) : Int :=
  let bound : Int := 400 + digits
  if e < -bound then -bound else if bound < e then bound else e

def readNumber (s : List Char) : Except Failure (Value × List Char) := do
  let negative := s.head? == some '-'
  let s := if negative then s.tail else s
  let whole := s.takeWhile isDigit
  let rest := s.dropWhile isDigit
  if whole.isEmpty || (whole.length > 1 && whole.head? == some '0') then fail s
  let (fraction, rest) ← match rest with
    | '.' :: more =>
      let digits := more.takeWhile isDigit
      if digits.isEmpty then fail more else pure (some digits, more.dropWhile isDigit)
    | _ => pure (none, rest)
  let (exponent, rest) ← match rest with
    | e :: more =>
      if e = 'e' || e = 'E' then
        let (sign, more) : Int × List Char := match more with
          | '-' :: m => (-1, m)
          | '+' :: m => (1, m)
          | m => (1, m)
        let digits := more.takeWhile isDigit
        if digits.isEmpty then fail more
        else pure (some (sign * (natOf digits : Int)), more.dropWhile isDigit)
      else pure (none, rest)
    | [] => pure (none, rest)
  match fraction, exponent with
  | none, none =>
    let n : Int := natOf whole
    return (.int (if negative then -n else n), rest)
  | _, _ =>
    let digits := whole ++ fraction.getD []
    let e := exponent.getD 0 - (fraction.getD []).length
    let x := scientific negative (natOf digits) (clampExponent digits.length e)
    if x.isInf then fail rest else return (.float x, rest)

def readWord (word : List Char) (v : Value) (s : List Char) : Except Failure (Value × List Char) :=
  if word.isPrefixOf s then .ok (v, s.drop word.length) else fail s

mutual

def readValue : Nat → List Char → Except Failure (Value × List Char)
  | 0, s => fail s
  | fuel + 1, s =>
    match skipSpace s with
    | [] => fail []
    | '"' :: rest => do
      let (t, rest) ← readString (rest.length + 1) [] rest
      return (.text t, rest)
    | '[' :: rest =>
      match skipSpace rest with
      | ']' :: rest => .ok (.list [], rest)
      | rest => do
        let (items, rest) ← readItems fuel [] rest
        return (.list items, rest)
    | '\x7b' :: rest =>
      match skipSpace rest with
      | '\x7d' :: rest => .ok (.object [], rest)
      | rest => do
        let (members, rest) ← readMembers fuel [] rest
        return (Value.ofMembers members, rest)
    | 'n' :: rest => readWord "null".toList .null ('n' :: rest)
    | 't' :: rest => readWord "true".toList (.bool true) ('t' :: rest)
    | 'f' :: rest => readWord "false".toList (.bool false) ('f' :: rest)
    | rest => readNumber rest

/-- Items up to the closing bracket; `done` holds those before, last first. -/
def readItems : Nat → List Value → List Char → Except Failure (List Value × List Char)
  | 0, _, s => fail s
  | fuel + 1, done, s => do
    let (v, rest) ← readValue fuel s
    match skipSpace rest with
    | ',' :: rest => readItems fuel (v :: done) rest
    | ']' :: rest => return ((v :: done).reverse, rest)
    | rest => fail rest

def readMembers : Nat → List (String × Value) → List Char →
    Except Failure (List (String × Value) × List Char)
  | 0, _, s => fail s
  | fuel + 1, done, s =>
    match skipSpace s with
    | '"' :: rest => do
      let (key, rest) ← readString (rest.length + 1) [] rest
      match skipSpace rest with
      | ':' :: rest =>
        let (v, rest) ← readValue fuel rest
        match skipSpace rest with
        | ',' :: rest => readMembers fuel ((key, v) :: done) rest
        | '\x7d' :: rest => return (((key, v) :: done).reverse, rest)
        | rest => fail rest
      | rest => fail rest
    | rest => fail rest

end

/-- Reads a whole text; every step of the readers uses up a character, so twice
their number bounds the nesting of calls. -/
def parse (s : String) : Except Failure Value := do
  let cs := s.toList
  let (v, rest) ← readValue (2 * cs.length + 2) cs
  match skipSpace rest with
  | [] => return v
  | rest => fail rest

end DocComment.Json
