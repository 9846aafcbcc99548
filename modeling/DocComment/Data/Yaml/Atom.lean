import DocComment.Data.Json.Reader
import DocComment.Data.Yaml.Cursor
import DocComment.Text.Replace

/-! What a plain scalar stands for: nothing, a truth value, a number, one of two
signs that have a meaning as keys, or its own text. Moments in time are kept as
texts. -/

namespace DocComment.Yaml

inductive Atom where
  | value (v : Value)
  /-- The key that takes in the members of other mappings. -/
  | merge
  /-- The sign for a default value, which is a text when it is a key. -/
  | default

def boolWord? (s : String) : Option Bool :=
  if ["yes", "Yes", "YES", "true", "True", "TRUE", "on", "On", "ON"].contains s then some true
  else if ["no", "No", "NO", "false", "False", "FALSE", "off", "Off", "OFF"].contains s then
    some false
  else none

def isNullWord (s : String) : Bool := ["", "~", "null", "Null", "NULL"].contains s

/-- Digits of a base, which underscores may divide anywhere. -/
def digitsOnly (base : Nat) (s : List Char) : Bool :=
  s.all fun c => c == '_' || (Json.hexValue? c).any (· < base)

def ofBase (base : Nat) (s : List Char) : Option Nat :=
  let digits := s.filterMap Json.hexValue?
  if digits.isEmpty then none else some (digits.foldl (fun n d => base * n + d) 0)

/-- A part of a number to the base of sixty after the first. -/
def isSixtieth : List Char → Bool
  | [a] => Json.isDigit a
  | [a, b] => '0' ≤ a && a ≤ '5' && Json.isDigit b
  | _ => false

/-- The parts of a number to the base of sixty, if it has several. -/
def sixtieths? (s : List Char) : Option (List (List Char)) :=
  match Text.splitWhere (· == ':') s with
  | first :: second :: more =>
    if first.head?.any Json.isDigit && digitsOnly 10 first && (second :: more).all isSixtieth then
      some (first :: second :: more)
    else none
  | _ => none

def takeSign : List Char → Bool × List Char
  | '-' :: rest => (true, rest)
  | '+' :: rest => (false, rest)
  | s => (false, s)

/-- A whole number without its sign: to the base of two, eight, ten, sixteen or
sixty. The outer result tells whether it has the form of one. -/
def whole? (s : List Char) : Option (Option Nat) :=
  match s with
  | ['0'] => some (some 0)
  | '0' :: 'b' :: rest =>
    if !rest.isEmpty && digitsOnly 2 rest then some (ofBase 2 rest) else none
  | '0' :: 'x' :: rest =>
    if !rest.isEmpty && digitsOnly 16 rest then some (ofBase 16 rest) else none
  | '0' :: rest => if digitsOnly 8 rest then some (ofBase 8 s) else none
  | c :: _ =>
    if !Json.isDigit c then none
    else if digitsOnly 10 s then some (ofBase 10 s)
    else
      (sixtieths? s).map fun parts =>
        some (parts.foldl (fun n part => 60 * n + (ofBase 10 part).getD 0) 0)
  | [] => none

def dropUnderscores (s : List Char) : List Char := s.filter (· != '_')

/-- The number with these digits before and after the point. -/
def decimalOf (before after : List Char) (exponent : Int) : Float :=
  let digits := dropUnderscores before ++ dropUnderscores after
  let e := exponent - (dropUnderscores after).length
  Json.scientific false (Json.natOf digits) (Json.clampExponent digits.length e)

/-- Digits after the point, and an exponent, whose sign must be written. -/
def fraction? (s : List Char) : Option (List Char × Int) :=
  let digits := s.takeWhile fun c => Json.isDigit c || c == '_'
  match s.drop digits.length with
  | [] => some (digits, 0)
  | e :: sign :: power =>
    if (e = 'e' || e = 'E') && (sign = '-' || sign = '+') && !power.isEmpty &&
        power.all Json.isDigit then
      let n : Int := Json.natOf power
      some (digits, if sign = '-' then -n else n)
    else none
  | _ => none

/-- A number with a point, without its sign. -/
def pointed? (signed : Bool) (s : List Char) : Option Float :=
  let before := s.takeWhile (· != '.')
  match s.drop before.length with
  | _ :: after =>
    if before.isEmpty then
      if !signed && after.head?.any Json.isDigit then
        (fraction? after).map fun (digits, e) => decimalOf [] digits e
      else none
    else if before.head?.any Json.isDigit && digitsOnly 10 before then
      (fraction? after).map fun (digits, e) => decimalOf before digits e
    else if after.all fun c => Json.isDigit c || c == '_' then
      (sixtieths? before).map fun parts =>
        let parts := (parts.dropLast.map fun part => decimalOf part [] 0) ++
          [decimalOf (parts.getLast?.getD []) after 0]
        (parts.reverse.foldl (fun (sum, base) x => (sum + x * base, base * 60.0))
          ((0.0, 1.0) : Float × Float)).1
    else none
  | [] => none

def infinityWords : List String := [".inf", ".Inf", ".INF"]

def nanWords : List String := [".nan", ".NaN", ".NAN"]

def float? (s : List Char) : Option Float :=
  let (negative, body) := takeSign s
  let x := if infinityWords.contains (String.ofList body) then some (1.0 / 0.0)
    else pointed? (body.length < s.length) body
  if nanWords.contains (String.ofList s) then some (0.0 / 0.0)
  else x.map fun x => if negative then -x else x

/-- A number without digits is malformed. -/
def Atom.ofPlain (s : List Char) : Option Atom :=
  let word := String.ofList s
  let (negative, body) := takeSign s
  if isNullWord word then some (.value .null)
  else if word = "<<" then some .merge
  else if word = "=" then some .default
  else
    match boolWord? word, float? s, whole? body with
    | some b, _, _ => some (.value (.bool b))
    | none, some x, _ => some (.value (.float x))
    | none, none, some (some n) => some (.value (.int (if negative then -(n : Int) else n)))
    | none, none, some none => none
    | none, none, none => some (.value (.text word))

end DocComment.Yaml
