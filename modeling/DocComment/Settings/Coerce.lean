import DocComment.Data.Json.Reader
import DocComment.Settings.Basic
import DocComment.Text.Lower
import DocComment.Text.Replace

/-! Taking a setting from a value that was written for it. Numbers and truth
values may be written as texts, and each counts as the other where nothing is
lost. -/

namespace DocComment.Settings

/-- White space around a number. -/
def isPadding (c : Char) : Bool :=
  let n := c.toNat
  (9 ≤ n && n ≤ 13) || n == 32 || n == 0x85 || n == 0xA0 || n == 0x1680 ||
    (0x2000 ≤ n && n ≤ 0x200A) || n == 0x2028 || n == 0x2029 || n == 0x202F || n == 0x205F ||
    n == 0x3000

/-- Digits, with single underscores between them. -/
def digitsOf? : List Char → Option (List Char)
  | [] => none
  | [c] => if Json.isDigit c then some [c] else none
  | c :: '_' :: rest => if Json.isDigit c then (digitsOf? rest).map (c :: ·) else none
  | c :: rest => if Json.isDigit c then (digitsOf? rest).map (c :: ·) else none

/-- A point followed by nothing but zeros may end a number. -/
def dropZeroFraction (s : List Char) : List Char :=
  let whole := s.takeWhile (· != '.')
  if (s.drop (whole.length + 1)).all (· == '0') then whole else s

/-- A sign, digits, and a fraction of zeros. Zeros may lead only when no minus
sign does. -/
def wholeOf? (s : String) : Option Int :=
  let s := s.toList.dropWhile isPadding
  let s := (s.reverse.dropWhile isPadding).reverse
  if s.length > 4300 then none
  else
    match s with
    | '-' :: rest =>
      (digitsOf? (dropZeroFraction rest)).bind fun digits =>
        if digits.length > 1 && digits.head? == some '0' then none
        else some (-(Json.natOf digits : Int))
    | '+' :: rest => (digitsOf? (dropZeroFraction rest)).map fun digits => (Json.natOf digits : Int)
    | rest => (digitsOf? (dropZeroFraction rest)).map fun digits => (Json.natOf digits : Int)

/-- Floats count as whole numbers within the range of 64 bits. -/
def int? : Value → Option Int
  | .text s => wholeOf? s
  | .float x =>
    let bound : Int := 9223372036854775808
    (Number.whole? x).filter fun n => -bound < n && n < bound
  | v => v.whole?

def falseWords : List String := ["0", "off", "f", "false", "n", "no"]

def trueWords : List String := ["1", "on", "t", "true", "y", "yes"]

def bool? : Value → Option Bool
  | .text s =>
    let word := s.map Char.toLower
    if falseWords.contains word then some false
    else if trueWords.contains word then some true
    else none
  | v =>
    match v.whole? with
    | some 0 => some false
    | some 1 => some true
    | _ => none

/-- The settings with one of them replaced. -/
def set? (s : Settings) (field : Field) (v : Value) : Option Settings :=
  match field with
  | .sortSentinel => (int? v).map fun n => { s with sortSentinel := n }
  | .truncationMarker => v.text?.map fun t => { s with truncationMarker := t }
  | .interfaceTypeName => v.text?.map fun t => { s with interfaceTypeName := t }
  | .aliasTypeName => v.text?.map fun t => { s with aliasTypeName := t }
  | .variadicMarker => v.text?.map fun t => { s with variadicMarker := t }
  | .releaseNodes => (bool? v).map fun b => { s with releaseNodes := b }
  | .logLevel => v.text?.map fun t => { s with logLevel := t }

/-- Settings from given values and from variables of the environment, given
values going first. Every value that fits no setting is counted. -/
def collect (given : List (String × Value)) (environment : List (String × Value)) :
    Except Nat Settings :=
  let step (state : Settings × Nat) (field : Field) : Settings × Nat :=
    match (given.lookup field.name).or (environment.lookup field.name) with
    | none => state
    | some v =>
      match set? state.1 field v with
      | some s => (s, state.2)
      | none => (state.1, state.2 + 1)
  let (settings, bad) := Field.all.foldl step ({}, 0)
  let unknown := (given.filter fun g => !(Field.all.map Field.name).contains g.1).length
  if bad + unknown = 0 then .ok settings else .error (bad + unknown)

/-- The variables that name settings, whatever their case. Of two that differ in
case only the later counts. -/
def ofEnvironment (environment : List (String × String)) : List (String × Value) :=
  Assoc.ofPairs (environment.filterMap fun (name, value) =>
    (Text.dropStart? "docletkit_".toList (Text.lower name).toList).map fun rest =>
      (String.ofList rest, .text value))

end DocComment.Settings
