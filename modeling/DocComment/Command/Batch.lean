import DocComment.Data.Yaml.Document
import DocComment.Doclet.Build
import DocComment.Path
import DocComment.Text.Lower
import DocComment.Text.Utf16
import DocComment.Text.Utf8

/-! Batch files: a list of entries, each with a comment and what is known about
the code, in JSON or YAML. The doclets of a batch have one context in common. -/

namespace DocComment.Batch

/-- How many characters there are up to the quote that ends a string. -/
def closingQuote? : List Char → Option Nat
  | [] => none
  | '"' :: _ => some 1
  | '\\' :: _ :: rest => (closingQuote? rest).map (· + 2)
  | _ :: rest => (closingQuote? rest).map (· + 1)

/-- The bytes as characters, those that are none being replaced. -/
def lenient : Nat → List UInt8 → List Char
  | 0, _ => []
  | fuel + 1, bytes =>
    match Text.Utf8.read bytes with
    | (cs, []) => cs
    | (cs, _ :: rest) => cs ++ Char.ofNat 0xFFFD :: lenient fuel rest

/-- Whether the first byte that belongs to no character stands in a string that
is otherwise well formed. -/
def badString (good : List Char) (bad : List UInt8) : Bool :=
  let tail := lenient (bad.length + 1) bad
  match closingQuote? tail with
  | none => false
  | some length =>
    match Json.parse (String.ofList (good ++ tail.take length)),
      Json.parse (String.ofList good) with
    | .ok _, .error e => e.remaining == 0
    | .error f, .error e => f.remaining == 0 && e.remaining == 0
    | _, .ok _ => false

def ofJson (path : String) (bytes : List UInt8) : Except Fault Value :=
  let (cs, bad) := Text.Utf8.read bytes
  let malformed := Fault.inputMalformed path "DecodeError"
  if bad.isEmpty then
    match Json.parse (String.ofList cs) with
    | .ok v => .ok v
    | .error _ => .error malformed
  else .error (if badString cs bad then .undecodable else malformed)

/-- A byte order mark tells UTF-16 from UTF-8. -/
def yamlText? : List UInt8 → Option (List Char)
  | 0xFF :: 0xFE :: rest => Text.Utf16.decode? false (0xFF :: 0xFE :: rest)
  | 0xFE :: 0xFF :: rest => Text.Utf16.decode? true (0xFE :: 0xFF :: rest)
  | bytes => Text.Utf8.decode? bytes

def ofYaml (path : String) (bytes : List UInt8) : Except Fault Value :=
  match (yamlText? bytes).bind Yaml.parse with
  | some v => .ok v
  | none => .error (.inputMalformed path "YAMLError")

def isYaml (path : Path) : Bool :=
  [".yaml", ".yml"].contains (Text.lower (String.ofList path.extension))

def isObject : Value → Bool
  | .object _ => true
  | _ => false

/-- The entries of a file; null stands for none at all. -/
def entries (path : Path) (content : Except FileTrouble (List UInt8)) :
    Except Fault (List Value) := do
  let bytes ← match content with
    | .ok bytes => pure bytes
    | .error why => throw (.inputUnreadable path.text why)
  match ← (if isYaml path then ofYaml else ofJson) path.text bytes with
  | .null => return []
  | .list items =>
    if items.all isObject then return items else throw (.inputNotEntries path.text)
  | _ => throw (.inputNotEntries path.text)

/-- The doclets built so far, the notes made on the way, and what stopped the
work, if anything. -/
structure Built where
  context : Context
  doclets : List Doclet := []
  notes : List Journal.Record := []
  fault : Option Fault := none

def comment? (entry : Value) (index : Nat) : Except Fault (Option String) :=
  match entry.given? "comment" with
  | none => .ok none
  | some (.text s) => .ok (some s)
  | some _ => .error (.commentNotText index)

def source (entry : Value) : Except Fault Source :=
  match Source.decode ((entry.get? "meta").getD .null) with
  | .ok s => .ok s
  | .error e => .error (.source e)

def Built.add (b : Built) (entry : Value) : Built :=
  match b.fault with
  | some _ => b
  | none =>
    match comment? entry b.doclets.length, source entry with
    | .error fault, _ => { b with fault := some fault }
    | _, .error fault => { b with fault := some fault }
    | .ok comment, .ok src =>
      let work := Doclet.createAlone b.context comment src
      let b := { b with
        context := b.context.registerAll work.exports
        notes := b.notes ++ work.notes }
      match work.fault with
      | some fault => { b with fault := some fault }
      | none => { b with doclets := b.doclets ++ [work.doclet] }

def build (context : Context) (entries : List Value) : Built :=
  entries.foldl Built.add { context }

end DocComment.Batch
