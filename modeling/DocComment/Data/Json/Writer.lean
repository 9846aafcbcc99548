import DocComment.Data.Display

/-! JSON text in its three layouts: the compact and the indented form of
encoded doclets, and the sorted ASCII form of log lines and problem reports. -/

namespace DocComment.Json

/-- How a value is laid out. -/
structure Layout where
  /-- The escape of a character that may not stand for itself. -/
  escape : Char → Option (List Char)
  number : Number.Style
  afterKey : String
  afterItem : String
  /-- The indentation of one level; absent when all stands on one line. -/
  indent : Option Nat
  sorted : Bool

def unitEscape (n : Nat) : List Char := '\\' :: 'u' :: Text.hexDigits 4 n

/-- The escapes that every JSON text needs. -/
def basicEscape (c : Char) : Option (List Char) :=
  if c = '"' || c = '\\' then some ['\\', c]
  else if c = '\n' then some ['\\', 'n']
  else if c = '\r' then some ['\\', 'r']
  else if c = '\t' then some ['\\', 't']
  else if c.toNat = 8 then some ['\\', 'b']
  else if c.toNat = 12 then some ['\\', 'f']
  else if c.toNat < 32 then some (unitEscape c.toNat)
  else none

/-- Escapes everything outside printable ASCII, in UTF-16 units. -/
def asciiEscape (c : Char) : Option (List Char) :=
  if c.toNat < 127 then basicEscape c
  else if c.toNat < 0x10000 then some (unitEscape c.toNat)
  else
    let n := c.toNat - 0x10000
    some (unitEscape (0xD800 + n / 0x400) ++ unitEscape (0xDC00 + n % 0x400))

def compact : Layout where
  escape := basicEscape
  number := Number.compact
  afterKey := ":"
  afterItem := ","
  indent := none
  sorted := false

def pretty : Layout := { compact with afterKey := ": ", indent := some 2 }

def line : Layout where
  escape := asciiEscape
  number := Number.report
  afterKey := ": "
  afterItem := ", "
  indent := none
  sorted := true

/-- The layout of problem reports; without an indentation it is that of log
lines. -/
def report (indent : Option Nat) : Layout :=
  match indent with
  | none => line
  | some width => { line with afterItem := ",", indent := some width }

namespace Layout

def string (l : Layout) (s : String) : String :=
  String.ofList ('"' :: (s.toList.flatMap fun c => (l.escape c).getD [c]) ++ ['"'])

/-- The line break before an item at that depth, if the layout has any. -/
def newline (l : Layout) (depth : Nat) : String :=
  match l.indent with
  | none => ""
  | some width => String.ofList ('\n' :: List.replicate (width * depth) ' ')

def enclose (l : Layout) (opening closing : String) (depth : Nat) (items : List String) :
    String :=
  if items.isEmpty then opening ++ closing
  else
    let gap := l.newline (depth + 1)
    opening ++ gap ++ String.intercalate (l.afterItem ++ gap) items ++ l.newline depth ++ closing

def arrange (l : Layout) (members : List (String × String)) : List (String × String) :=
  if l.sorted then members.mergeSort fun a b => a.1 ≤ b.1 else members

def enclosePairs (l : Layout) (depth : Nat) (pairs : List (String × String)) : String :=
  l.enclose "\x7b" "\x7d" depth ((l.arrange pairs).map fun p => l.string p.1 ++ l.afterKey ++ p.2)

mutual

def writeAt (l : Layout) (depth : Nat) : Value → String
  | .null => "null"
  | .bool true => "true"
  | .bool false => "false"
  | .int i => toString i
  | .float x => l.number.write x
  | .text s => l.string s
  | .list items => l.enclose "[" "]" depth (writeItems l (depth + 1) items)
  | .object members => l.enclosePairs depth (writeMembers l (depth + 1) members)
  | .oddKey _ v => writeAt l depth v

def writeItems (l : Layout) (depth : Nat) : List Value → List String
  | [] => []
  | v :: rest => writeAt l depth v :: writeItems l depth rest

def writeMembers (l : Layout) (depth : Nat) : List (String × Value) → List (String × String)
  | [] => []
  | (key, v) :: rest => (key, writeAt l depth v) :: writeMembers l depth rest

end

def write (l : Layout) (v : Value) : String := l.writeAt 0 v

end Layout

end DocComment.Json
