import DocComment.Data.Value
import DocComment.Text.Quote

/-! Reading typed records out of plain data. Reading stops at the first problem,
which is reported together with the place where it was found. -/

namespace DocComment

/-- A step from a value to a part of it. -/
inductive Segment where
  | field (name : String)
  | item (index : Nat)
  deriving DecidableEq, Repr

/-- What a value may be required to be. -/
inductive Shape where
  | int
  | text
  | bool
  | list
  | object
  deriving DecidableEq, Repr

inductive Mismatch where
  | shape (wanted : Shape) (orNull : Bool) (got : String)
  | missing (field : String)
  | unknownTag (tag : String)
  | keyNotText
  deriving DecidableEq, Repr

structure DecodeError where
  path : List Segment
  cause : Mismatch
  deriving DecidableEq, Repr

abbrev Decode (α : Type) := Except DecodeError α

def Shape.name : Shape → String
  | .int => "int"
  | .text => "str"
  | .bool => "bool"
  | .list => "array"
  | .object => "object"

namespace Value

/-- What a value is called in an error message. -/
def shapeName : Value → String
  | null => "null"
  | bool _ => "bool"
  | int _ => "int"
  | float _ => "float"
  | text _ => "str"
  | list _ => "array"
  | object _ => "object"
  | oddKey _ v => shapeName v

/-- What a value is called when it stands in the place of a tag. -/
def tagShapeName : Value → String
  | null => "NoneType"
  | list _ => "list"
  | object _ => "dict"
  | v => shapeName v

end Value

def Mismatch.message : Mismatch → String
  | .shape wanted orNull got =>
    "Expected `" ++ wanted.name ++ (if orNull then " | null" else "") ++ "`, got `" ++ got ++ "`"
  | .missing field => "Object missing required field `" ++ field ++ "`"
  | .unknownTag tag => "Invalid value " ++ Text.quote tag
  | .keyNotText => "Expected `str`"

namespace DecodeError

def under (s : Segment) (e : DecodeError) : DecodeError := { e with path := s :: e.path }

def place (path : List Segment) : String :=
  path.foldl (fun done s =>
    match s with
    | .field name => done ++ "." ++ name
    | .item index => done ++ "[" ++ toString index ++ "]") "$"

def message (e : DecodeError) : String :=
  match e.cause, e.path with
  | .keyNotText, path => e.cause.message ++ " - at `key` in `" ++ place path ++ "`"
  | _, [] => e.cause.message
  | _, path => e.cause.message ++ " - at `" ++ place path ++ "`"

end DecodeError

namespace Decode

def wrong {α : Type} (wanted : Shape) (orNull : Bool) (v : Value) : Decode α :=
  .error ⟨[], .shape wanted orNull v.shapeName⟩

def under {α : Type} (s : Segment) (r : Decode α) : Decode α :=
  match r with
  | .ok a => .ok a
  | .error e => .error (e.under s)

def text : Value → Decode String
  | .text s => .ok s
  | v => wrong .text false v

def text? : Value → Decode (Option String)
  | .null => .ok none
  | .text s => .ok (some s)
  | v => wrong .text true v

def int : Value → Decode Int
  | .int i => .ok i
  | v => wrong .int false v

def int? : Value → Decode (Option Int)
  | .null => .ok none
  | .int i => .ok (some i)
  | v => wrong .int true v

def bool : Value → Decode Bool
  | .bool b => .ok b
  | v => wrong .bool false v

/-- Reads the items from number `index` on. -/
def items {α : Type} (read : Value → Decode α) (index : Nat) : List Value → Decode (List α)
  | [] => .ok []
  | v :: rest => do
    let a ← under (.item index) (read v)
    let more ← items read (index + 1) rest
    return a :: more

def list {α : Type} (read : Value → Decode α) : Value → Decode (List α)
  | .list vs => items read 0 vs
  | v => wrong .list false v

def list? {α : Type} (read : Value → Decode α) : Value → Decode (Option (List α))
  | .null => .ok none
  | .list vs => some <$> items read 0 vs
  | v => wrong .list true v

/-- A member with a key that is no text stops the reading of its object. -/
def member {α : Type} (key : String) (v : Value) (r : Decode α) : Decode α :=
  match v with
  | .oddKey _ _ => .error ⟨[], .keyNotText⟩
  | _ => under (.field key) r

/-- Reads the members in order, each changing what was read so far. -/
def members {α : Type} (read : α → String → Value → Decode α) (a : α) :
    List (String × Value) → Decode α
  | [] => .ok a
  | (key, v) :: rest => do
    let a ← member key v (read a key v)
    members read a rest

def object {α : Type} (read : α → String → Value → Decode α) (a : α) : Value → Decode α
  | .object ms => members read a ms
  | v => wrong .object false v

def object? {α : Type} (read : α → String → Value → Decode α) (a : α) :
    Value → Decode (Option α)
  | .null => .ok none
  | .object ms => some <$> members read a ms
  | v => wrong .object true v

end Decode

end DocComment
