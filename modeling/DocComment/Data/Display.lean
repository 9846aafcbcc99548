import DocComment.Data.Value
import DocComment.Number.Style
import DocComment.Text.Digit
import DocComment.Text.Quote

/-! The text that stands for a value in a message or in a default value:
`None`, `True`, `[1, 'a']`. A text stands for itself, and is quoted inside a
list or mapping. -/

namespace DocComment.Value

def between (opening closing : String) (items : List String) : String :=
  opening ++ String.intercalate ", " items ++ closing

def quotedKey (key : String) : Value → String
  | oddKey _ _ => key
  | _ => Text.quote key

mutual

def quoted : Value → String
  | null => "None"
  | bool true => "True"
  | bool false => "False"
  | int i => toString i
  | float x => Number.display.write x
  | text s => Text.quote s
  | list items => between "[" "]" (quotedItems items)
  | object members => between "\x7b" "\x7d" (quotedMembers members)
  | oddKey _ v => quoted v

def quotedItems : List Value → List String
  | [] => []
  | v :: rest => quoted v :: quotedItems rest

def quotedMembers : List (String × Value) → List String
  | [] => []
  | (key, v) :: rest => (quotedKey key v ++ ": " ++ quoted v) :: quotedMembers rest

end

def display : Value → String
  | text s => s
  | v => quoted v

mutual

/-- Whether a value holds a whole number with too many digits to be written. -/
def isUnwritable : Value → Bool
  | int i => Nat.pow 10 Text.maxNumeral ≤ i.natAbs
  | list items => hasUnwritable items
  | object members => hasUnwritableMember members
  | oddKey key v => isUnwritable key || isUnwritable v
  | _ => false

def hasUnwritable : List Value → Bool
  | [] => false
  | v :: rest => isUnwritable v || hasUnwritable rest

def hasUnwritableMember : List (String × Value) → Bool
  | [] => false
  | (_, v) :: rest => isUnwritable v || hasUnwritableMember rest

end

end DocComment.Value
