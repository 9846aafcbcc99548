import DocComment.Data.Value
import DocComment.Text.Replace

/-! The form that data takes in encoded doclets: names in camel case, and no
members that are null. Items of lists stay even when they are null. -/

namespace DocComment.Value

/-- An underscore with a small letter becomes the capital letter. -/
def camelRule : List Char → Option (List Char × Nat)
  | '_' :: c :: _ => if 'a' ≤ c && c ≤ 'z' then some ([c.toUpper], 2) else none
  | _ => none

def camel (key : String) : String := String.ofList (Text.replaceBy camelRule key.toList)

def isNull : Value → Bool
  | null => true
  | oddKey _ v => isNull v
  | _ => false

mutual

/-- Of two members whose names become the same the later counts. -/
def clean : Value → Value
  | list items => list (cleanItems items)
  | object members => ofMembers (cleanMembers members)
  | oddKey _ v => clean v
  | v => v

def cleanItems : List Value → List Value
  | [] => []
  | v :: rest => clean v :: cleanItems rest

def cleanMembers : List (String × Value) → List (String × Value)
  | [] => []
  | (key, v) :: rest =>
    if v.isNull then cleanMembers rest else (camel key, clean v) :: cleanMembers rest

end

end DocComment.Value
