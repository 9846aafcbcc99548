import DocComment.Data.Assoc
import DocComment.Number.Binary64

/-! Plain data, as batch files, settings files and log fields hold it. The
members of an object keep the order in which they were written. -/

namespace DocComment

inductive Value where
  | null
  | bool (b : Bool)
  | int (i : Int)
  | float (x : Float)
  | text (s : String)
  | list (items : List Value)
  | object (members : List (String × Value))
  /-- The value of a member whose key is not a text; the name of the member
  shows the key. -/
  | oddKey (key v : Value)
  deriving Inhabited

namespace Value

/-- The member of that name. -/
def get? (v : Value) (key : String) : Option Value :=
  match v with
  | object members => members.lookup key
  | _ => none

/-- The member of that name, unless it is null. -/
def given? (v : Value) (key : String) : Option Value :=
  match v.get? key with
  | some null => none
  | found => found

def text? : Value → Option String
  | text s => some s
  | _ => none

def bool? : Value → Option Bool
  | bool b => some b
  | _ => none

def list? : Value → Option (List Value)
  | list items => some items
  | _ => none

def ofText? : Option String → Value
  | some s => text s
  | none => null

def texts (items : List String) : Value := list (items.map text)

/-- The whole number that a number or truth value counts as, if any. -/
def whole? : Value → Option Int
  | bool b => some (if b then 1 else 0)
  | int i => some i
  | float x => Number.whole? x
  | _ => none

/-- Comparison of everything but lists and mappings. Numbers and truth values
are compared as numbers. -/
def agreesAtom (v w : Value) : Bool :=
  match v, w with
  | null, null => true
  | text s, text t => s == t
  | float x, float y => x == y
  | _, _ =>
    match v.whole?, w.whole? with
    | some i, some j => i == j
    | _, _ => false

mutual

/-- Equality of plain data: the order of members does not matter. -/
def agrees : Value → Value → Bool
  | list xs, list ys => agreesItems xs ys
  | object ms, object ns => ms.length == ns.length && agreesMembers ms ns
  | oddKey _ v, oddKey _ w => agrees v w
  | v, w => agreesAtom v w

def agreesItems : List Value → List Value → Bool
  | [], [] => true
  | v :: vs, w :: ws => agrees v w && agreesItems vs ws
  | _, _ => false

def agreesMembers : List (String × Value) → List (String × Value) → Bool
  | [], _ => true
  | (key, v) :: rest, ns =>
    (match ns.lookup key with
      | some w => agrees v w
      | none => false) && agreesMembers rest ns

end

/-- Members in order, a later one of the same name replacing an earlier one. -/
def ofMembers (members : List (String × Value)) : Value := object (Assoc.ofPairs members)

end Value

end DocComment
