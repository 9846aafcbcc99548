import DocComment.Data.Display
import DocComment.Data.Yaml.Atom
import DocComment.Data.Yaml.Node

/-! The plain data of a YAML document. An alias stands for the node of that name
before it. Of two equal keys the later counts, and members that a mapping takes
in from another give way to its own. -/

namespace DocComment.Yaml

/-- The nodes that have names; those without a value are still open. -/
abbrev Anchors := List (List Char × Option Value)

/-- A member whose key is not a text goes by the text that shows the key. -/
def member? (key : Value) (v : Value) : Option (String × Value) :=
  match key with
  | .text s => some (s, v)
  | .list _ | .object _ => none
  | _ => some (key.display, .oddKey key v)

/-- Keys that are numbers are compared as numbers. -/
def sameKey (m n : String × Value) : Bool :=
  match m.2, n.2 with
  | .oddKey k _, .oddKey l _ => k.agrees l
  | .oddKey _ _, _ | _, .oddKey _ _ => false
  | _, _ => m.1 == n.1

/-- A key that is there keeps its form and its place. -/
def rename (m n : String × Value) : String × Value :=
  match m.2, n.2 with
  | .oddKey k _, .oddKey _ v => (m.1, .oddKey k v)
  | _, v => (m.1, v)

def addMember (m : String × Value) : List (String × Value) → List (String × Value)
  | [] => [m]
  | n :: rest => if sameKey n m then rename n m :: rest else n :: addMember m rest

def ofMembers (members : List (String × Value)) : Value :=
  .object (members.foldl (fun table m => addMember m table) [])

def object? : Value → Option (List (String × Value))
  | .object members => some members
  | _ => none

/-- The members that a mapping takes in: of several mappings the first goes
before the others. -/
def merged? : Value → Option (List (String × Value))
  | .object members => some members
  | .list items => (items.mapM object?).map fun tables => tables.reverse.flatten
  | _ => none

def core (name : String) : List Char := coreStart ++ name.toList

/-- What a scalar stands for. A tag of its own may ask for one kind. -/
def atom (props : Properties) (text : List Char) (plain : Bool) : Option Atom :=
  let word := Value.text (String.ofList text)
  match props.tag with
  | none => if plain then Atom.ofPlain text else some (.value word)
  | some tag =>
    if tag = ['!'] then Atom.ofPlain text
    else if tag = core "str" then some (.value word)
    else if tag = core "null" then some (.value .null)
    else if tag = core "merge" then some .merge
    else if tag = core "value" then some .default
    else
      match Atom.ofPlain text with
      | some (.value (.bool b)) => if tag = core "bool" then some (.value (.bool b)) else none
      | some (.value (.float x)) => if tag = core "float" then some (.value (.float x)) else none
      | some (.value (.int i)) =>
        if tag = core "int" then some (.value (.int i))
        else if tag = core "float" then some (.value (.float (Float.ofInt i)))
        else none
      | _ => none

/-- A collection has no tag, or the one of its kind. -/
def hasKind (props : Properties) (name : String) : Bool :=
  props.tag.all fun t => t == ['!'] || t == core name

/-- Opens a name, which must be new. -/
def openAnchor (props : Properties) (anchors : Anchors) : Option Anchors :=
  match props.anchor with
  | none => some anchors
  | some name => if Assoc.contains name anchors then none else some (anchors ++ [(name, none)])

def closeAnchor (props : Properties) (v : Value) (anchors : Anchors) : Anchors :=
  match props.anchor with
  | none => anchors
  | some name => Assoc.insert name (some v) anchors

mutual

def value : Node → Anchors → Option (Value × Anchors)
  | .reference name, anchors => (anchors.lookup name).join.map fun v => (v, anchors)
  | .scalar props text plain, anchors => do
    let anchors ← openAnchor props anchors
    match ← atom props text plain with
    | .value v => return (v, closeAnchor props v anchors)
    | _ => none
  | .sequence props items, anchors => do
    let anchors ← openAnchor props anchors
    let (vs, anchors) ← values items anchors
    if hasKind props "seq" then
      let v := Value.list vs
      return (v, closeAnchor props v anchors)
    else none
  | .mapping props pairs, anchors => do
    let anchors ← openAnchor props anchors
    let (taken, own, anchors) ← members pairs anchors
    if hasKind props "map" then
      let v := ofMembers (taken ++ own)
      return (v, closeAnchor props v anchors)
    else none

def values : List Node → Anchors → Option (List Value × Anchors)
  | [], anchors => some ([], anchors)
  | n :: rest, anchors => do
    let (v, anchors) ← value n anchors
    let (vs, anchors) ← values rest anchors
    return (v :: vs, anchors)

/-- The members taken in from other mappings, and those of the mapping itself. -/
def members : List (Node × Node) → Anchors →
    Option (List (String × Value) × List (String × Value) × Anchors)
  | [], anchors => some ([], [], anchors)
  | (k, n) :: rest, anchors => do
    match k with
    | .scalar props text plain =>
      let opened ← openAnchor props anchors
      match ← atom props text plain with
      | .merge =>
        let (v, anchors) ← value n opened
        let more ← merged? v
        let (taken, own, anchors) ← members rest anchors
        return (more ++ taken, own, anchors)
      | .default =>
        let (v, anchors) ← value n (closeAnchor props (.text "=") opened)
        let (taken, own, anchors) ← members rest anchors
        return (taken, ("=", v) :: own, anchors)
      | .value key =>
        let (v, anchors) ← value n (closeAnchor props key opened)
        let m ← member? key v
        let (taken, own, anchors) ← members rest anchors
        return (taken, m :: own, anchors)
    | other =>
      let (key, anchors) ← value other anchors
      let (v, anchors) ← value n anchors
      let m ← member? key v
      let (taken, own, anchors) ← members rest anchors
      return (taken, m :: own, anchors)

end

/-- Characters that may stand in a text. -/
def isAllowed (c : Char) : Bool :=
  let n := c.toNat
  n == 9 || n == 10 || n == 13 || (32 ≤ n && n ≤ 126) || n == 0x85 ||
    (0xA0 ≤ n && n != 0xFFFE && n != 0xFFFF)

/-- The data of a text with one document; that of an empty one is null. -/
def parse (text : List Char) : Option Value := do
  if !text.all isAllowed then none
  let (v, _) ← value (← document (← tokens text)) []
  return v

end DocComment.Yaml
