import DocComment.Data.Yaml.Token

/-! YAML tokens as a tree of nodes. A node that is left out is an empty plain
scalar. -/

namespace DocComment.Yaml

/-- An anchor gives a node a name; a tag says what it is. -/
structure Properties where
  anchor : Option (List Char) := none
  tag : Option (List Char) := none
  deriving DecidableEq, Repr, Inhabited

inductive Node where
  | reference (name : List Char)
  | scalar (props : Properties) (text : List Char) (plain : Bool)
  | sequence (props : Properties) (items : List Node)
  | mapping (props : Properties) (pairs : List (Node × Node))
  deriving Inhabited

def Node.empty : Node := .scalar {} [] true

/-- What the handles of tags stand for. -/
abbrev Handles := List (List Char × List Char)

def coreStart : List Char := "tag:yaml.org,2002:".toList

def defaultHandles : Handles := [(['!'], ['!']), (['!', '!'], coreStart)]

def fullTag (handles : Handles) (handle : Option (List Char)) (suffix : List Char) :
    Option (List Char) :=
  match handle with
  | none => some suffix
  | some h => (handles.lookup h).map (· ++ suffix)

/-- The anchor and the tag before a node, in any order. -/
def properties (handles : Handles) (ts : List Token) : Option (Properties × List Token) :=
  match ts with
  | .anchor a :: .tag h suffix :: rest | .tag h suffix :: .anchor a :: rest =>
    (fullTag handles h suffix).map fun t => ({ anchor := some a, tag := some t }, rest)
  | .anchor a :: rest => some ({ anchor := some a }, rest)
  | .tag h suffix :: rest => (fullTag handles h suffix).map fun t => ({ tag := some t }, rest)
  | _ => some ({}, ts)

/-- Where a node stands decides which forms it may have. -/
inductive Place where
  | flow
  | block
  /-- The items of a list need not be indented more than the key before them. -/
  | blockValue
  deriving DecidableEq, Repr

/-- Nothing but the empty node can stand before these tokens. -/
def endsBlockPart : List Token → Bool
  | [] => false
  | t :: _ => [Token.key, .colon, .blockEnd].contains t

def endsItem : List Token → Bool
  | [] => false
  | t :: _ => [Token.item, .blockEnd].contains t

def endsLooseItem (ts : List Token) : Bool := ts.head? == some .item || endsBlockPart ts

def endsFlowKey (closing : Token) : List Token → Bool
  | [] => false
  | t :: _ => [Token.colon, .comma, closing].contains t

def endsFlowValue (closing : Token) : List Token → Bool
  | [] => false
  | t :: _ => [Token.comma, closing].contains t

mutual

def node (handles : Handles) (place : Place) : Nat → List Token → Option (Node × List Token)
  | 0, _ => none
  | fuel + 1, ts =>
    match ts with
    | .reference name :: rest => some (.reference name, rest)
    | _ => do
      let (props, ts) ← properties handles ts
      match ts with
      | .item :: _ =>
        if place = .blockValue then
          let (items, rest) ← looseItems handles fuel [] ts
          return (.sequence props items, rest)
        else bare props ts
      | .scalar text plain :: rest => return (.scalar props text plain, rest)
      | .openList :: rest =>
        let (items, rest) ← flowItems handles fuel [] rest
        return (.sequence props items, rest)
      | .openMap :: rest =>
        let (pairs, rest) ← flowPairs handles fuel [] rest
        return (.mapping props pairs, rest)
      | .blockSequence :: rest =>
        if place = .flow then bare props ts
        else
          let (items, rest) ← blockItems handles fuel [] rest
          return (.sequence props items, rest)
      | .blockMapping :: rest =>
        if place = .flow then bare props ts
        else
          let (pairs, rest) ← blockPairs handles fuel [] rest
          return (.mapping props pairs, rest)
      | _ => bare props ts

/-- A node may be left out when it has an anchor or a tag. -/
def bare (props : Properties) (ts : List Token) : Option (Node × List Token) :=
  if props = {} then none else some (.scalar props [] true, ts)

def blockItems (handles : Handles) : Nat → List Node → List Token → Option (List Node × List Token)
  | 0, _, _ => none
  | fuel + 1, done, ts =>
    match ts with
    | .item :: rest => do
      let (n, rest) ←
        if endsItem rest then some (Node.empty, rest) else node handles .block fuel rest
      blockItems handles fuel (n :: done) rest
    | .blockEnd :: rest => some (done.reverse, rest)
    | _ => none

/-- Items that end where the mapping around them goes on. -/
def looseItems (handles : Handles) : Nat → List Node → List Token → Option (List Node × List Token)
  | 0, _, _ => none
  | fuel + 1, done, ts =>
    match ts with
    | .item :: rest => do
      let (n, rest) ←
        if endsLooseItem rest then some (Node.empty, rest) else node handles .block fuel rest
      looseItems handles fuel (n :: done) rest
    | _ => some (done.reverse, ts)

def blockPairs (handles : Handles) :
    Nat → List (Node × Node) → List Token → Option (List (Node × Node) × List Token)
  | 0, _, _ => none
  | fuel + 1, done, ts =>
    match ts with
    | .key :: rest => do
      let (k, rest) ←
        if endsBlockPart rest then some (Node.empty, rest) else node handles .blockValue fuel rest
      let (v, rest) ← match rest with
        | .colon :: rest =>
          if endsBlockPart rest then some (Node.empty, rest)
          else node handles .blockValue fuel rest
        | _ => some (Node.empty, rest)
      blockPairs handles fuel ((k, v) :: done) rest
    | .blockEnd :: rest => some (done.reverse, rest)
    | _ => none

/-- A key after its sign and its value, before a comma or the closing bracket. -/
def flowPair (handles : Handles) (closing : Token) :
    Nat → List Token → Option ((Node × Node) × List Token)
  | 0, _ => none
  | fuel + 1, ts => do
    let (k, rest) ←
      if endsFlowKey closing ts then some (Node.empty, ts) else node handles .flow fuel ts
    match rest with
    | .colon :: rest =>
      let (v, rest) ←
        if endsFlowValue closing rest then some (Node.empty, rest) else node handles .flow fuel rest
      return ((k, v), rest)
    | _ => return ((k, Node.empty), rest)

/-- Items up to the closing bracket. An item may be a pair. -/
def flowItems (handles : Handles) : Nat → List Node → List Token → Option (List Node × List Token)
  | 0, _, _ => none
  | fuel + 1, done, ts =>
    match ts with
    | .closeList :: rest => some (done.reverse, rest)
    | _ => do
      let (n, rest) ← match ts with
        | .key :: rest => do
          let (pair, rest) ← flowPair handles .closeList fuel rest
          some (Node.mapping {} [pair], rest)
        | _ => node handles .flow fuel ts
      match rest with
      | .comma :: rest => flowItems handles fuel (n :: done) rest
      | .closeList :: rest => return ((n :: done).reverse, rest)
      | _ => none

def flowPairs (handles : Handles) :
    Nat → List (Node × Node) → List Token → Option (List (Node × Node) × List Token)
  | 0, _, _ => none
  | fuel + 1, done, ts =>
    match ts with
    | .closeMap :: rest => some (done.reverse, rest)
    | _ => do
      let (pair, rest) ← match ts with
        | .key :: rest => flowPair handles .closeMap fuel rest
        | _ => do
          let (k, rest) ← node handles .flow fuel ts
          some ((k, Node.empty), rest)
      match rest with
      | .comma :: rest => flowPairs handles fuel (pair :: done) rest
      | .closeMap :: rest => return ((pair :: done).reverse, rest)
      | _ => none

end

/-- Directives before a document. Each may be given once, and the version must
be one of the first. -/
def directives : Bool → Handles → List Token → Option (Handles × List Token)
  | versioned, handles, .directive (.version major) :: rest =>
    if versioned || major != 1 then none else directives true handles rest
  | versioned, handles, .directive (.handle name start) :: rest =>
    if (handles.lookup name).isSome then none
    else directives versioned (handles ++ [(name, start)]) rest
  | versioned, handles, .directive .other :: rest => directives versioned handles rest
  | _, handles, ts => some (handles, ts)

/-- After a document nothing but markers may follow. -/
def lastDocument (read : Node × List Token) : Option Node :=
  if (read.2.dropWhile (· == .documentEnd)).isEmpty then some read.1 else none

/-- The content of a document after its marker. -/
def documentNode (handles : Handles) (ts : List Token) : Option (Node × List Token) :=
  match ts with
  | [] | .directive _ :: _ | .documentStart :: _ | .documentEnd :: _ => some (Node.empty, ts)
  | _ => node handles .block (3 * ts.length + 3) ts

/-- The only document of a text. -/
def document (ts : List Token) : Option Node :=
  match ts with
  | [] => some Node.empty
  | .directive _ :: _ | .documentStart :: _ => do
    let (given, rest) ← directives false [] ts
    let handles := given ++ defaultHandles
    match rest with
    | .documentStart :: rest => (documentNode handles rest).bind lastDocument
    | _ => none
  | _ => (node defaultHandles .block (3 * ts.length + 3) ts).bind lastDocument

end DocComment.Yaml
