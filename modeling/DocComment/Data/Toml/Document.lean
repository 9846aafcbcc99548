import DocComment.Data.Toml.Scalar

/-! TOML documents. A table may be opened by a header once, a key may be given
once, and arrays and tables written inside a value cannot be added to later. -/

namespace DocComment.Toml

abbrev Table := List (String × Value)

abbrev Key := List String

def isBareKey (c : Char) : Bool := c.isAlphanum || c == '-' || c == '_'

def keyPart (s : List Char) : Option (String × List Char) :=
  match s with
  | '"' :: rest =>
    (basic false (rest.length + 1) [] rest).map fun (body, rest) => (String.ofList body, rest)
  | '\'' :: rest => literal rest
  | _ =>
    let bare := s.takeWhile isBareKey
    if bare.isEmpty then none else some (String.ofList bare, s.drop bare.length)

/-- Parts of a key, divided by points. -/
def key : Nat → List Char → Option (Key × List Char)
  | 0, _ => none
  | fuel + 1, s => do
    let (part, rest) ← keyPart s
    match skipSpace rest with
    | '.' :: rest =>
      let (more, rest) ← key fuel (skipSpace rest)
      return (part :: more, rest)
    | rest => return ([part], rest)

/-- Changes the table behind a key, making tables that are missing. Behind an
array of tables the last one counts, if arrays may be entered at all. -/
def under (enterArrays : Bool) (change : Table → Option Table) : Key → Table → Option Table
  | [], table => change table
  | k :: path, table =>
    match table.lookup k with
    | none => (under enterArrays change path []).map fun t => table ++ [(k, .object t)]
    | some (.object t) =>
      (under enterArrays change path t).map fun t => Assoc.insert k (.object t) table
    | some (.list items) =>
      if enterArrays then
        match items.getLast? with
        | some (.object t) =>
          (under enterArrays change path t).map fun t =>
            Assoc.insert k (.list (items.dropLast ++ [.object t])) table
        | _ => none
      else none
    | some _ => none

/-- Gives a key that is new its value. -/
def put (name : String) (v : Value) (table : Table) : Option Table :=
  if Assoc.contains name table then none else some (table ++ [(name, v)])

def isNested : Value → Bool
  | .object _ => true
  | .list _ => true
  | _ => false

/-- Whether a key lies at or below one of those given. -/
def isBelow (keys : List Key) (k : Key) : Bool := keys.any fun top => top.isPrefixOf k

mutual

def value : Nat → List Char → Option (Value × List Char)
  | 0, _ => none
  | fuel + 1, s =>
    match s with
    | '[' :: rest => (skipFiller (rest.length + 1) rest).bind (arrayItems fuel [])
    | '\x7b' :: rest =>
      match skipSpace rest with
      | '\x7d' :: rest => some (.object [], rest)
      | rest => inlineMembers fuel [] [] rest
    | _ => scalar s

def arrayItems : Nat → List Value → List Char → Option (Value × List Char)
  | 0, _, _ => none
  | _ + 1, done, ']' :: rest => some (.list done.reverse, rest)
  | fuel + 1, done, s => do
    let (v, rest) ← value fuel s
    match ← skipFiller (rest.length + 1) rest with
    | ']' :: rest => return (.list (v :: done).reverse, rest)
    | ',' :: rest => arrayItems fuel (v :: done) (← skipFiller (rest.length + 1) rest)
    | _ => none

/-- `closed` holds the keys of arrays and tables, which cannot be added to. -/
def inlineMembers : Nat → Table → List Key → List Char → Option (Value × List Char)
  | 0, _, _, _ => none
  | fuel + 1, table, closed, s => do
    let (k, rest) ← key (s.length + 1) s
    let rest ← expect '=' rest
    let (v, rest) ← value fuel (skipSpace rest)
    if isBelow closed k then none
    let table ← under false (put (k.getLast?.getD "") v) k.dropLast table
    match skipSpace rest with
    | '\x7d' :: rest => return (.object table, rest)
    | ',' :: rest =>
      inlineMembers fuel table (if isNested v then k :: closed else closed) (skipSpace rest)
    | _ => none

end

/-- A document while it is being read. -/
structure Draft where
  table : Table := []
  /-- The table that the keys belong to. -/
  header : Key := []
  /-- Keys that no header may open any more. -/
  opened : List Key := []
  /-- Keys that dotted keys have made since the last header. -/
  pending : List Key := []
  /-- Keys of values that cannot be added to. -/
  closed : List Key := []

/-- All beginnings of a key but the empty and the whole one. -/
def properStarts (k : Key) : List Key :=
  (List.range (k.length - 1)).map fun i => k.take (i + 1)

def addPair (d : Draft) (k : Key) (v : Value) : Option Draft := do
  let made := (properStarts k).map (d.header ++ ·)
  if made.any d.opened.contains then none
  let parent := d.header ++ k.dropLast
  if isBelow d.closed parent then none
  let table ← under true (put (k.getLast?.getD "") v) parent d.table
  return { d with
    table
    pending := d.pending ++ made
    closed := if isNested v then (d.header ++ k) :: d.closed else d.closed }

def openTable (d : Draft) (k : Key) : Option Draft := do
  if d.opened.contains k || isBelow d.closed k then none
  let table ← under true some k d.table
  return { d with table, header := k, opened := k :: d.opened }

/-- Adds a table to an array of tables. -/
def appendTable (name : String) (table : Table) : Option Table :=
  match table.lookup name with
  | none => some (table ++ [(name, .list [.object []])])
  | some (.list items) => some (Assoc.insert name (.list (items ++ [.object []])) table)
  | some _ => none

def openItem (d : Draft) (k : Key) : Option Draft := do
  if isBelow d.closed k then none
  let table ← under true (appendTable (k.getLast?.getD "")) k.dropLast d.table
  let kept (keys : List Key) := keys.filter fun other => !k.isPrefixOf other
  return { d with table, header := k, opened := k :: kept d.opened, closed := kept d.closed }

/-- One statement: a pair, or the header of a table or of an item. -/
def statement (d : Draft) (s : List Char) : Option (Draft × List Char) :=
  let settled := { d with opened := d.opened ++ d.pending, pending := [] }
  match s with
  | '[' :: '[' :: rest => do
    let (k, rest) ← key (rest.length + 1) (skipSpace rest)
    let d ← openItem settled k
    let rest ← expect ']' (← expect ']' rest)
    return (d, rest)
  | '[' :: rest => do
    let (k, rest) ← key (rest.length + 1) (skipSpace rest)
    let d ← openTable settled k
    let rest ← expect ']' rest
    return (d, rest)
  | _ => do
    let (k, rest) ← key (s.length + 1) s
    let rest ← expect '=' rest
    let (v, rest) ← value (2 * rest.length + 2) (skipSpace rest)
    let d ← addPair d k v
    return (d, rest)

/-- Statements and comments, one to a line. -/
def statements : Nat → Draft → List Char → Option Draft
  | 0, _, _ => none
  | fuel + 1, d, s =>
    match skipSpace s with
    | [] => some d
    | '\n' :: rest => statements fuel d rest
    | rest => do
      let (d, rest) ← if rest.head? = some '#' then some (d, rest) else statement d rest
      match ← skipComment (skipSpace rest) with
      | [] => return d
      | '\n' :: rest => statements fuel d rest
      | _ => none

/-- Line ends of two characters count as one. -/
def joinLineEnds : List Char → List Char
  | [] => []
  | '\r' :: '\n' :: rest => '\n' :: joinLineEnds rest
  | c :: rest => c :: joinLineEnds rest

def parse (s : String) : Option Table :=
  let cs := joinLineEnds s.toList
  (statements (cs.length + 1) {} cs).map (·.table)

end DocComment.Toml
