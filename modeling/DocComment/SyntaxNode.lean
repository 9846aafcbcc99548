import DocComment.Fact.Decode
import DocComment.Fact.Encode

/-! Nodes of the syntax tree around a documented symbol, as far as kinds and
declared types are looked up in them. Nodes of exports hold what they export. -/

namespace DocComment

structure SyntaxNode where
  type : String
  kind : Option String
  parentType : Option String
  fact : Option Fact
  children : List SyntaxNode
  declaration : Option SyntaxNode
  source : Option SyntaxNode
  localNode : Option SyntaxNode
  value : Value
  deriving Inhabited

namespace SyntaxNode

/-- The nodes one level down: the declaration that a node wraps, then its
children. -/
def next (n : SyntaxNode) : List SyntaxNode := n.declaration.toList ++ n.children

mutual

/-- How many nodes are reached level by level, the node itself included. -/
def size : SyntaxNode → Nat
  | ⟨_, _, _, _, children, declaration, _, _, _⟩ => 1 + sizeOption declaration + sizeList children

def sizeOption : Option SyntaxNode → Nat
  | none => 0
  | some n => size n

def sizeList : List SyntaxNode → Nat
  | [] => 0
  | n :: rest => size n + sizeList rest

end

theorem sizeList_append (ms ns : List SyntaxNode) :
    sizeList (ms ++ ns) = sizeList ms + sizeList ns := by
  induction ms with
  | nil => simp [sizeList]
  | cons m ms ih => simp [sizeList, ih, Nat.add_assoc]

theorem size_eq (n : SyntaxNode) : n.size = 1 + sizeList n.next := by
  obtain ⟨_, _, _, _, children, declaration, _, _, _⟩ := n
  cases declaration <;> simp [size, next, sizeOption, sizeList, Nat.add_assoc]

/-- The fact of a node, if it is of the wanted kind. -/
def factOf? (wanted : String) (n : SyntaxNode) : Option Fact :=
  n.fact.filter (·.tag.name == wanted)

/-- Searches the nodes of a queue, each node putting those below it at the
end. -/
def search (wanted : String) : List SyntaxNode → Option Fact
  | [] => none
  | n :: rest =>
    match n.factOf? wanted with
    | some fact => some fact
    | none => search wanted (rest ++ n.next)
termination_by queue => sizeList queue
decreasing_by simp only [sizeList_append, sizeList, size_eq n]; omega

/-- The first fact of the wanted kind at or below a node, in level order. -/
def find (wanted : String) (n : SyntaxNode) : Option Fact := search wanted [n]

mutual

def encode : SyntaxNode → Value
  | ⟨type, kind, parentType, fact, children, declaration, source, localNode, value⟩ =>
    .object (("type", .text type) :: Value.textMember? "kind" kind ++
      Value.textMember? "parentType" parentType ++ Value.member? "fact" Fact.encode fact ++
      Value.listMember "children" (encodeList children) ++
      encodeMember "declaration" declaration ++ encodeMember "source" source ++
      encodeMember "local" localNode ++
      match value with
      | .null => []
      | v => [("value", v)])

def encodeMember (key : String) : Option SyntaxNode → List (String × Value)
  | none => []
  | some n => [(key, encode n)]

def encodeList : List SyntaxNode → List Value
  | [] => []
  | n :: rest => encode n :: encodeList rest

end

/-- A node while it is being read. -/
structure Draft where
  type : Option String := none
  kind : Option String := none
  parentType : Option String := none
  fact : Option Fact := none
  children : List SyntaxNode := []
  declaration : Option SyntaxNode := none
  source : Option SyntaxNode := none
  localNode : Option SyntaxNode := none
  value : Value := .null

def Draft.finish (d : Draft) : Decode SyntaxNode :=
  match d.type with
  | none => .error ⟨[], .missing "type"⟩
  | some type =>
    .ok ⟨type, d.kind, d.parentType, d.fact, d.children, d.declaration, d.source, d.localNode,
      d.value⟩

def decodeFact? : Value → Decode (Option Fact)
  | .null => .ok none
  | .object ms => some <$> Fact.decode (.object ms)
  | v => Decode.wrong .object true v

mutual

def decode : Value → Decode SyntaxNode
  | .object ms => do
    let draft ← readMembers {} ms
    draft.finish
  | v => Decode.wrong .object false v

def decode? : Value → Decode (Option SyntaxNode)
  | .null => .ok none
  | .object ms => do
    let draft ← readMembers {} ms
    some <$> draft.finish
  | v => Decode.wrong .object true v

def readMembers (d : Draft) : List (String × Value) → Decode Draft
  | [] => .ok d
  | (key, v) :: rest => do
    let d ← Decode.member key v <|
      match key with
      | "type" => do return { d with type := some (← Decode.text v) }
      | "kind" => do return { d with kind := ← Decode.text? v }
      | "parentType" => do return { d with parentType := ← Decode.text? v }
      | "fact" => do return { d with fact := ← decodeFact? v }
      | "children" => do return { d with children := ← decodeList v }
      | "declaration" => do return { d with declaration := ← decode? v }
      | "source" => do return { d with source := ← decode? v }
      | "local" => do return { d with localNode := ← decode? v }
      | "value" => return { d with value := v }
      | _ => return d
    readMembers d rest

def decodeList : Value → Decode (List SyntaxNode)
  | .list vs => decodeItems 0 vs
  | v => Decode.wrong .list false v

def decodeItems (index : Nat) : List Value → Decode (List SyntaxNode)
  | [] => .ok []
  | v :: rest => do
    let n ← Decode.under (.item index) (decode v)
    let more ← decodeItems (index + 1) rest
    return n :: more

end

end SyntaxNode

end DocComment
