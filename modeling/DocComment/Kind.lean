import DocComment.Comment.Tags
import DocComment.SyntaxNode

/-! The kind of a symbol whose comment names none, from the shape of the code. -/

namespace DocComment.Kind

def functionTypes : List String :=
  ["ArrowFunctionExpression", "FunctionDeclaration", "FunctionExpression", "MethodDefinition",
    "TSDeclareFunction", "TSDeclareMethod"]

def isFunctionType : Option String → Bool
  | some type => functionTypes.contains type
  | none => false

def ofMethod (methodKind : Option String) : String :=
  if methodKind == some "constructor" then "class"
  else if methodKind == some "get" || methodKind == some "set" then "member"
  else "function"

/-- The kind that the type of a node settles by itself. -/
def settled? (type methodKind : Option String) : Option String :=
  if type == some "MethodDefinition" then some (ofMethod methodKind)
  else if isFunctionType type then some "function"
  else if Comment.isClassType type then some "class"
  else none

mutual

/-- Exports are looked through; any other node is a parameter when it belongs to
a function. -/
def ofNode (type : Option String) : SyntaxNode → String
  | ⟨_, kind, parentType, _, _, declaration, source, localNode, _⟩ =>
    match settled? type kind with
    | some found => found
    | none =>
      if type == some "ExportAllDeclaration" then ofWrapped source
      else if type == some "ExportDefaultDeclaration" || type == some "ExportNamedDeclaration" then
        ofWrapped declaration
      else if type == some "ExportSpecifier" then ofWrapped localNode
      else if isFunctionType parentType then "param"
      else "member"

def ofWrapped : Option SyntaxNode → String
  | none => "member"
  | some n => ofNode (some n.type) n

end

def infer (type : Option String) : Option SyntaxNode → String
  | none => (settled? type none).getD "member"
  | some n => ofNode type n

end DocComment.Kind
