/-! Static facts about a documented symbol, as a type-aware reader of the source
code reports them. Every fact carries the source text it stands for. -/

namespace DocComment

/-- A type as written, perhaps with the identifier it stands for. -/
structure TypeRef where
  string : String := ""
  id : Option String := none
  deriving DecidableEq, Repr, Inhabited

/-- The documentation type: the identifier, or else the text. -/
def TypeRef.typeId (r : TypeRef) : String := r.id.getD r.string

/-- A declaration of type parameters. -/
structure TypeParams where
  string : String := ""
  params : List String := []
  deriving DecidableEq, Repr, Inhabited

/-- A plain parameter. The name of a rest parameter holds the variadic mark. -/
structure PlainParam where
  string : String := ""
  id : String := ""
  declared : Option TypeRef := none
  optional : Bool := false
  default : Option TypeRef := none
  deriving DecidableEq, Repr, Inhabited

/-- A parameter with a default value: `left = right`. -/
structure DefaultParam where
  string : String := ""
  left : PlainParam := {}
  right : Option TypeRef := none
  deriving DecidableEq, Repr, Inhabited

inductive BasicParam where
  | plain (p : PlainParam)
  | withDefault (p : DefaultParam)
  deriving DecidableEq, Repr, Inhabited

/-- A parameter of a constructor that also declares a property of the class. -/
structure PropertyParam where
  string : String := ""
  parameter : BasicParam
  accessibility : Option String := none
  deriving DecidableEq, Repr, Inhabited

inductive Param where
  | basic (p : BasicParam)
  | property (p : PropertyParam)
  deriving DecidableEq, Repr, Inhabited

/-- What all functions and methods have. -/
structure Callable where
  string : String := ""
  parameters : List Param := []
  returnType : TypeRef := {}
  typeParams : TypeParams := {}
  accessibility : Option String := none
  deriving DecidableEq, Repr, Inhabited

inductive CallableForm where
  | function
  | method
  | functionType
  | declaredFunction
  | declaredMethod
  deriving DecidableEq, Repr, Inhabited

structure ClassFact where
  string : String := ""
  implements : List TypeRef := []
  superClass : TypeRef := {}
  deriving DecidableEq, Repr, Inhabited

structure ClassFieldFact where
  string : String := ""
  accessibility : Option String := none
  declared : TypeRef := {}
  static : Bool := false
  deriving DecidableEq, Repr, Inhabited

/-- A member of an interface with the comments in front of it. -/
structure InterfaceMember where
  key : String := ""
  optional : Bool := false
  type : Option String := none
  declared : TypeRef := {}
  comments : List String := []
  deriving DecidableEq, Repr, Inhabited

structure InterfaceFact where
  string : String := ""
  bases : List TypeRef := []
  typeParams : TypeParams := {}
  body : List InterfaceMember := []
  deriving DecidableEq, Repr, Inhabited

structure AliasFact where
  string : String := ""
  typeParams : TypeParams := {}
  declared : TypeRef := {}
  deriving DecidableEq, Repr, Inhabited

/-- Types that enclose one other type. -/
inductive WrapForm where
  | annotated
  | parenthesized
  deriving DecidableEq, Repr, Inhabited

/-- Types put together from others. -/
inductive ComboForm where
  | union
  | intersection
  deriving DecidableEq, Repr, Inhabited

inductive Fact where
  | callable (form : CallableForm) (fact : Callable)
  | wrap (form : WrapForm) (string : String) (inner : Fact)
  | combo (form : ComboForm) (string : String) (types : List Fact)
  | classDecl (fact : ClassFact)
  | classField (fact : ClassFieldFact)
  | interface (fact : InterfaceFact)
  | typeAlias (fact : AliasFact)
  deriving Repr, Inhabited

/-- The kinds of facts. -/
inductive FactTag where
  | callable (form : CallableForm)
  | wrap (form : WrapForm)
  | combo (form : ComboForm)
  | classDecl
  | classField
  | interface
  | typeAlias
  deriving DecidableEq, Repr, Inhabited

namespace FactTag

def all : List FactTag :=
  [.callable .function, .callable .method, .callable .functionType, .callable .declaredFunction,
    .callable .declaredMethod, .wrap .annotated, .wrap .parenthesized, .combo .union,
    .combo .intersection, .classDecl, .classField, .interface, .typeAlias]

/-- The type of the syntax node that a fact comes from. -/
def name : FactTag → String
  | .callable .function => "FunctionDeclaration"
  | .callable .method => "MethodDefinition"
  | .callable .functionType => "TSFunctionType"
  | .callable .declaredFunction => "TSDeclareFunction"
  | .callable .declaredMethod => "TSDeclareMethod"
  | .wrap .annotated => "TSTypeAnnotation"
  | .wrap .parenthesized => "TSParenthesizedType"
  | .combo .union => "TSUnionType"
  | .combo .intersection => "TSIntersectionType"
  | .classDecl => "ClassDeclaration"
  | .classField => "ClassProperty"
  | .interface => "TSInterfaceDeclaration"
  | .typeAlias => "TSTypeAliasDeclaration"

def ofName? (s : String) : Option FactTag := all.find? (·.name == s)

end FactTag

namespace Fact

def tag : Fact → FactTag
  | callable form _ => .callable form
  | wrap form _ _ => .wrap form
  | combo form _ _ => .combo form
  | classDecl _ => .classDecl
  | classField _ => .classField
  | interface _ => .interface
  | typeAlias _ => .typeAlias

mutual

def same : Fact → Fact → Bool
  | callable f x, callable g y => f == g && x == y
  | wrap f s x, wrap g t y => f == g && s == t && same x y
  | combo f s xs, combo g t ys => f == g && s == t && sameList xs ys
  | classDecl x, classDecl y => x == y
  | classField x, classField y => x == y
  | interface x, interface y => x == y
  | typeAlias x, typeAlias y => x == y
  | _, _ => false

def sameList : List Fact → List Fact → Bool
  | [], [] => true
  | x :: xs, y :: ys => same x y && sameList xs ys
  | _, _ => false

end

end Fact

end DocComment
