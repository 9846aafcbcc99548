import DocComment.Data.Value

/-! The settings of the engine and their names. -/

namespace DocComment

structure Settings where
  /-- The sort value of doclets without a sort tag. -/
  sortSentinel : Int := 9999999
  /-- Stands for the types that a union has no room for. -/
  truncationMarker : String := "$ts:..."
  interfaceTypeName : String := "TSInterface"
  aliasTypeName : String := "TSType"
  /-- Marks rest parameters by their names. -/
  variadicMarker : String := "..."
  /-- Whether syntax nodes are let go when a doclet is finished. -/
  releaseNodes : Bool := false
  logLevel : String := "INFO"
  deriving DecidableEq, Repr, Inhabited

namespace Settings

inductive Field where
  | sortSentinel
  | truncationMarker
  | interfaceTypeName
  | aliasTypeName
  | variadicMarker
  | releaseNodes
  | logLevel
  deriving DecidableEq, Repr

def Field.all : List Field :=
  [.sortSentinel, .truncationMarker, .interfaceTypeName, .aliasTypeName, .variadicMarker,
    .releaseNodes, .logLevel]

def Field.name : Field → String
  | .sortSentinel => "sort_sentinel"
  | .truncationMarker => "truncation_marker"
  | .interfaceTypeName => "interface_type_name"
  | .aliasTypeName => "alias_type_name"
  | .variadicMarker => "variadic_marker"
  | .releaseNodes => "release_syntax_nodes"
  | .logLevel => "log_level"

def encode (s : Settings) : Value :=
  .object
    [(Field.sortSentinel.name, .int s.sortSentinel),
      (Field.truncationMarker.name, .text s.truncationMarker),
      (Field.interfaceTypeName.name, .text s.interfaceTypeName),
      (Field.aliasTypeName.name, .text s.aliasTypeName),
      (Field.variadicMarker.name, .text s.variadicMarker),
      (Field.releaseNodes.name, .bool s.releaseNodes),
      (Field.logLevel.name, .text s.logLevel)]

end Settings

end DocComment
