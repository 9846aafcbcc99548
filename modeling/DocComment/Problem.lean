import DocComment.Data.Json.Writer

/-! Errors as they are reported: with a class, a stable code, a status and a
context, and as problem details in JSON. -/

namespace DocComment

inductive ErrorCode where
  | invalidScope
  | invalidInput
  | tagDefinition
  | configuration
  | runtime
  deriving DecidableEq, Repr

namespace ErrorCode

def all : List ErrorCode := [.invalidScope, .invalidInput, .tagDefinition, .configuration, .runtime]

def text : ErrorCode → String
  | .invalidScope => "invalid-scope"
  | .invalidInput => "invalid-input"
  | .tagDefinition => "tag-definition-error"
  | .configuration => "configuration-error"
  | .runtime => "runtime-error"

def ofText? (s : String) : Option ErrorCode := all.find? (·.text == s)

def typeUri (c : ErrorCode) : String := "https://docletkit.dev/problems/" ++ c.text

end ErrorCode

inductive ErrorClass where
  | general
  | invalidScope
  | configuration
  | tagDefinition
  | inputDecode
  deriving DecidableEq, Repr

namespace ErrorClass

def all : List ErrorClass :=
  [.general, .invalidScope, .configuration, .tagDefinition, .inputDecode]

def name : ErrorClass → String
  | .general => "DocletKitError"
  | .invalidScope => "InvalidScopeError"
  | .configuration => "ConfigurationError"
  | .tagDefinition => "TagDefinitionError"
  | .inputDecode => "InputDecodeError"

def ofName? (s : String) : Option ErrorClass := all.find? (·.name == s)

def code : ErrorClass → ErrorCode
  | .general => .runtime
  | .invalidScope => .invalidScope
  | .configuration => .configuration
  | .tagDefinition => .tagDefinition
  | .inputDecode => .invalidInput

def status : ErrorClass → Int
  | .general => 500
  | .invalidScope => 422
  | .configuration => 500
  | .tagDefinition => 500
  | .inputDecode => 400

/-- The level at which the error is logged. -/
def level : ErrorClass → Nat
  | .inputDecode => 30
  | _ => 40

end ErrorClass

/-- Problem details. A code or extensions may be missing. -/
structure Problem where
  type : String
  title : String
  status : Int
  detail : String
  occurrence : String
  code : Option String := none
  extensions : List (String × Value) := []

def Problem.encode (p : Problem) : Value :=
  .object ([("type", .text p.type), ("title", .text p.title), ("status", .int p.status),
      ("detail", .text p.detail), ("instance", .text p.occurrence)] ++
    (match p.code with
      | some code => [("code", .text code)]
      | none => []) ++
    if p.extensions.isEmpty then [] else [("extensions", .object p.extensions)])

def Problem.render (p : Problem) (indent : Option Nat) : String :=
  (Json.report indent).write p.encode

/-- An error as it is reported. -/
structure Report where
  cls : ErrorClass
  message : String
  code : ErrorCode := cls.code
  status : Int := cls.status
  context : List (String × Value) := []
  /-- The kind of failure that led to the error. -/
  cause : Option String := none

namespace Report

/-- One line with class, code and message, and the cause if there is one. -/
def text (r : Report) : String :=
  r.cls.name ++ "[" ++ r.code.text ++ "]: " ++ r.message ++
    match r.cause with
    | some cause => " (caused by: " ++ cause ++ ")"
    | none => ""

/-- An empty title or occurrence counts as none. -/
def problem (r : Report) (occurrence title : Option String) : Problem where
  type := r.code.typeUri
  title := (title.filter (· != "")).getD r.cls.name
  status := r.status
  detail := r.message
  occurrence := (occurrence.filter (· != "")).getD "urn:docletkit:error"
  code := some r.code.text
  extensions := r.context

/-- A scope that is not among the accepted ones. -/
def invalidScope (scope : String) (accepted : List String) (file : Option String) : Report :=
  let quoted := String.intercalate "," (accepted.map fun name => "\"" ++ name ++ "\"")
  let file := file.filter (· != "")
  { cls := .invalidScope
    message := "The scope name \"" ++ scope ++ "\" is not recognized. " ++
      "Use one of the following values: [" ++ quoted ++ "]" ++
      match file with
      | some path => " (Source file: " ++ path ++ ")"
      | none => ""
    context := [("scope", .text scope), ("accepted", Value.texts accepted)] ++
      match file with
      | some path => [("filepath", .text path)]
      | none => [] }

end Report

end DocComment
