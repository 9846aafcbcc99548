import DocComment.SyntaxNode

/-! What is known about the place and the code of a documented symbol. -/

namespace DocComment

/-- The symbol as the walker of the syntax tree reports it. A null value counts
as none. -/
structure SourceSymbol where
  name : Option String := none
  type : Option String := none
  value : Value := .null
  paramNames : Option (List String) := none
  funcScope : Option String := none
  node : Option SyntaxNode := none
  facts : Option (List Fact) := none
  deriving Inhabited

structure Source where
  range : Option (List Int) := none
  filename : Option String := none
  line : Option Int := none
  column : Option Int := none
  id : Option String := none
  code : Option SourceSymbol := none
  deriving Inhabited

def SourceSymbol.read (s : SourceSymbol) (key : String) (v : Value) : Decode SourceSymbol :=
  match key with
  | "name" => do return { s with name := ← Decode.text? v }
  | "type" => do return { s with type := ← Decode.text? v }
  | "value" => return { s with value := v }
  | "paramnames" => do return { s with paramNames := ← Decode.list? Decode.text v }
  | "funcscope" => do return { s with funcScope := ← Decode.text? v }
  | "node" => do return { s with node := ← SyntaxNode.decode? v }
  | "extras" => do return { s with facts := ← Decode.list? Fact.decode v }
  | _ => return s

def Source.read (s : Source) (key : String) (v : Value) : Decode Source :=
  match key with
  | "range" => do return { s with range := ← Decode.list? Decode.int v }
  | "filename" => do return { s with filename := ← Decode.text? v }
  | "lineno" => do return { s with line := ← Decode.int? v }
  | "columnno" => do return { s with column := ← Decode.int? v }
  | "id" => do return { s with id := ← Decode.text? v }
  | "code" => do return { s with code := ← Decode.object? SourceSymbol.read {} v }
  | _ => return s

/-- Why plain data is no source record. A second doclet for the symbol cannot be
given as plain data. -/
inductive SourceError where
  | mismatch (e : DecodeError)
  | twinGiven
  deriving DecidableEq, Repr

def Source.decode : Value → Except SourceError Source
  | .null => .ok {}
  | v =>
    match Decode.object Source.read {} v with
    | .error e => .error (.mismatch e)
    | .ok source => if (v.given? "doclet").isSome then .error .twinGiven else .ok source

def valueMember (key : String) : Value → List (String × Value)
  | .null => []
  | v => [(key, v)]

def SourceSymbol.encode (s : SourceSymbol) : Value :=
  .object (Value.textMember? "name" s.name ++ Value.textMember? "type" s.type ++
    valueMember "value" s.value ++ Value.member? "paramnames" Value.texts s.paramNames ++
    Value.textMember? "funcscope" s.funcScope ++ Value.member? "node" SyntaxNode.encode s.node ++
    Value.member? "extras" (fun fs => .list (Fact.encodeList fs)) s.facts)

def Source.encode (s : Source) : Value :=
  .object (Value.member? "range" (fun ns => .list (ns.map .int)) s.range ++
    Value.textMember? "filename" s.filename ++ Value.member? "lineno" .int s.line ++
    Value.member? "columnno" .int s.column ++ Value.textMember? "id" s.id ++
    Value.member? "code" SourceSymbol.encode s.code)

end DocComment
