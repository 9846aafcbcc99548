import DocComment.Data.Display
import DocComment.Dictionary.Basic
import DocComment.Doclet.Progress
import DocComment.Text.Digit

/-! Applying tags to a doclet. Every tag first has its effect on the identity of
the doclet (`name`, `sort`, `kind` and `description`), then the hook of its
definition runs; tags without a definition are collected. A dictionary may have hooks
of any kind, so what they do is an argument of the steps that come to them. -/

namespace DocComment

/-- What hooks do to a doclet. -/
abbrev HookAction := Hook → Tag → Doclet → Progress

namespace Doclet

open Journal (Level)

def setText (d : Doclet) (field : TextField) (s : Option String) : Doclet :=
  match field with
  | .comment => { d with comment := s }
  | .name => { d with name := s }
  | .longname => { d with longname := s }
  | .memberof => { d with memberof := s }
  | .scope => { d with scope := s }
  | .kind => { d with kind := s }
  | .aliasName => { d with aliasName := s }
  | .variation => { d with variation := s }
  | .description => { d with description := s }
  | .classdesc => { d with classdesc := s }
  | .summary => { d with summary := s }
  | .since => { d with since := s }
  | .version => { d with version := s }
  | .deprecated => { d with deprecated := s.map .words }
  | .defaultValue => { d with defaultValue := s }
  | .this => { d with this := s }
  | .access => { d with access := s }
  | .filename => { d with filename := s }

def setFlag (d : Doclet) (field : FlagField) : Doclet :=
  match field with
  | .deprecated => { d with deprecated := some (.flag true) }
  | .readonly => { d with readonly := some true }
  | .virtual => { d with virtual := some true }
  | .ignore => { d with ignore := some true }
  | .isEnum => { d with isEnum := some true }

def appendText (d : Doclet) (field : ListField) (s : String) : Doclet :=
  match field with
  | .examples => { d with examples := added d.examples s }
  | .see => { d with see := added d.see s }
  | .todo => { d with todo := added d.todo s }
  | .augments => { d with augments := added d.augments s }
  | .implements => { d with implements := added d.implements s }
  | .mixes => { d with mixes := added d.mixes s }

/-- The first word of a text, or what stands in braces at its beginning. -/
def firstWord (s : List Char) : String :=
  let s := Text.trim s
  let braced := match s with
    | '\x7b' :: rest =>
      if rest.contains '\x7d' then some (rest.takeWhile (· != '\x7d')) else none
    | _ => none
  match braced with
  | some inside => String.ofList (Text.trim inside)
  | none => String.ofList (Text.cutWord s).1

/-- Whether a text goes on with blanks, the word `as`, and a new name; the name
is what follows. -/
def newName? (s : List Char) : Option (List Char) :=
  if s.head?.any Text.isBlank then
    match Text.trimLeft s with
    | 'a' :: 's' :: c :: d :: rest => if Text.isBlank c then some (d :: rest) else none
    | _ => none
  else none

/-- Splits a borrowing at the first place where it goes on with a new name.
`done` holds the characters before, last first. -/
def splitBorrowing (done : List Char) : List Char → List Char × Option (List Char)
  | [] => (done.reverse, none)
  | c :: rest =>
    match if done.isEmpty then none else newName? (c :: rest) with
    | some name => (done.reverse, some name)
    | none => splitBorrowing (c :: done) rest

def trimmedText (s : List Char) : String := String.ofList (Text.trim s)

def accessLevels : List String := ["public", "private", "protected"]

/-- A sign and digits after any blanks, with the number of digits. -/
def leadingInt? (s : List Char) : Option (Int × Nat) :=
  let s := Text.trimLeft s
  let (negative, s) := match s with
    | '-' :: rest => (true, rest)
    | '+' :: rest => (false, rest)
    | rest => (false, rest)
  let digits := (s.takeWhile fun c => (Text.digit? c).isSome).filterMap Text.digit?
  if digits.isEmpty then none
  else
    let n : Int := Text.ofDigits digits
    some (if negative then -n else n, digits.length)

def applySort (d : Doclet) (value : Option String) : Progress :=
  match leadingInt? (value.getD "").toList with
  | none =>
    { doclet := d
      notes := [note "docletkit.application" .warning "Ignoring non-numeric sort value"
        [("operation", .text "apply_tag"), ("status", .text "skipped"),
          ("value", Value.ofText? value)]] }
  | some (n, digits) =>
    if Text.maxNumeral < digits then
      { doclet := d, fault := some (.numeralTooLong (some digits)) }
    else { doclet := { d with sort := some n } }

/-- The effect that a tag has on the identity of a doclet whatever its
definition. -/
def applyBaseline (tag : Tag) (d : Doclet) : Progress :=
  match tag.title with
  | "name" => { doclet := { d with name := tag.plain? } }
  | "sort" => d.applySort tag.plain?
  | "kind" => d.tryKind tag.plain?
  | "description" => { doclet := { d with description := tag.plain? } }
  | _ => { doclet := d }

def applyDeclaration (kind : String) (withType : Bool) (tag : Tag) (d : Doclet) : Progress :=
  (d.tryKind (some kind)).change fun d =>
    match tag.value with
    | .parts p =>
      { d with
        name := (said p.name).or d.name
        types := if withType then d.types.or p.types else d.types }
    | .text s => if s = "" then d else { d with name := some s }
    | .none => d

def applyAccess (tag : Tag) (d : Doclet) : Progress :=
  let level := Text.lower (tag.plain?.getD "")
  if accessLevels.contains level then { doclet := d.setAccess (some level) }
  else
    { doclet := d
      notes := [note "docletkit.definitions" .warning "Ignoring unknown access level"
        [("operation", .text "apply_tag"), ("status", .text "skipped"), ("access", .text level)]] }

def setGlobal (d : Doclet) : Doclet :=
  { d with scope := some Scope.global.name, memberof := none }

def applyMemberof (tag : Tag) (d : Doclet) : Doclet :=
  let parent := tag.plain?.getD ""
  if parent.toList = Longname.globalName then d.setGlobal else d.setMemberof parent

def applyBorrows (tag : Tag) (d : Doclet) : Doclet :=
  match (tag.text.getD "").toList with
  | [] => d
  | s =>
    let (source, target) := splitBorrowing [] s
    d.borrow (trimmedText source) (target.map trimmedText)

/-- Without a text the default is the value in the code, if that can be written. -/
def applyDefault (tag : Tag) (d : Doclet) : Progress :=
  match said tag.text, d.place.code.value with
  | some s, _ => { doclet := { d with defaultValue := some s } }
  | none, .null => { doclet := d }
  | none, v =>
    if v.isUnwritable then { doclet := d, fault := some (.numeralTooLong none) }
    else { doclet := { d with defaultValue := some v.display } }

def paramOf (p : TagParts) : ParamDoc where
  name := p.name
  types := p.types
  description := p.description
  optional := p.optional
  default := p.default
  nullable := p.nullable
  variadic := p.variadic

def propertyOf (p : TagParts) : PropertyDoc where
  name := p.name
  types := p.types
  description := p.description
  optional := p.optional.map .flag
  default := p.default
  nullable := p.nullable.map .flag

def resultOf (p : TagParts) : ResultDoc := { types := p.types, description := p.description }

def applyHook (hook : Hook) (tag : Tag) (d : Doclet) : Progress :=
  let parts := tag.value.asParts
  let word := firstWord (tag.text.getD "").toList
  match hook with
  | .setText field => { doclet := d.setText field tag.plain? }
  | .setFlag field => { doclet := d.setFlag field }
  | .setScope scope => d.trySetScope scope
  | .setAccess level => { doclet := d.setAccess (some level) }
  | .appendText field =>
    match tag.text with
    | some s => { doclet := d.appendText field s }
    | none => { doclet := d }
  | .declare kind withType => applyDeclaration kind withType tag d
  | .access => applyAccess tag d
  | .augments => { doclet := if word = "" then d else d.augment word }
  | .implements =>
    { doclet := if word = "" then d else { d with implements := added d.implements word } }
  | .mixes => { doclet := if word = "" then d else d.mix word }
  | .borrows => { doclet := applyBorrows tag d }
  | .memberof => { doclet := applyMemberof tag d }
  | .global => { doclet := d.setGlobal }
  | .default => applyDefault tag d
  | .deprecated =>
    { doclet := { d with deprecated := some (((said tag.text).map .words).getD (.flag true)) } }
  | .enum =>
    (({ d with isEnum := some true } : Doclet).tryKind (some "member")).change fun d =>
      { d with types := d.types.or parts.types }
  | .param => { doclet := { d with params := added d.params (paramOf parts) } }
  | .property => { doclet := { d with properties := added d.properties (propertyOf parts) } }
  | .returns => { doclet := { d with returns := added d.returns (resultOf parts) } }
  | .throws => { doclet := { d with exceptions := added d.exceptions (resultOf parts) } }
  | .type => { doclet := { d with types := parts.types.or d.types } }

/-- What a tag does after its effect on the identity of the doclet. -/
def applyDefinitionWith (act : HookAction) (definition : Option TagDefinition) (tag : Tag)
    (d : Doclet) : Progress :=
  match definition with
  | none => { doclet := { d with tags := added d.tags tag } }
  | some t =>
    match t.hook with
    | some hook => act hook tag d
    | none => { doclet := d }

theorem applyDefinitionWith_of_hookless (act : HookAction) {t : TagDefinition}
    (h : t.hook = none) (tag : Tag) :
    applyDefinitionWith act (some t) tag = fun d => { doclet := d } := by
  funext d
  simp only [applyDefinitionWith, h]

theorem applyDefinitionWith_of_hook (act : HookAction) {t : TagDefinition} {hook : Hook}
    (h : t.hook = some hook) (tag : Tag) :
    applyDefinitionWith act (some t) tag = act hook tag := by
  funext d
  simp only [applyDefinitionWith, h]

/-- Applies a tag as the dictionary reads it. -/
def applyTagWith (act : HookAction) (dictionary : Dictionary) (title : String)
    (body : Option String) (d : Doclet) : Progress :=
  let tag := dictionary.makeTag title body
  (applyBaseline tag d).andThen (applyDefinitionWith act (dictionary.lookUp title) tag)

def applyTag (dictionary : Dictionary) (title : String) (body : Option String) (d : Doclet) :
    Progress :=
  applyTagWith applyHook dictionary title body d

theorem applyTag_eq (dictionary : Dictionary) (title : String) (body : Option String)
    (d : Doclet) :
    applyTag dictionary title body d =
      (applyBaseline (dictionary.makeTag title body) d).andThen
        (applyDefinitionWith applyHook (dictionary.lookUp title)
          (dictionary.makeTag title body)) := rfl

end Doclet

end DocComment
