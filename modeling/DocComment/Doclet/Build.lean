import DocComment.Enrich.Passes
import DocComment.Kind

/-! Building a doclet from a comment and what is known about the code: the tags
are applied in the order of the source, names and derived fields are found, and
static facts fill the gaps. Each step that applies a tag is given for hooks that may do
anything, and then for the hooks of this library. -/

namespace DocComment.Doclet

/-- Registers the name of a doclet that has a comment. -/
def exportsOf (d : Doclet) : List Export :=
  match said d.comment, said d.name, said d.longname with
  | some _, some name, some longname => [⟨d.filename.getD "", name, longname⟩]
  | _, _, _ => []

/-- The longname of a doclet that has a name but none yet. -/
def fillLongname (dictionary : Dictionary) (d : Doclet) : Doclet :=
  match said d.name, said d.longname with
  | some name, none => d.setLongname dictionary name
  | _, _ => d

def dropEmptyParent (d : Doclet) : Doclet :=
  if d.memberof = some "" then { d with memberof := none } else d

/-- A kind is inferred where no tag has named one, and is filled in as if a tag had. -/
def fillKindWith (act : HookAction) (dictionary : Dictionary) (d : Doclet) : Progress :=
  match said d.kind with
  | some _ => { doclet := d }
  | none =>
    applyTagWith act dictionary "kind" (some (Kind.infer d.place.code.type d.place.code.node)) d

def fillKind (dictionary : Dictionary) (d : Doclet) : Progress :=
  fillKindWith applyHook dictionary d

theorem fillKind_eq (dictionary : Dictionary) (d : Doclet) :
    d.fillKind dictionary =
      match said d.kind with
      | some _ => { doclet := d }
      | none =>
        applyTag dictionary "kind" (some (Kind.infer d.place.code.type d.place.code.node)) d := rfl

/-- Shows the variation at the end of the longname. -/
def showVariation (d : Doclet) : Doclet :=
  match said d.variation, said d.longname with
  | some variation, some longname =>
    if longname.toList.getLast? = some ')' then d
    else { d with longname := some (longname ++ "(" ++ variation ++ ")") }
  | _, _ => d

/-- Whether a doclet describes the same symbol as another one that has a name. -/
def matchesTwin (d twin : Doclet) : Bool :=
  match said twin.name with
  | none => false
  | some name => ((said d.name).getD name == name) && d.kind == twin.kind

/-- Doclets of one symbol have its code and facts in common. -/
def syncTwin (twin : Option Doclet) (d : Doclet) : Doclet :=
  match twin with
  | none => d
  | some t =>
    if d.matchesTwin t then
      { d with
        place := { d.place with facts := t.place.facts, code := t.place.code }
        links := { d.links with
          facts := t.links.facts, code := t.links.code, node := t.links.node } }
    else d

/-- Lets go of the syntax tree if the settings ask for it. -/
def release (settings : Settings) (d : Doclet) : Doclet :=
  if settings.releaseNodes then
    { d with place := { d.place with code := { d.place.code with node := none, source := none } } }
  else d

/-- Finds names and derived fields. The name is given out before a kind is
inferred and the variation is shown. -/
def deriveWith (act : HookAction) (dictionary : Dictionary) (twin : Option Doclet) (d : Doclet) :
    Progress :=
  let start := (d.tryResolve dictionary).change (fillLongname dictionary)
  let start := start.change dropEmptyParent
  let start := start.andThen fun d => { doclet := d, exports := d.exportsOf }
  let start := start.andThen (fillKindWith act dictionary)
  let start := start.change showVariation
  start.change (syncTwin twin)

def derive (dictionary : Dictionary) (twin : Option Doclet) (d : Doclet) : Progress :=
  deriveWith applyHook dictionary twin d

/-- Finds names and derived fields, then runs the passes. -/
def postProcessWith (act : HookAction) (context : Context) (twin : Option Doclet) (d : Doclet) :
    Progress :=
  ((d.deriveWith act context.dictionary twin).andThen (enrich context)).change
    (release context.settings)

def postProcess (context : Context) (twin : Option Doclet) (d : Doclet) : Progress :=
  postProcessWith applyHook context twin d

theorem postProcess_eq (context : Context) (twin : Option Doclet) (d : Doclet) :
    d.postProcess context twin =
      ((d.derive context.dictionary twin).andThen (enrich context)).change
        (release context.settings) := rfl

/-- A doclet before its tags are applied. -/
def start (context : Context) (links : Links) (comment : Option String) (source : Source)
    (stamp : Nat) : Doclet :=
  ({ comment, sort := some context.settings.sortSentinel, links } : Doclet).setPlace stamp source

def applyTagsWith (act : HookAction) (dictionary : Dictionary) (tags : List WrittenTag)
    (d : Doclet) : Progress :=
  ({ doclet := d } : Progress).through tags fun tag =>
    applyTagWith act dictionary tag.title tag.body

def applyTags (dictionary : Dictionary) (tags : List WrittenTag) (d : Doclet) : Progress :=
  applyTagsWith applyHook dictionary tags d

theorem applyTags_eq (dictionary : Dictionary) (tags : List WrittenTag) (d : Doclet) :
    applyTags dictionary tags d =
      ({ doclet := d } : Progress).through tags fun tag =>
        applyTag dictionary tag.title tag.body := rfl

/-- A doclet with all the tags of its comment. The context and the twin come with
their numbers, `stamp` is the number of the operation. -/
def taggedWith (act : HookAction) (context : Context) (comment : Option String) (source : Source)
    (contextId : Option Nat) (stamp : Nat) (twinId : Option Nat) : Progress :=
  let links : Links := { code := stamp, twin := twinId, context := contextId }
  let tags := Comment.parse comment (source.code.bind (·.type))
  let work := applyTagsWith act context.dictionary tags (start context links comment source stamp)
  work.change fun d => { d with filename := some d.filepath }

def tagged (context : Context) (comment : Option String) (source : Source)
    (contextId : Option Nat) (stamp : Nat) (twinId : Option Nat) : Progress :=
  taggedWith applyHook context comment source contextId stamp twinId

theorem tagged_eq (context : Context) (comment : Option String) (source : Source)
    (contextId : Option Nat) (stamp : Nat) (twinId : Option Nat) :
    tagged context comment source contextId stamp twinId =
      (applyTags context.dictionary (Comment.parse comment (source.code.bind (·.type)))
        (start context { code := stamp, twin := twinId, context := contextId } comment source
          stamp)).change fun d => { d with filename := some d.filepath } := rfl

/-- Builds a doclet. -/
def createWith (act : HookAction) (context : Context) (comment : Option String) (source : Source)
    (contextId : Option Nat) (stamp : Nat) (twin : Option (Nat × Doclet)) : Progress :=
  (taggedWith act context comment source contextId stamp (twin.map (·.1))).andThen
    (postProcessWith act context (twin.map (·.2)))

def create (context : Context) (comment : Option String) (source : Source)
    (contextId : Option Nat) (stamp : Nat) (twin : Option (Nat × Doclet)) : Progress :=
  createWith applyHook context comment source contextId stamp twin

theorem create_eq (context : Context) (comment : Option String) (source : Source)
    (contextId : Option Nat) (stamp : Nat) (twin : Option (Nat × Doclet)) :
    create context comment source contextId stamp twin =
      (tagged context comment source contextId stamp (twin.map (·.1))).andThen
        (postProcess context (twin.map (·.2))) := rfl

/-- Builds a doclet that stands for itself. -/
def createAlone (context : Context) (comment : Option String) (source : Source) : Progress :=
  create context comment source none 0 none

end DocComment.Doclet
