import DocComment.Doclet.Build
import DocComment.Doclet.Combine

/-! Work on several doclets over time. Contexts are opened and left like nested
blocks; a doclet that was built stays with its context, and one that was merely
filled in uses the current one. Doclets of one symbol may have one code record in
common: what happens to it happens to all of them. -/

namespace DocComment

structure Session where
  /-- All contexts, by number. -/
  contexts : List Context := []
  /-- The context to use when none is open, once there is one. -/
  base : Option Nat := none
  /-- The open contexts, innermost first. -/
  opened : List Nat := []
  /-- All doclets, by number. -/
  doclets : List Doclet := []
  slots : List (String × Nat) := []
  /-- How many operations there have been. -/
  clock : Nat := 0

namespace Session

def tick (s : Session) : Session := { s with clock := s.clock + 1 }

/-- Opens a context, perhaps one that is open already. -/
def enter (s : Session) (id : Nat) : Session := { s with opened := id :: s.opened }

/-- Opens a new context. -/
def push (s : Session) (c : Context) : Session :=
  ({ s with contexts := s.contexts ++ [c] } : Session).enter s.contexts.length

def pop (s : Session) : Session := { s with opened := s.opened.tail }

/-- The current context, which is made when there is none. -/
def current (s : Session) : Session × Nat :=
  match s.opened, s.base with
  | id :: _, _ => (s, id)
  | [], some id => (s, id)
  | [], none =>
    ({ s with contexts := s.contexts ++ [{}], base := some s.contexts.length }, s.contexts.length)

def context (s : Session) (id : Nat) : Context := s.contexts[id]?.getD {}

def setContext (s : Session) (id : Nat) (c : Context) : Session :=
  { s with contexts := s.contexts.set id c }

/-- The context of a doclet: its own, or the current one. -/
def contextFor (s : Session) (d : Doclet) : Session × Nat :=
  match d.links.context with
  | some id => (s, id)
  | none => s.current

def define (s : Session) (t : TagDefinition) (replace : Bool) : Session × Except Fault Nat :=
  let (s, id) := s.current
  let c := s.context id
  match c.dictionary.define t replace with
  | .error fault => (s, .error fault)
  | .ok dictionary => (s.setContext id { c with dictionary }, .ok dictionary.size)

def exports (s : Session) : Session × ExportIndex :=
  let (s, id) := s.current
  (s, (s.context id).exports)

def register (s : Session) (e : Export) : Session :=
  let (s, id) := s.current
  s.setContext id ((s.context id).registerAll [e])

def number? (s : Session) (slot : String) : Option Nat := s.slots.lookup slot

def doclet? (s : Session) (slot : String) : Option Doclet :=
  (s.number? slot).bind fun n => s.doclets[n]?

/-- Puts a new doclet into a slot. -/
def add (s : Session) (slot : String) (d : Doclet) : Session :=
  { s with
    doclets := s.doclets ++ [d]
    slots := Assoc.insert slot s.doclets.length s.slots }

/-- A change of a code record reaches all doclets that have it. -/
def shareCode (s : Session) (d : Doclet) : Session :=
  { s with
    doclets := s.doclets.map fun e =>
      if e.links.code = d.links.code then
        { e with
          place := { e.place with code := d.place.code }
          links := { e.links with node := d.links.node } }
      else e }

/-- The twin of a doclet as it is now. -/
def twinOf (s : Session) (d : Doclet) : Option Doclet :=
  d.links.twin.bind fun n => s.doclets[n]?

def registerExports (s : Session) (id : Nat) (exports : List Export) : Session :=
  s.setContext id ((s.context id).registerAll exports)

/-- Builds a doclet in the current context. -/
def create (s : Session) (slot : String) (comment : Option String) (source : Source)
    (twin : Option Nat) : Session × Except Fault Doclet :=
  let s := s.tick
  let (s, id) := s.current
  let twin := twin.bind fun n => (s.doclets[n]?).map fun d => (n, d)
  let work := Doclet.create (s.context id) comment source (some id) s.clock twin
  let s := s.registerExports id work.exports
  match work.fault with
  | some fault => (s, .error fault)
  | none => ((s.shareCode work.doclet).add slot work.doclet, .ok work.doclet)

/-- Takes in a doclet that was filled in by hand. -/
def insert (s : Session) (slot : String) (d : Doclet) : Session :=
  let s := s.tick
  s.add slot { d with links := { code := s.clock } }

def combine (s : Session) (slot : String) (first second : Doclet) : Session × Doclet :=
  let s := s.tick
  let d := Doclet.combine s.clock first second
  (s.add slot d, d)

/-- What can be done to a doclet. -/
inductive Action where
  | addTag (title : String) (body : Option String)
  | setPlace (source : Source)
  | borrow (source : String) (target : Option String)
  | setScope (scope : String)
  | setMemberof (parent : String)
  | setLongname (name : String)
  | setKind (kind : Option String)
  | setAccess (level : Option String)
  | mix (source : String)
  | augment (base : String)
  | resolve
  | postProcess
  | functionBackfill
  | reconcileOverloads
  | unrollStructure
  | classBackfill
  | classMemberBackfill
  | enrich

def Action.run (a : Action) (c : Context) (stamp : Nat) (twin : Option Doclet) (d : Doclet) :
    Progress :=
  match a with
  | .addTag title body => d.applyTag c.dictionary title body
  | .setPlace source => { doclet := d.setPlace stamp source }
  | .borrow source target => { doclet := d.borrow source target }
  | .setScope scope => d.trySetScope scope
  | .setMemberof parent => { doclet := d.setMemberof parent }
  | .setLongname name => { doclet := d.setLongname c.dictionary name }
  | .setKind kind => d.tryKind kind
  | .setAccess level => { doclet := d.setAccess level }
  | .mix source => { doclet := d.mix source }
  | .augment base => { doclet := d.augment base }
  | .resolve => d.tryResolve c.dictionary
  | .postProcess => d.postProcess c twin
  | .functionBackfill => { doclet := d.functionBackfill, notes := d.functionNotes }
  | .reconcileOverloads =>
    { doclet := d.reconcileOverloads c.settings, notes := d.overloadNotes }
  | .unrollStructure => d.unrollStructure c
  | .classBackfill => { doclet := d.classBackfill, notes := d.classNotes }
  | .classMemberBackfill => d.classMemberBackfill c.dictionary
  | .enrich => d.enrich c

/-- Acts on the doclet of that number. -/
def act (s : Session) (n : Nat) (a : Action) : Session × Except Fault Doclet :=
  match s.doclets[n]? with
  | none => (s, .ok {})
  | some d =>
    let (s, id) := s.tick.contextFor d
    let work := a.run (s.context id) s.clock (s.twinOf d) d
    let s := s.registerExports id work.exports
    let s := ({ s with doclets := s.doclets.set n work.doclet } : Session).shareCode work.doclet
    (s, match work.fault with
      | some fault => .error fault
      | none => .ok work.doclet)

end Session

end DocComment
