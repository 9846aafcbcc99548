import DocComment.Enrich.Class
import DocComment.Enrich.Function
import DocComment.Enrich.Overload
import DocComment.Enrich.Structural

/-! All the passes that fill a doclet from static facts, in their order. What the
tags of a comment have said stays. -/

namespace DocComment.Doclet

/-- Kinds whose declarations are spread over the doclet. -/
def isStructural (d : Doclet) : Bool := d.kind == some "typedef" || d.kind == some "interface"

def enrich (context : Context) (d : Doclet) : Progress :=
  let start : Progress := { doclet := d.functionBackfill, notes := d.functionNotes }
  let start := start.andThen fun d =>
    { doclet := d.reconcileOverloads context.settings, notes := d.overloadNotes }
  let start := start.andThen fun d =>
    if d.isStructural then d.unrollStructure context else { doclet := d }
  let start := start.andThen fun d => { doclet := d.classBackfill, notes := d.classNotes }
  start.andThen fun d => d.classMemberBackfill context.dictionary

end DocComment.Doclet
