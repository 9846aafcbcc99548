import DocComment.Data.Assoc
import DocComment.Dictionary.Standard
import DocComment.Doclet.Progress
import DocComment.Settings.Basic

/-! What doclets are built with: a dictionary of tags, settings, and the index of
the names that files give out. -/

namespace DocComment

/-- Longnames by file and name, in the order of first registration. -/
abbrev ExportIndex := List ((String × String) × String)

namespace ExportIndex

def register (index : ExportIndex) (e : Export) : ExportIndex :=
  Assoc.insert (e.filename, e.name) e.longname index

def lookup (index : ExportIndex) (filename name : String) : Option String :=
  List.lookup (filename, name) index

end ExportIndex

structure Context where
  dictionary : Dictionary := Dictionary.standard
  settings : Settings := {}
  exports : ExportIndex := []

def Context.registerAll (c : Context) (exports : List Export) : Context :=
  { c with exports := exports.foldl ExportIndex.register c.exports }

end DocComment
