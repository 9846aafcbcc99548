import DocComment.Doclet.Basic
import DocComment.Fault
import DocComment.Journal

/-! How far the work on a doclet has come: the doclet as it stands, the notes
made on the way, the names given out, and what stopped the work, if anything.
Work that was stopped keeps what it had done. -/

namespace DocComment

/-- A name that a file gives out, and the longname it stands for. -/
structure Export where
  filename : String
  name : String
  longname : String
  deriving DecidableEq, Repr

structure Progress where
  doclet : Doclet
  notes : List Journal.Record := []
  exports : List Export := []
  fault : Option Fault := none

namespace Progress

/-- Goes on unless the work was stopped. -/
def andThen (p : Progress) (step : Doclet → Progress) : Progress :=
  match p.fault with
  | some _ => p
  | none =>
    let q := step p.doclet
    { q with notes := p.notes ++ q.notes, exports := p.exports ++ q.exports }

/-- A step that cannot fail and leaves no notes. -/
def change (p : Progress) (f : Doclet → Doclet) : Progress :=
  p.andThen fun d => { doclet := f d }

/-- Goes on through a list of steps. -/
def through {α : Type} (p : Progress) (items : List α) (step : α → Doclet → Progress) : Progress :=
  items.foldl (fun p a => p.andThen (step a)) p

/-- The work came to its end with that doclet, and these names were given out. -/
structure Ends (p : Progress) (exports : List Export) (d : Doclet) : Prop where
  fault : p.fault = none
  exports : p.exports = exports
  doclet : p.doclet = d

/-- A step that only leaves notes. -/
theorem ends_noted (d : Doclet) (notes : List Journal.Record) :
    ({ doclet := d, notes } : Progress).Ends [] d := ⟨rfl, rfl, rfl⟩

theorem Ends.andThen {p : Progress} {xs ys : List Export} {d e : Doclet} (h : p.Ends xs d)
    (step : Doclet → Progress) (hs : (step d).Ends ys e) : (p.andThen step).Ends (xs ++ ys) e := by
  obtain ⟨hf, rfl, rfl⟩ := h
  simp only [Progress.andThen, hf]
  exact ⟨hs.fault, by rw [hs.exports], hs.doclet⟩

theorem Ends.change {p : Progress} {xs : List Export} {d : Doclet} (h : p.Ends xs d)
    (f : Doclet → Doclet) : (p.change f).Ends xs (f d) := by
  have hc := h.andThen (fun d => { doclet := f d }) (ends_noted (f d) [])
  rwa [List.append_nil] at hc

theorem fault_andThen (p : Progress) (step : Doclet → Progress) :
    (p.andThen step).fault = p.fault.or (step p.doclet).fault := by
  unfold Progress.andThen
  split
  next fault hf => rw [hf, Option.some_or]
  next hf => rw [hf, Option.none_or]

/-- Work that ends has ended its first part. -/
theorem fault_of_andThen {p : Progress} {step : Doclet → Progress}
    (h : (p.andThen step).fault = none) : p.fault = none := by
  rw [fault_andThen, Option.or_eq_none_iff] at h
  exact h.1

theorem next_fault_of_andThen {p : Progress} {step : Doclet → Progress}
    (h : (p.andThen step).fault = none) : (step p.doclet).fault = none := by
  rw [fault_andThen, Option.or_eq_none_iff] at h
  exact h.2

theorem start_andThen (d : Doclet) (step : Doclet → Progress) :
    ({ doclet := d } : Progress).andThen step = step d := rfl

theorem doclet_andThen {p : Progress} (h : p.fault = none) (step : Doclet → Progress) :
    (p.andThen step).doclet = (step p.doclet).doclet := by
  simp only [Progress.andThen, h]

/-- What every outcome of a step keeps is kept by going on with it. -/
theorem read_andThen {α : Type} (read : Doclet → α) {step : Doclet → Progress}
    (h : ∀ d, read (step d).doclet = read d) (p : Progress) :
    read (p.andThen step).doclet = read p.doclet := by
  unfold Progress.andThen
  split
  · rfl
  · exact h p.doclet

theorem read_change {α : Type} (read : Doclet → α) {f : Doclet → Doclet}
    (h : ∀ d, read (f d) = read d) (p : Progress) : read (p.change f).doclet = read p.doclet :=
  read_andThen read h p

theorem doclet_change {p : Progress} {f : Doclet → Doclet} (h : (p.change f).fault = none) :
    (p.change f).doclet = f p.doclet :=
  doclet_andThen (fault_of_andThen h) _

theorem fault_of_through {α : Type} {step : α → Doclet → Progress} {items : List α} {p : Progress}
    (h : (p.through items step).fault = none) : p.fault = none := by
  induction items generalizing p with
  | nil => exact h
  | cons a items ih => exact fault_of_andThen (ih h)

/-- Work that ends has made all its steps. -/
theorem doclet_through {α : Type} {step : α → Doclet → Progress} {items : List α} {p : Progress}
    (h : (p.through items step).fault = none) :
    (p.through items step).doclet = items.foldl (fun d a => (step a d).doclet) p.doclet := by
  induction items generalizing p with
  | nil => rfl
  | cons a items ih =>
    have hstart : p.fault = none := fault_of_through h
    have hrest := ih h
    rw [doclet_andThen hstart] at hrest
    exact hrest

end Progress

/-- A note for the log. -/
def note (logger : String) (level : Journal.Level) (message : String) (fields : Journal.Fields) :
    Journal.Record :=
  { logger, level, message, fields }

namespace Doclet

/-- The first kind stays, and an attempt to set another is noted. -/
def tryKind (d : Doclet) (kind : Option String) : Progress where
  doclet := d.setKind kind
  notes := match said d.kind, said kind with
    | some old, some new =>
      if new = old then []
      else
        [note "docletkit.doclet" .debug "Kind already determined"
          [("operation", .text "set_kind"), ("status", .text "skipped"), ("kind", .text old),
            ("ignored", .text new)]]
    | _, _ => []

/-- Only the four scopes can be set. -/
def trySetScope (d : Doclet) (scope : String) : Progress :=
  match Scope.ofName? scope with
  | some s => { doclet := { d with scope := some s.name } }
  | none => { doclet := d, fault := some (.scope scope d.filepath) }

end Doclet

end DocComment
