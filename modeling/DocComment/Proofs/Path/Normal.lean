import DocComment.Path
import DocComment.Proofs.Text.Pieces

/-! Paths in normal form. Reading a path gives its normal form, which is read again from
its own text; so a path that is cut into its parent and its name is put together again
from the texts of the two. -/

namespace DocComment.Path

open Text (splitWhere joinWith splitWhere_joinWith joinWith_cons eq_false_of_mem_splitWhere)

/-- A segment that reading keeps. -/
def IsSegment (seg : List Char) : Prop := seg ≠ [] ∧ seg ≠ ['.'] ∧ '/' ∉ seg

structure IsNormal (p : Path) : Prop where
  root : p.root = [] ∨ p.root = ['/'] ∨ p.root = ['/', '/']
  segments : ∀ seg ∈ p.segments, IsSegment seg

theorem rootOf_cases (s : List Char) :
    rootOf s = [] ∨ rootOf s = ['/'] ∨ rootOf s = ['/', '/'] := by
  unfold rootOf
  split
  · exact .inl rfl
  · exact .inr (.inr rfl)
  · exact .inr (.inl rfl)

theorem isNormal_ofChars (s : List Char) : (ofChars s).IsNormal where
  root := rootOf_cases s
  segments seg h := by
    obtain ⟨hmem, hkept⟩ := List.mem_filter.mp h
    obtain ⟨hne, hpoint⟩ : seg ≠ [] ∧ seg ≠ ['.'] := by simpa using hkept
    refine ⟨hne, hpoint, fun hslash => ?_⟩
    have hnone := eq_false_of_mem_splitWhere hmem '/' hslash
    simp at hnone

theorem IsNormal.parent {p : Path} (h : p.IsNormal) : p.parent.IsNormal where
  root := h.root
  segments seg hseg := h.segments seg (List.dropLast_subset _ hseg)

theorem IsSegment.isNormal {seg : List Char} (h : IsSegment seg) : (Path.mk [] [seg]).IsNormal where
  root := .inl rfl
  segments other hother := by
    obtain rfl := List.mem_singleton.mp hother
    exact h

theorem segments_slash (s : List Char) : (ofChars ('/' :: s)).segments = (ofChars s).segments := by
  simp [ofChars, splitWhere]

theorem segments_root {root : List Char} (h : root = [] ∨ root = ['/'] ∨ root = ['/', '/'])
    (s : List Char) : (ofChars (root ++ s)).segments = (ofChars s).segments := by
  rcases h with rfl | rfl | rfl
  · rfl
  · exact segments_slash s
  · exact (segments_slash ('/' :: s)).trans (segments_slash s)

theorem rootOf_append {root : List Char} (h : root = [] ∨ root = ['/'] ∨ root = ['/', '/'])
    {c : Char} (hc : c ≠ '/') (s : List Char) : rootOf (root ++ c :: s) = root := by
  rcases h with rfl | rfl | rfl <;> simp [rootOf, hc]

section Join

variable {segs : List (List Char)}

theorem segments_joinWith (hne : segs ≠ []) (h : ∀ seg ∈ segs, IsSegment seg) :
    (ofChars (joinWith ['/'] segs)).segments = segs := by
  have hsplit : splitWhere (· == '/') (joinWith ['/'] segs) = segs :=
    splitWhere_joinWith hne fun seg hseg => (h seg hseg).2.2
  simp only [ofChars, hsplit, List.filter_eq_self]
  intro seg hseg
  obtain ⟨hempty, hpoint, -⟩ := h seg hseg
  simp [hempty, hpoint]

/-- No segment is empty, so the text of the segments does not look like a root. -/
theorem exists_joinWith_eq (hne : segs ≠ []) (h : ∀ seg ∈ segs, IsSegment seg) :
    ∃ c rest, joinWith ['/'] segs = c :: rest ∧ c ≠ '/' := by
  obtain ⟨seg, more, rfl⟩ := List.exists_cons_of_ne_nil hne
  obtain ⟨hempty, -, hslash⟩ := h seg List.mem_cons_self
  obtain ⟨c, rest, rfl⟩ := List.exists_cons_of_ne_nil hempty
  have hc : c ≠ '/' := fun hc => hslash (hc ▸ List.mem_cons_self)
  by_cases hmore : more = []
  · subst more
    exact ⟨c, rest, rfl, hc⟩
  · exact ⟨c, _, by rw [joinWith_cons hmore]; rfl, hc⟩

end Join

/-- A normal path is read from its own text. -/
theorem IsNormal.ofChars_chars {p : Path} (h : p.IsNormal) : ofChars p.chars = p := by
  obtain ⟨root, segs⟩ := p
  obtain ⟨hroot, hsegs⟩ := h
  dsimp only at hroot hsegs
  by_cases hne : segs = []
  · subst segs
    rcases hroot with rfl | rfl | rfl <;> decide
  · obtain ⟨c, rest, hjoin, hc⟩ := exists_joinWith_eq hne hsegs
    have hchars : chars ⟨root, segs⟩ = root ++ joinWith ['/'] segs := by simp [chars, hne]
    have hfound := segments_joinWith hne hsegs
    rw [hjoin] at hchars hfound
    rw [hchars]
    have hroot' : (ofChars (root ++ c :: rest)).root = root := rootOf_append hroot hc rest
    have hsegs' : (ofChars (root ++ c :: rest)).segments = segs :=
      (segments_root hroot (c :: rest)).trans hfound
    exact congrArg₂ Path.mk hroot' hsegs'

theorem IsNormal.parse_text {p : Path} (h : p.IsNormal) : parse p.text = p := by
  rw [parse, text, String.toList_ofList, h.ofChars_chars]

section Name

variable {p : Path}

theorem segments_eq_concat (hname : p.name ≠ []) : p.segments = p.parent.segments ++ [p.name] := by
  unfold name at hname ⊢
  cases hlast : p.segments.getLast? with
  | none => simp [hlast] at hname
  | some last =>
    obtain ⟨front, hfront⟩ := List.getLast?_eq_some_iff.mp hlast
    simp [parent, hfront]

theorem IsNormal.parse_name (h : p.IsNormal) (hname : p.name ≠ []) :
    parse (String.ofList p.name) = ⟨[], [p.name]⟩ := by
  have hmem : p.name ∈ p.segments := by
    rw [segments_eq_concat hname]
    simp
  have hread := (h.segments p.name hmem).isNormal.ofChars_chars
  rw [parse, String.toList_ofList]
  exact hread

/-- A path without a parent of its own has the text `.` for it, which need not be
kept: the name alone is read as the same path. -/
theorem IsNormal.join_parent_name (h : p.IsNormal) (hname : p.name ≠ []) :
    (parse (if p.parent.text = "." then "" else p.parent.text)).join
      (parse (String.ofList p.name)) = p := by
  have hparent : parse (if p.parent.text = "." then "" else p.parent.text) = p.parent := by
    have hread := h.parent.parse_text
    split
    next hpoint =>
      have hempty : parse "." = parse "" := by decide
      rw [← hempty, ← hpoint, hread]
    next => exact hread
  have hroot : (Path.mk [] [p.name]).root.isEmpty = true := rfl
  rw [hparent, h.parse_name hname, join, if_pos hroot]
  exact congrArg (Path.mk p.root) (segments_eq_concat hname).symm

end Name

example : (parse "./src//util/../a.js/").text = "src/util/../a.js" := by decide +kernel

example : (parse "///a").text = "/a" := by decide +kernel

end DocComment.Path
