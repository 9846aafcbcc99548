import DocComment.Doclet.Combine
import DocComment.Doclet.Same

/-! Combining doclets is an ordered merge: what stands further left is kept, and
what is only repeated further right adds nothing. The laws hold for the rule that
takes the first value there is and for the rule that passes over empty lists, so
they hold for every field and with that for doclets. -/

namespace DocComment.Doclet

/-- A doclet without what leads out of it: links, syntax node and source record. -/
def content (d : Doclet) : Doclet :=
  { d with
    place := { d.place with code := { d.place.code with source := none, node := none } }
    links := {} }

theorem same_congr {d d' e e' : Doclet} (hd : d.content = d'.content)
    (he : e.content = e'.content) : d.same e = d'.same e' := by
  have hcontent (x y : Doclet) : x.content.same y.content = x.same y := rfl
  calc d.same e = d.content.same e.content := (hcontent d e).symm
    _ = d'.content.same e'.content := by rw [hd, he]
    _ = d'.same e' := hcontent d' e'

/-- Equality of doclets: their contents are equal, and comparing them says so whenever
it finds the first equal to itself. A value that is not a number is not. -/
def Agrees (d e : Doclet) : Prop := d.content = e.content ∧ (d.same d = true → d.same e = true)

theorem agrees_of_content {d e : Doclet} (h : d.content = e.content) : d.Agrees e := by
  refine ⟨h, fun hd => ?_⟩
  rw [← same_congr (d := d) rfl h]
  exact hd

section Rules

variable {α : Type}

theorem or_or_of_repeated (x y : Option α) : x.or (y.or x) = x.or y := by
  cases x <;> simp

theorem preferFilled_self (x : Option (List α)) : preferFilled x x = x := by
  rcases x with _ | _ | _ <;> rfl

theorem preferFilled_none (x : Option (List α)) : preferFilled x none = x := by
  rcases x with _ | _ | _ <;> rfl

/-- An empty list on the left waits for the first list with entries, in whatever order
the lists are put together. -/
theorem preferFilled_assoc (x y z : Option (List α)) :
    preferFilled (preferFilled x y) z = preferFilled x (preferFilled y z) := by
  rcases x with _ | _ | _
  · rfl
  · rcases y with _ | _ | _
    · rfl
    · rcases z with _ | _ | _ <;> rfl
    · rfl
  · rfl

theorem preferFilled_of_repeated (x y : Option (List α)) :
    preferFilled x (preferFilled y x) = preferFilled x y := by
  rcases x with _ | _ | _
  · exact preferFilled_none y
  · rcases y with _ | _ | _ <;> rfl
  · rfl

end Rules

theorem content_combine_assoc (a b c : Doclet) (i j k l : Nat) :
    (combine i (combine j a b) c).content = (combine k a (combine l b c)).content := by
  simp only [content, combine, Option.or_assoc, preferFilled_assoc]

theorem content_combine_self (a : Doclet) (i : Nat) : (combine i a a).content = a.content := by
  simp only [content, combine, Option.or_self, preferFilled_self]

theorem content_combine_of_repeated (a b : Doclet) (i j k : Nat) :
    (combine i a (combine j b a)).content = (combine k a b).content := by
  simp only [content, combine, or_or_of_repeated, preferFilled_of_repeated]

theorem content_combine_empty (a : Doclet) (i : Nat) : (combine i a {}).content = a.content := by
  simp only [content, combine, Option.or_none, preferFilled_none]

/-- Combining is associative, a doclet adds nothing to itself, neither on its own nor
behind another one, and the empty doclet adds nothing at all. -/
theorem combine_isOrderedMerge (a b c : Doclet) (i j k l : Nat) :
    (combine i (combine j a b) c).Agrees (combine k a (combine l b c)) ∧
      (combine i a a).Agrees a ∧
      (combine i a (combine j b a)).Agrees (combine k a b) ∧
      (combine i a {}).Agrees a :=
  ⟨agrees_of_content (content_combine_assoc a b c i j k l),
    agrees_of_content (content_combine_self a i),
    agrees_of_content (content_combine_of_repeated a b i j k),
    agrees_of_content (content_combine_empty a i)⟩

end DocComment.Doclet
