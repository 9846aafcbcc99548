import DocComment.Enrich.Passes

/-! What a pass may do to an entry that was documented before. An entry stays at
its index, and what it says stays; only what it leaves open may be filled. The
types of a parameter are the one place where something is added: a union of one
name may get the marker for types that it has no room for. -/

namespace DocComment

structure ParamDoc.Kept (marker : String) (p q : ParamDoc) : Prop where
  name : ∀ s, said p.name = some s → q.name = some s
  description : q.description = p.description
  default : ∀ s, said p.default = some s → q.default = some s
  nullable : q.nullable = p.nullable
  variadic : q.variadic = p.variadic
  optional : p.optional = some true → q.optional = some true
  types : hasNames p.types = true →
    q.types = p.types ∨ ∃ t, p.types = some [t] ∧ q.types = some [t, marker]

structure ResultDoc.Kept (p q : ResultDoc) : Prop where
  description : q.description = p.description
  types : hasNames p.types = true → q.types = p.types

structure PropertyDoc.Kept (p q : PropertyDoc) : Prop where
  name : ∀ s, said p.name = some s → q.name = some s
  description : ∀ s, said p.description = some s → q.description = some s
  default : ∀ s, said p.default = some s → q.default = some s
  access : ∀ s, said p.access = some s → q.access = some s
  nullable : ∀ v, p.nullable = some v → q.nullable = some v
  deprecated : ∀ b, p.deprecated = some b → q.deprecated = some b
  readonly : ∀ v, p.readonly = some v → q.readonly = some v
  optional : p.optional = some (.flag true) → q.optional = some (.flag true)
  types : hasNames p.types = true → q.types = p.types
  extras : p.extras <+: q.extras

/-- Every entry is still at its index, related to what it was. -/
def KeptAlong {α : Type} (r : α → α → Prop) (xs ys : List α) : Prop :=
  ∀ (i : Nat) (x : α), xs[i]? = some x → ∃ y, ys[i]? = some y ∧ r x y

theorem said_trans {x y z : Option String} (h : ∀ s, said x = some s → y = some s)
    (h' : ∀ s, said y = some s → z = some s) (s : String) (hs : said x = some s) : z = some s :=
  h' s (said_eq_some.mpr ⟨h s hs, (said_eq_some.mp hs).2⟩)

theorem ParamDoc.Kept.refl (marker : String) (p : ParamDoc) : p.Kept marker p where
  name _ h := (said_eq_some.mp h).1
  description := rfl
  default _ h := (said_eq_some.mp h).1
  nullable := rfl
  variadic := rfl
  optional := id
  types _ := .inl rfl

theorem ParamDoc.Kept.trans {marker : String} {p q r : ParamDoc} (h : p.Kept marker q)
    (h' : q.Kept marker r) : p.Kept marker r where
  name := said_trans h.name h'.name
  description := h'.description.trans h.description
  default := said_trans h.default h'.default
  nullable := h'.nullable.trans h.nullable
  variadic := h'.variadic.trans h.variadic
  optional := h'.optional ∘ h.optional
  types hp := by
    rcases h.types hp with hq | ⟨t, hp', hq⟩
    · rcases h'.types (hq ▸ hp) with hr | ⟨t, hq', hr⟩
      · exact .inl (hr.trans hq)
      · exact .inr ⟨t, hq ▸ hq', hr⟩
    · -- a union with the marker in it is full
      rcases h'.types (by rw [hq]; rfl) with hr | ⟨u, hq', hr⟩
      · exact .inr ⟨t, hp', hr.trans hq⟩
      · simp [hq] at hq'

theorem ResultDoc.Kept.refl (p : ResultDoc) : p.Kept p := ⟨rfl, fun _ => rfl⟩

theorem ResultDoc.Kept.trans {p q r : ResultDoc} (h : p.Kept q) (h' : q.Kept r) : p.Kept r where
  description := h'.description.trans h.description
  types hp := (h'.types (h.types hp ▸ hp)).trans (h.types hp)

theorem PropertyDoc.Kept.refl (p : PropertyDoc) : p.Kept p where
  name _ h := (said_eq_some.mp h).1
  description _ h := (said_eq_some.mp h).1
  default _ h := (said_eq_some.mp h).1
  access _ h := (said_eq_some.mp h).1
  nullable _ h := h
  deprecated _ h := h
  readonly _ h := h
  optional := id
  types _ := rfl
  extras := List.prefix_refl _

theorem PropertyDoc.Kept.trans {p q r : PropertyDoc} (h : p.Kept q) (h' : q.Kept r) : p.Kept r where
  name := said_trans h.name h'.name
  description := said_trans h.description h'.description
  default := said_trans h.default h'.default
  access := said_trans h.access h'.access
  nullable v hv := h'.nullable v (h.nullable v hv)
  deprecated b hb := h'.deprecated b (h.deprecated b hb)
  readonly v hv := h'.readonly v (h.readonly v hv)
  optional := h'.optional ∘ h.optional
  types hp := (h'.types (h.types hp ▸ hp)).trans (h.types hp)
  extras := h.extras.trans h'.extras

section KeptAlong

variable {α : Type} {r : α → α → Prop} {xs ys zs : List α}

theorem KeptAlong.nil : KeptAlong r [] ys := fun _ _ h => by simp at h

theorem KeptAlong.cons {x y : α} (h : r x y) (hs : KeptAlong r xs ys) :
    KeptAlong r (x :: xs) (y :: ys) := by
  intro i z hz
  cases i with
  | zero => exact ⟨y, rfl, Option.some.inj hz ▸ h⟩
  | succ i => exact hs i z hz

theorem KeptAlong.refl (h : ∀ x, r x x) : KeptAlong r xs xs := fun _ x hx => ⟨x, hx, h x⟩

theorem KeptAlong.trans (ht : ∀ x y z, r x y → r y z → r x z) (h : KeptAlong r xs ys)
    (h' : KeptAlong r ys zs) : KeptAlong r xs zs := by
  intro i x hx
  obtain ⟨y, hy, hxy⟩ := h i x hx
  obtain ⟨z, hz, hyz⟩ := h' i y hy
  exact ⟨z, hz, ht x y z hxy hyz⟩

end KeptAlong

end DocComment
