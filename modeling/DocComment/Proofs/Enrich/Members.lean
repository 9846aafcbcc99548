import DocComment.Proofs.Dictionary.Standard
import DocComment.Proofs.Enrich.Kept

/-! Members of an interface become properties without taking anything from the
properties that are there. With the standard tags a type that is noted about a
member is never a mere text, so that every member can be merged. -/

namespace DocComment.Doclet

theorem insertNew_prefix (key s : String) (table : List (String × String)) :
    table <+: Assoc.insertNew key s table := by
  unfold Assoc.insertNew
  split
  · exact List.prefix_refl _
  · exact List.prefix_append _ _

theorem or_of_said {x y : Option String} (s : String) (h : said x = some s) :
    (said x).or y = some s := by
  rw [h]
  rfl

theorem or_of_some {α : Type} {x y : Option α} (a : α) (h : x = some a) : x.or y = some a := by
  rw [h]
  rfl

theorem placeNote_kept (p : PropertyDoc) (entry : String × MemberNote) :
    p.Kept (placeNote p entry) := by
  have hrefl := PropertyDoc.Kept.refl p
  obtain ⟨key, note⟩ := entry
  unfold placeNote
  dsimp only
  -- one case for each field that a note can name, then the notes without one
  split
  · exact { hrefl with name := or_of_said }
  · split
    · exact hrefl
    next h => exact { hrefl with types := fun hn => absurd hn h }
  · exact { hrefl with description := or_of_said }
  · exact { hrefl with optional := or_of_some _ }
  · exact { hrefl with default := or_of_said }
  · exact { hrefl with nullable := or_of_some }
  · exact { hrefl with deprecated := or_of_some }
  · exact { hrefl with access := or_of_said }
  · exact { hrefl with readonly := or_of_some }
  · split
    · exact { hrefl with extras := insertNew_prefix _ _ _ }
    · exact hrefl

theorem foldl_placeNote_kept (notes : MemberNotes) (p : PropertyDoc) :
    p.Kept (notes.foldl placeNote p) := by
  induction notes generalizing p with
  | nil => exact .refl p
  | cons entry notes ih => exact (placeNote_kept p entry).trans (ih _)

theorem mergeMember_kept {dictionary : Dictionary} {p q : PropertyDoc} {m : InterfaceMember}
    (h : mergeMember dictionary p m = some q) : p.Kept q := by
  unfold mergeMember at h
  dsimp only at h
  split at h
  next => simp at h
  next =>
    -- the name, the flag, the notes and the declared type are filled in this order
    have hname : p.Kept
        (if (said p.name).isNone && m.key != "" then { p with name := some m.key } else p) := by
      split
      next hc =>
        rw [Bool.and_eq_true, Option.isNone_iff_eq_none] at hc
        exact { PropertyDoc.Kept.refl p with name := fun s hs => by simp [hc.1] at hs }
      next => exact .refl p
    have hflag : ∀ q : PropertyDoc,
        q.Kept (if m.optional then { q with optional := some (.flag true) } else q) := by
      intro q
      split
      · exact { PropertyDoc.Kept.refl q with optional := fun _ => rfl }
      · exact .refl q
    have htype : ∀ (q : PropertyDoc) (declared : String),
        q.Kept (if !hasNames q.types && declared != "" then
          { q with types := some [Text.trimmed declared] } else q) := by
      intro q declared
      split
      next hc =>
        rw [Bool.and_eq_true, Bool.not_eq_true'] at hc
        exact { PropertyDoc.Kept.refl q with types := fun hn => by simp [hc.1] at hn }
      next => exact .refl q
    rw [← Option.some.inj h]
    exact ((hname.trans (hflag _)).trans (foldl_placeNote_kept _ _)).trans (htype _ _)

theorem alignMembers_kept (dictionary : Dictionary) (members : List InterfaceMember)
    (properties : List PropertyDoc) :
    KeptAlong PropertyDoc.Kept properties (alignMembers dictionary members properties).1 := by
  fun_induction alignMembers dictionary members properties with
  | case1 properties => exact .refl PropertyDoc.Kept.refl
  | case2 | case3 => exact .nil
  | case4 | case6 => exact .refl PropertyDoc.Kept.refl
  | case5 m members p properties hn merged hm rest ok hr ih =>
    rw [hr] at ih
    exact .cons (mergeMember_kept hm) ih
  | case7 m members p properties hn merged hm rest ok hr ih =>
    rw [hr] at ih
    exact .cons (mergeMember_kept hm) ih

/-- Whatever is noted as a type is more than a text. -/
def TypeIsRead (notes : MemberNotes) : Prop := ∀ s, notes.lookup "type" ≠ some (.words s)

theorem TypeIsRead.insert_of_ne {notes : MemberNotes} (h : TypeIsRead notes) {key : String}
    (hk : "type" ≠ key) (note : MemberNote) : TypeIsRead (Assoc.insert key note notes) := by
  intro s
  rw [Assoc.lookup_insert_of_ne hk]
  exact h s

theorem TypeIsRead.noteOfTitle {notes : MemberNotes} (h : TypeIsRead notes) (tag : Tag) :
    TypeIsRead (noteOfTitle tag notes) := by
  unfold Doclet.noteOfTitle
  split
  · exact h.insert_of_ne (by decide) _
  · exact h.insert_of_ne (by decide) _
  · exact (h.insert_of_ne (by decide) _).insert_of_ne (by decide) _
  · exact h.insert_of_ne (by decide) _
  · exact h

theorem typeIsRead_apply_type (tag : Tag) (notes : MemberNotes) :
    TypeIsRead (PropertyHook.type.apply tag notes) := by
  intro s
  simp only [PropertyHook.apply]
  split
  · rw [Assoc.lookup_insert_self]
    simp
  · rw [Assoc.lookup_erase_self]
    simp

theorem TypeIsRead.apply {notes : MemberNotes} (h : TypeIsRead notes) (hook : PropertyHook)
    (tag : Tag) : TypeIsRead (hook.apply tag notes) := by
  cases hook with
  | type => exact typeIsRead_apply_type tag notes
  | readonly => exact h.insert_of_ne (by decide) _
  | access level =>
    intro s
    simp only [PropertyHook.apply]
    split
    · exact h.insert_of_ne (by decide) _ s
    · rw [Assoc.lookup_erase_of_ne (by decide)]
      exact h s

section ReadsTypes

variable {dictionary : Dictionary} (hd : dictionary.ReadsTypes)

include hd

/-- The text of a type tag is noted and then at once replaced by its hook. -/
theorem TypeIsRead.noteTag {notes : MemberNotes} (h : TypeIsRead notes) (w : WrittenTag) :
    TypeIsRead (noteTag dictionary notes w) := by
  unfold Doclet.noteTag
  dsimp only
  have hn := h.noteOfTitle (dictionary.makeTag w.title w.body)
  split
  next => exact hn
  next t ht =>
    split
    · exact hn
    · by_cases hk : "type" = (dictionary.makeTag w.title w.body).title
      · rw [Dictionary.title_makeTag] at hk
        rw [hd w.title t ht hk.symm]
        exact typeIsRead_apply_type _ _
      · have hi := hn.insert_of_ne hk (.ofText? (dictionary.makeTag w.title w.body).text)
        split
        · exact hi.apply _ _
        · exact hi

theorem TypeIsRead.foldl_noteTag {notes : MemberNotes} (h : TypeIsRead notes)
    (tags : List WrittenTag) : TypeIsRead (tags.foldl (Doclet.noteTag dictionary) notes) := by
  induction tags generalizing notes with
  | nil => exact h
  | cons w tags ih => exact ih (h.noteTag hd w)

theorem typeIsRead_memberNotes (m : InterfaceMember) : TypeIsRead (memberNotes dictionary m) := by
  apply TypeIsRead.foldl_noteTag hd
  intro s
  simp [List.lookup_cons]

theorem mergeMember_isSome (p : PropertyDoc) (m : InterfaceMember) :
    ∃ q, mergeMember dictionary p m = some q := by
  have ht : typeIsText p (memberNotes dictionary m) = false := by
    unfold typeIsText
    cases hl : (memberNotes dictionary m).lookup "type" with
    | none => simp
    | some note =>
      cases note with
      | words s => exact absurd hl (typeIsRead_memberNotes hd m s)
      | absent | flag | types => simp [MemberNote.text?]
  simp [mergeMember, ht]

theorem alignMembers_isDone (members : List InterfaceMember) (properties : List PropertyDoc) :
    (alignMembers dictionary members properties).2 = true := by
  fun_induction alignMembers dictionary members properties with
  | case1 => rfl
  | case2 m members hm =>
    obtain ⟨q, hq⟩ := mergeMember_isSome hd {} m
    simp [hq] at hm
  | case4 m members p properties hn hm =>
    obtain ⟨q, hq⟩ := mergeMember_isSome hd p {}
    simp [hq] at hm
  | case6 m members p properties hn hm =>
    obtain ⟨q, hq⟩ := mergeMember_isSome hd p m
    simp [hq] at hm
  | case3 m members merged hm rest ok hr ih => simpa [hr] using ih
  | case5 m members p properties hn merged hm rest ok hr ih => simpa [hr] using ih
  | case7 m members p properties hn merged hm rest ok hr ih => simpa [hr] using ih

end ReadsTypes

end DocComment.Doclet
