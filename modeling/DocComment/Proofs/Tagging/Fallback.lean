import DocComment.Proofs.Tagging.Parts

/-! The tags that a doclet collects because its dictionary does not know them. Hooks
of other dictionaries may do anything, so what they do is left open here: as long as
they keep the collected tags, those are the unknown tags in the order of the source. -/

namespace DocComment

def HookAction.KeepsTags (act : HookAction) : Prop :=
  ∀ hook tag d, (act hook tag d).doclet.tags = d.tags

/-- The written tags that the dictionary has no definition for. -/
def Dictionary.unknown (dictionary : Dictionary) (written : List WrittenTag) : List WrittenTag :=
  written.filter fun w => (dictionary.lookUp w.title).isNone

def Dictionary.readAll (dictionary : Dictionary) (written : List WrittenTag) : List Tag :=
  written.map fun w => dictionary.makeTag w.title w.body

namespace Dictionary

theorem unknown_append (dictionary : Dictionary) (v w : List WrittenTag) :
    dictionary.unknown (v ++ w) = dictionary.unknown v ++ dictionary.unknown w :=
  List.filter_append v w

theorem readAll_append (dictionary : Dictionary) (v w : List WrittenTag) :
    dictionary.readAll (v ++ w) = dictionary.readAll v ++ dictionary.readAll w :=
  List.map_append

theorem written_makeTag (dictionary : Dictionary) (title : String) (body : Option String) :
    (dictionary.makeTag title body).written = title := by
  unfold makeTag
  split <;> rfl

/-- Tags keep the titles that their authors wrote. -/
theorem written_readAll (dictionary : Dictionary) (written : List WrittenTag) :
    (dictionary.readAll written).map (·.written) = written.map (·.title) := by
  rw [readAll, List.map_map]
  exact List.map_congr_left fun w _ => dictionary.written_makeTag w.title w.body

end Dictionary

theorem Hook.part_ne_tags (hook : Hook) : hook.part ≠ .tags := by
  cases hook with
  | setText field => cases field <;> decide
  | setFlag field => cases field <;> decide
  | appendText field => cases field <;> decide
  | _ => exact Part.noConfusion

namespace Doclet

/-- The collected tags, of which there is no list until there is one. -/
def listed (tags : List Tag) : Option (List Tag) := if tags = [] then none else some tags

theorem added_listed (tags : List Tag) (tag : Tag) :
    added (listed tags) tag = listed (tags ++ [tag]) := by
  unfold listed
  split
  next h => simp [added, h]
  next => simp [added]

theorem listed_append_eq_iff {v w : List Tag} : listed (v ++ w) = listed v ↔ w = [] := by
  refine ⟨fun h => ?_, fun h => by rw [h, List.append_nil]⟩
  unfold listed at h
  split at h
  next hnil => exact (List.append_eq_nil_iff.mp hnil).2
  next =>
    split at h
    · simp at h
    · exact List.append_cancel_left ((Option.some.inj h).trans (List.append_nil v).symm)

theorem tags_of_part {d e : Doclet} (h : d.part .tags = e.part .tags) : d.tags = e.tags := by
  change (d.part .tags).tags = (e.part .tags).tags
  rw [h]

theorem applyHook_keepsTags : HookAction.KeepsTags applyHook := by
  intro hook tag d
  exact tags_of_part ((applyHook_worksOn hook tag).part_of_ne (hook.part_ne_tags).symm d)

section Tags

variable {act : HookAction} (hact : act.KeepsTags) {dictionary : Dictionary}

theorem tags_applyBaseline (tag : Tag) (d : Doclet) :
    (applyBaseline tag d).doclet.tags = d.tags := by
  have hbaseline : ∀ title, baselinePart title ≠ some .tags := by
    intro title
    unfold baselinePart
    split <;> decide
  exact tags_of_part (part_applyBaseline hbaseline tag d)

include hact

/-- One tag is collected if it is unknown. -/
theorem tags_applyTagWith (w : WrittenTag) {d : Doclet} {tags : List Tag}
    (hd : d.tags = listed tags)
    (h : (applyTagWith act dictionary w.title w.body d).fault = none) :
    (applyTagWith act dictionary w.title w.body d).doclet.tags =
      listed (tags ++ dictionary.readAll (dictionary.unknown [w])) := by
  have hbaseline := Progress.fault_of_andThen h
  have hkept := tags_applyBaseline (dictionary.makeTag w.title w.body) d
  unfold applyTagWith
  dsimp only
  rw [Progress.doclet_andThen hbaseline]
  cases hfound : dictionary.lookUp w.title with
  | none =>
    have hunknown : dictionary.unknown [w] = [w] := by simp [Dictionary.unknown, hfound]
    simp only [applyDefinitionWith, hkept, hd, added_listed, hunknown, Dictionary.readAll,
      List.map_cons, List.map_nil]
  | some t =>
    have hunknown : dictionary.unknown [w] = [] := by simp [Dictionary.unknown, hfound]
    rw [hunknown, Dictionary.readAll, List.map_nil, List.append_nil, ← hd, ← hkept]
    cases hhook : t.hook with
    | none => rw [applyDefinitionWith_of_hookless act hhook]
    | some hook =>
      rw [applyDefinitionWith_of_hook act hhook]
      exact hact hook _ _

theorem tags_through (written : List WrittenTag) {p : Progress} {tags : List Tag}
    (hp : p.doclet.tags = listed tags)
    (h : (p.through written fun w => applyTagWith act dictionary w.title w.body).fault = none) :
    (p.through written fun w => applyTagWith act dictionary w.title w.body).doclet.tags =
      listed (tags ++ dictionary.readAll (dictionary.unknown written)) := by
  induction written generalizing p tags with
  | nil =>
    rw [Dictionary.unknown, List.filter_nil, Dictionary.readAll, List.map_nil, List.append_nil]
    exact hp
  | cons w written ih =>
    have hstep : (p.andThen (applyTagWith act dictionary w.title w.body)).fault = none :=
      Progress.fault_of_through h
    have hstart := Progress.fault_of_andThen hstep
    have hown : (applyTagWith act dictionary w.title w.body p.doclet).fault = none :=
      Progress.next_fault_of_andThen hstep
    have hcollected := tags_applyTagWith hact w hp hown
    rw [← Progress.doclet_andThen hstart] at hcollected
    have hcons : dictionary.unknown (w :: written) =
        dictionary.unknown [w] ++ dictionary.unknown written :=
      dictionary.unknown_append [w] written
    rw [hcons, Dictionary.readAll_append, ← List.append_assoc]
    exact ih hcollected h

theorem tags_applyTagsWith (written : List WrittenTag) {d : Doclet} (hd : d.tags = none)
    (h : (applyTagsWith act dictionary written d).fault = none) :
    (applyTagsWith act dictionary written d).doclet.tags =
      listed (dictionary.readAll (dictionary.unknown written)) := by
  have hstart : ({ doclet := d } : Progress).doclet.tags = listed [] := hd
  exact tags_through hact written hstart h

end Tags

end Doclet

end DocComment
