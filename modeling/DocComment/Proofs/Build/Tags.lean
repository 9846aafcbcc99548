import DocComment.Doclet.Build
import DocComment.Proofs.Dictionary.Standard

/-! What tags leave alone. No tag gives out a name or touches the place of a
doclet, and the standard tags write neither its comment nor its longname. -/

namespace DocComment

/-- Work that gives out no name and keeps the comment, the longname and the place. -/
structure Progress.IsQuiet (d : Doclet) (p : Progress) : Prop where
  exports : p.exports = []
  comment : p.doclet.comment = d.comment
  longname : p.doclet.longname = d.longname
  place : p.doclet.place = d.place

theorem Progress.IsQuiet.andThen {d : Doclet} {p : Progress} (h : p.IsQuiet d)
    {step : Doclet → Progress} (hs : ∀ e, (step e).IsQuiet e) : (p.andThen step).IsQuiet d := by
  unfold Progress.andThen
  split
  · exact h
  · have hq := hs p.doclet
    exact ⟨by simp [h.exports, hq.exports], hq.comment.trans h.comment,
      hq.longname.trans h.longname, hq.place.trans h.place⟩

theorem Progress.IsQuiet.of_eq {d e : Doclet} {p : Progress} (h : p.IsQuiet e)
    (hc : e.comment = d.comment) (hl : e.longname = d.longname) (hp : e.place = d.place) :
    p.IsQuiet d :=
  ⟨h.exports, h.comment.trans hc, h.longname.trans hl, h.place.trans hp⟩

theorem Progress.IsQuiet.change {d : Doclet} {p : Progress} (h : p.IsQuiet d)
    (f : Doclet → Doclet) (hc : ∀ e, (f e).comment = e.comment)
    (hl : ∀ e, (f e).longname = e.longname) (hp : ∀ e, (f e).place = e.place) :
    (p.change f).IsQuiet d :=
  h.andThen fun e => ⟨rfl, hc e, hl e, hp e⟩

namespace Doclet

theorem tryKind_isQuiet (d : Doclet) (kind : Option String) : (d.tryKind kind).IsQuiet d := by
  unfold tryKind setKind
  split <;> exact ⟨rfl, rfl, rfl, rfl⟩

theorem applyBaseline_isQuiet (tag : Tag) (d : Doclet) : (applyBaseline tag d).IsQuiet d := by
  unfold applyBaseline
  split
  · exact ⟨rfl, rfl, rfl, rfl⟩
  · unfold applySort
    split
    · exact ⟨rfl, rfl, rfl, rfl⟩
    · split <;> exact ⟨rfl, rfl, rfl, rfl⟩
  · exact tryKind_isQuiet d _
  · exact ⟨rfl, rfl, rfl, rfl⟩
  · exact ⟨rfl, rfl, rfl, rfl⟩

theorem applyDeclaration_isQuiet (kind : String) (withType : Bool) (tag : Tag) (d : Doclet) :
    (applyDeclaration kind withType tag d).IsQuiet d := by
  unfold applyDeclaration
  refine (tryKind_isQuiet d _).andThen fun e => ?_
  split
  · exact ⟨rfl, rfl, rfl, rfl⟩
  · split <;> exact ⟨rfl, rfl, rfl, rfl⟩
  · exact ⟨rfl, rfl, rfl, rfl⟩

theorem setText_isQuiet {field : TextField} (hc : field ≠ .comment) (hl : field ≠ .longname)
    (d : Doclet) (s : Option String) : ({ doclet := d.setText field s } : Progress).IsQuiet d := by
  cases field <;> first | exact ⟨rfl, rfl, rfl, rfl⟩ | contradiction

theorem applyHook_isQuiet {hook : Hook} (hc : hook ≠ .setText .comment)
    (hl : hook ≠ .setText .longname) (tag : Tag) (d : Doclet) :
    (applyHook hook tag d).IsQuiet d := by
  cases hook with
  | setText field =>
    exact setText_isQuiet (fun h => hc (h ▸ rfl)) (fun h => hl (h ▸ rfl)) d tag.plain?
  | setFlag field => cases field <;> exact ⟨rfl, rfl, rfl, rfl⟩
  | setScope scope =>
    simp only [applyHook, trySetScope]
    split <;> exact ⟨rfl, rfl, rfl, rfl⟩
  | setAccess level =>
    simp only [applyHook, setAccess]
    split <;> exact ⟨rfl, rfl, rfl, rfl⟩
  | appendText field =>
    simp only [applyHook]
    split
    · cases field <;> exact ⟨rfl, rfl, rfl, rfl⟩
    · exact ⟨rfl, rfl, rfl, rfl⟩
  | declare kind withType => exact applyDeclaration_isQuiet kind withType tag d
  | access =>
    simp only [applyHook, applyAccess, setAccess]
    split
    · split <;> exact ⟨rfl, rfl, rfl, rfl⟩
    · exact ⟨rfl, rfl, rfl, rfl⟩
  | augments | implements | mixes =>
    simp only [applyHook]
    split <;> exact ⟨rfl, rfl, rfl, rfl⟩
  | borrows =>
    simp only [applyHook, applyBorrows]
    split <;> exact ⟨rfl, rfl, rfl, rfl⟩
  | memberof =>
    simp only [applyHook, applyMemberof]
    split <;> exact ⟨rfl, rfl, rfl, rfl⟩
  | default =>
    simp only [applyHook, applyDefault]
    split
    · exact ⟨rfl, rfl, rfl, rfl⟩
    · exact ⟨rfl, rfl, rfl, rfl⟩
    · split <;> exact ⟨rfl, rfl, rfl, rfl⟩
  | enum =>
    have hstart := tryKind_isQuiet { d with isEnum := some true } (some "member")
    exact (hstart.of_eq (d := d) rfl rfl rfl).change _ (fun _ => rfl) (fun _ => rfl) fun _ => rfl
  | global | deprecated | param | property | returns | throws | type => exact ⟨rfl, rfl, rfl, rfl⟩

section Tags

variable {dictionary : Dictionary} (hd : dictionary.KeepsLongnames)

include hd

theorem applyTag_isQuiet (title : String) (body : Option String) (d : Doclet) :
    (applyTag dictionary title body d).IsQuiet d := by
  apply (applyBaseline_isQuiet _ d).andThen
  intro e
  unfold applyDefinitionWith
  split
  · exact ⟨rfl, rfl, rfl, rfl⟩
  next t ht =>
    split
    next hook hhook =>
      obtain ⟨hc, hl⟩ := hd title t ht
      rw [hhook] at hc hl
      exact applyHook_isQuiet (fun h => hc (h ▸ rfl)) (fun h => hl (h ▸ rfl)) _ e
    next => exact ⟨rfl, rfl, rfl, rfl⟩

theorem through_applyTag_isQuiet (tags : List WrittenTag) {d : Doclet} {p : Progress}
    (h : p.IsQuiet d) :
    (p.through tags fun tag => applyTag dictionary tag.title tag.body).IsQuiet d := by
  induction tags generalizing p with
  | nil => exact h
  | cons tag tags ih => exact ih (h.andThen (applyTag_isQuiet hd tag.title tag.body))

theorem applyTags_isQuiet (tags : List WrittenTag) (d : Doclet) :
    (applyTags dictionary tags d).IsQuiet d :=
  through_applyTag_isQuiet hd tags ⟨rfl, rfl, rfl, rfl⟩

end Tags

/-- Tags that can all be applied are applied one after another. -/
theorem doclet_applyTags {dictionary : Dictionary} {tags : List WrittenTag} {d : Doclet}
    (h : (applyTags dictionary tags d).fault = none) :
    (applyTags dictionary tags d).doclet =
      tags.foldl (fun d w => (applyTag dictionary w.title w.body d).doclet) d :=
  Progress.doclet_through h

theorem setPlace_keeps (d : Doclet) (stamp : Nat) (source : Source) :
    (d.setPlace stamp source).comment = d.comment ∧
      (d.setPlace stamp source).longname = d.longname := by
  unfold setPlace
  dsimp only
  split <;> exact ⟨rfl, rfl⟩

theorem tagged_isQuiet {context : Context} (hd : context.dictionary.KeepsLongnames)
    (comment : Option String) (source : Source) (contextId : Option Nat) (stamp : Nat)
    (twinId : Option Nat) :
    let links : Links := { code := stamp, twin := twinId, context := contextId }
    (tagged context comment source contextId stamp twinId).IsQuiet
      { comment, place := (start context links comment source stamp).place } := by
  intro links
  have hplace := setPlace_keeps
    { comment, sort := some context.settings.sortSentinel, links } stamp source
  have htags := applyTags_isQuiet hd (Comment.parse comment (source.code.bind (·.type)))
    (start context links comment source stamp)
  have hstart := htags.of_eq
    (d := { comment, place := (start context links comment source stamp).place })
    hplace.1 hplace.2 rfl
  exact hstart.change (fun d => { d with filename := some d.filepath })
    (fun _ => rfl) (fun _ => rfl) fun _ => rfl

end Doclet

end DocComment
