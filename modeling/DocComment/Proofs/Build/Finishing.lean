import DocComment.Proofs.Build.Stages
import DocComment.Proofs.Tagging.Parts

/-! What is left alone after the tags. The stages that follow find names and a kind,
meet the twin and read the facts; all other parts of a finished doclet are what its tags
have made of them. -/

namespace DocComment

/-- Whether tags are the only ones to write to a part. -/
def Part.onlyByTags : Part → Bool
  | .identity | .scope | .access | .params | .returns | .properties | .augments | .implements
  | .rest => false
  | _ => true

namespace Doclet

section Stages

variable {r : Part} (h : r.onlyByTags = true)

include h

theorem part_withNames (d : Doclet) (n : Names) : (d.withNames n).part r = d.part r := by
  cases r with
  | identity | scope | rest => exact absurd h (by decide)
  | _ => rfl

theorem part_named (dictionary : Dictionary) (d : Doclet) :
    (d.named dictionary).part r = d.part r := by
  obtain ⟨n, hn⟩ := exists_named_eq dictionary d
  rw [hn, part_withNames h]

theorem part_withKind (d : Doclet) (kind : Option String) :
    ({ d with kind } : Doclet).part r = d.part r := by
  cases r with
  | identity => exact absurd h (by decide)
  | _ => rfl

theorem part_showVariation (d : Doclet) : d.showVariation.part r = d.part r := by
  rw [showVariation_eq]
  cases r with
  | rest => exact absurd h (by decide)
  | _ => rfl

/-- A doclet takes over nothing but its place and its links. -/
theorem part_withPlace (d : Doclet) (place : Placement) (links : Links) :
    ({ d with place, links } : Doclet).part r = d.part r := by
  cases r with
  | rest => exact absurd h (by decide)
  | _ => rfl

theorem part_syncTwin (twin : Option Doclet) (d : Doclet) :
    (syncTwin twin d).part r = d.part r := by
  unfold syncTwin
  split
  · rfl
  · split
    · exact part_withPlace h d _ _
    · rfl

theorem part_release (settings : Settings) (d : Doclet) :
    (d.release settings).part r = d.part r := by
  unfold release
  split
  · exact part_withPlace h d _ _
  · rfl

theorem part_background (d : Doclet) : d.background.part r = d.part r := by
  cases r with
  | identity | scope | access | params | returns | properties | augments | implements | rest =>
    exact absurd h (by decide)
  | _ => rfl

theorem part_enrich (context : Context) (d : Doclet) :
    (d.enrich context).doclet.part r = d.part r := by
  rw [← part_background h, background_enrich, part_background h]

theorem part_finished (context : Context) (twin : Option Doclet) (p : Progress) :
    ((((p.change showVariation).change (syncTwin twin)).andThen (enrich context)).change
      (release context.settings)).doclet.part r = p.doclet.part r := by
  let read := fun d : Doclet => d.part r
  have hreleased := Progress.read_change read (part_release h context.settings)
  have henriched := Progress.read_andThen read (part_enrich h context)
  have hsynced := Progress.read_change read (part_syncTwin h twin)
  have hshown := Progress.read_change read (part_showVariation h)
  exact (hreleased _).trans ((henriched _).trans ((hsynced _).trans (hshown p)))

theorem part_postProcess {context : Context} (hd : context.dictionary.SetsKinds)
    (twin : Option Doclet) (d : Doclet) :
    (d.postProcess context twin).doclet.part r = d.part r := by
  obtain ⟨kind, hkind⟩ := fillKind_ends hd (d.named context.dictionary)
  have hnaming := naming_ends context.dictionary d
  have hfound : ((d.naming context.dictionary).andThen (fillKind context.dictionary)).doclet =
      { d.named context.dictionary with kind } := by
    rw [Progress.doclet_andThen hnaming.fault, hnaming.doclet, hkind.doclet]
  rw [postProcess_eq, derive_eq, part_finished h, hfound, part_withKind h, part_named h]

end Stages

end Doclet

end DocComment
