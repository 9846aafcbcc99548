import DocComment.Proofs.Build.Faults
import DocComment.Proofs.Build.Place
import DocComment.Proofs.Data.Places
import DocComment.Proofs.Fact.RoundTrip

/-! The value that comes with the code of a symbol. Building leaves it as it was handed
in, and the data of the doclet shows it cleaned. It may be data of any shape, so names
of its members can meet under one name in camel case; then all but the last of these
members are lost. -/

namespace DocComment

theorem CodeRecord.get?_encode_value (c : CodeRecord) :
    c.encode.clean.get? "value" = if c.value.isNull then none else some c.value.clean := by
  refine Value.get?_clean_of_mem ?_ (by simp) (by decide +kernel)
  simp only [List.map_cons, List.map_nil]
  decide +kernel

theorem Placement.get?_encode_code (p : Placement) :
    p.encode.clean.get? "code" = some p.code.encode.clean := by
  refine Value.get?_clean_object ?_ (by simp) rfl (by decide +kernel)
  simp only [List.map_cons, List.map_nil]
  decide +kernel

namespace Doclet

/-- Where the data of a doclet has the value of its code. -/
def codeValuePlace : List Segment := [.field "meta", .field "code", .field "value"]

theorem at?_encode_codeValue (d : Doclet) :
    d.encode.at? codeValuePlace =
      if d.place.code.value.isNull then none else some d.place.code.value.clean := by
  have hsteps : d.encode.at? codeValuePlace =
      (d.encode.get? "meta").bind fun place => (place.get? "code").bind fun code =>
        (code.get? "value").bind some := rfl
  rw [hsteps, get?_encode_meta, Option.bind_some, Placement.get?_encode_code, Option.bind_some,
    CodeRecord.get?_encode_value, Option.bind_fun_some]

theorem release_codeValue (settings : Settings) (d : Doclet) :
    (d.release settings).place.code.value = d.place.code.value := by
  rw [code_release]
  split <;> rfl

theorem postProcess_codeValue (context : Context) (d : Doclet) :
    (d.postProcess context none).doclet.place.code.value = d.place.code.value := by
  obtain ⟨found, hsame, hfound⟩ := exists_derive_eq context.dictionary d
  have hpasses := (hsame.change (syncTwin none) SamePlace.refl).andThen (enrich context)
    (enrich_samePlace context)
  rw [postProcess_eq, hfound, ← hpasses.place]
  exact Progress.read_change (·.place.code.value) (release_codeValue context.settings) _

theorem createAlone_codeValue (context : Context) (comment : Option String) (source : Source) :
    (createAlone context comment source).doclet.place.code.value = source.codeValue := by
  rw [createAlone, create_eq, Option.map_none, Option.map_none,
    Progress.read_andThen (·.place.code.value) (postProcess_codeValue context),
    (tagged_samePlace context comment source none 0 none).place]
  exact start_codeValue context _ comment source 0

theorem at?_encode_createAlone (context : Context) (comment : Option String) (source : Source) :
    (createAlone context comment source).doclet.encode.at? codeValuePlace =
      if source.codeValue.isNull then none else some source.codeValue.clean := by
  rw [at?_encode_codeValue, createAlone_codeValue]

/-- Whatever value comes with the code, the data of the doclet has it cleaned. Everywhere
in there lists are as long as before, no member of an object is null, and an object has
one member for each name that members which are not null get. So only null members are
lost if and only if in no object, at any depth, two of the other members get one name. -/
theorem dropsOnlyNulls_iff (v : Value) :
    (∀ (context : Context) (comment : Option String) (source : Source) (symbol : SourceSymbol),
      (createAlone context comment
        { source with code := some { symbol with value := v } }).doclet.encode.at? codeValuePlace =
          if v.isNull then none else some v.clean) ∧
      v.CleanShows (fun ms => (Value.cleanNames ms).dedup.length) ∧
      (v.DropsOnlyNulls ↔ ∀ ms ∈ v.objects, (Value.cleanNames ms).Nodup) := by
  refine ⟨?_, ?_, ?_⟩
  · exact fun context comment _ _ => at?_encode_createAlone context comment _
  · exact (Value.cleanShows_iff _ v).2 fun _ _ _ _ _ => rfl
  · have hcount : v.DropsOnlyNulls ↔ v.OriginsApart := by
      rw [Value.DropsOnlyNulls, Value.cleanShows_iff]
      simp only [Value.OriginsApart, Value.length_dedup_cleanNames_iff]
    exact hcount.trans Value.originsApart_iff

/-- A setting in both spellings. -/
def bothSpellings : List (String × Value) := [("maxSize", .int 1), ("max_size", .int 2)]

def namedOptions : Progress :=
  createAlone {} (some "/** @name options */") { code := some { value := .object bothSpellings } }

/-- Neither of the two members is null, and one of them is lost. -/
theorem namedOptions_loses_member :
    namedOptions.fault = none ∧ Value.present bothSpellings = bothSpellings ∧
      namedOptions.doclet.encode.at? codeValuePlace = some (.object [("maxSize", .int 2)]) ∧
      ¬ (Value.object bothSpellings).DropsOnlyNulls := by
  have hclean : (Value.object bothSpellings).clean = .object [("maxSize", .int 2)] := rfl
  refine ⟨by decide +kernel, rfl, ?_, ?_⟩
  · rw [namedOptions, at?_encode_createAlone]
    exact congrArg some hclean
  · intro h
    have hroot := h []
    rw [Value.at?, Value.follow, hclean] at hroot
    cases hroot with
    | some hshows =>
      obtain ⟨kept, hkept, -, hcount, -⟩ := hshows
      cases hkept
      have htwo : (Value.present bothSpellings).length = 2 := rfl
      exact absurd (hcount.trans htwo) (by decide)

end Doclet

end DocComment
