import DocComment.Command.Run
import DocComment.Proofs.Build.Faults

/-! The entries of a batch do not influence each other. They have one context in
common, in which names are collected, but nothing that builds a doclet looks at
these names; so each entry leads to what it leads to by itself. -/

namespace DocComment

/-- The fault with another number for the entry, if it tells one. -/
def Fault.atIndex (index : Nat) : Fault → Fault
  | .commentNotText _ => .commentNotText index
  | fault => fault

-- Every stage takes only the dictionary and the settings from its context.
theorem Doclet.createAlone_exports (context : Context) (exports : ExportIndex)
    (comment : Option String) (source : Source) :
    createAlone { context with exports } comment source = createAlone context comment source := rfl

namespace Batch

/-- What an entry leads to by itself. -/
def alone (context : Context) (entry : Value) : Built := build context [entry]

theorem comment?_index (entry : Value) (index : Nat) :
    comment? entry index = (comment? entry 0).mapError (Fault.atIndex index) := by
  unfold comment?
  split <;> rfl

theorem source_atIndex {entry : Value} {fault : Fault} (h : source entry = .error fault)
    (index : Nat) : fault.atIndex index = fault := by
  unfold source at h
  split at h
  · cases h
  · cases h
    rfl

section

variable {context : Context} (hd : context.dictionary = .standard)

include hd

theorem createAlone_atIndex {comment : Option String} {source : Source} {fault : Fault}
    (h : (Doclet.createAlone context comment source).fault = some fault) (index : Nat) :
    fault.atIndex index = fault := by
  obtain ⟨digits, rfl⟩ := (Doclet.create_stopsIff hd comment source none 0 none).fault_eq_some h
  rfl

/-- To a batch that has gone well so far an entry adds what it leads to by itself. -/
theorem add_alone {b : Built} (hfault : b.fault = none) {exports : ExportIndex}
    (hcontext : b.context = { context with exports }) (entry : Value) :
    (b.add entry).fault = (alone context entry).fault.map (Fault.atIndex b.doclets.length) ∧
      (b.add entry).doclets = b.doclets ++ (alone context entry).doclets ∧
      ∃ exports, (b.add entry).context = { context with exports } := by
  have hindex := comment?_index entry b.doclets.length
  have hsame := Doclet.createAlone_exports context exports
  simp only [alone, build, List.foldl_cons, List.foldl_nil, Built.add, hfault, hcontext, hindex,
    List.length_nil]
  cases comment? entry 0 with
  | error fault => exact ⟨rfl, (List.append_nil _).symm, exports, rfl⟩
  | ok comment =>
    cases hsource : source entry with
    | error fault =>
      have hkept := source_atIndex hsource b.doclets.length
      exact ⟨congrArg some hkept.symm, (List.append_nil _).symm, exports, rfl⟩
    | ok src =>
      have hok : (Except.ok comment).mapError (Fault.atIndex b.doclets.length) = .ok comment := rfl
      simp only [hok, hsame]
      cases hwork : (Doclet.createAlone context comment src).fault with
      | none => exact ⟨rfl, rfl, _, rfl⟩
      | some fault =>
        have hkept := createAlone_atIndex hd hwork b.doclets.length
        exact ⟨congrArg some hkept.symm, (List.append_nil _).symm, _, rfl⟩

end

theorem doclets_alone {context : Context} {entry : Value} (h : (alone context entry).fault = none) :
    ∃ d, (alone context entry).doclets = [d] := by
  simp only [alone, build, List.foldl_cons, List.foldl_nil, Built.add] at h ⊢
  cases hcomment : comment? entry 0 with
  | error fault => simp [hcomment] at h
  | ok comment =>
    cases hsource : source entry with
    | error fault => simp [hcomment, hsource] at h
    | ok src =>
      simp only [List.length_nil, hcomment, hsource] at h ⊢
      cases hwork : (Doclet.createAlone context comment src).fault with
      | some fault => simp [hwork] at h
      | none => exact ⟨_, rfl⟩

theorem fault_alone {context : Context} {entry : Value} {comment : Option String} {src : Source}
    (hcomment : comment? entry 0 = .ok comment) (hsource : source entry = .ok src) :
    (alone context entry).fault = (Doclet.createAlone context comment src).fault := by
  simp only [alone, build, List.foldl_cons, List.foldl_nil, Built.add, List.length_nil, hcomment,
    hsource]
  split
  next hwork => exact hwork.symm
  next hwork => exact hwork.symm

/-- What has been built when all entries so far have gone well: for each of them the
doclet that it leads to by itself. -/
structure Built.IsFaultless (context : Context) (entries : List Value) (b : Built) : Prop where
  fault : b.fault = none
  context_eq : ∃ exports, b.context = { context with exports }
  doclets : b.doclets.map (fun d => [d]) = entries.map fun e => (alone context e).doclets

namespace Built.IsFaultless

variable {context : Context} {entries : List Value} {b : Built}

theorem length (h : b.IsFaultless context entries) : b.doclets.length = entries.length := by
  have hlength := congrArg List.length h.doclets
  rwa [List.length_map, List.length_map] at hlength

theorem doclet_at (h : b.IsFaultless context entries) {k : Nat} {e : Value}
    (he : entries[k]? = some e) :
    ∃ d, (alone context e).doclets = [d] ∧ b.doclets[k]? = some d := by
  have hat := congrArg (fun xs => xs[k]?) h.doclets
  simp only [List.getElem?_map, he, Option.map_some] at hat
  obtain ⟨d, hd, halone⟩ := Option.map_eq_some_iff.mp hat
  exact ⟨d, halone.symm, hd⟩

theorem doclets_eq (h : b.IsFaultless context entries) :
    b.doclets = (entries.map fun e => (alone context e).doclets).flatten := by
  rw [← h.doclets, ← List.flatMap_def, List.flatMap_singleton']

theorem add (hd : context.dictionary = .standard) (h : b.IsFaultless context entries)
    {entry : Value} (halone : (alone context entry).fault = none) :
    (b.add entry).IsFaultless context (entries ++ [entry]) := by
  obtain ⟨exports, hcontext⟩ := h.context_eq
  obtain ⟨hfault, hdoclets, hexports⟩ := add_alone hd h.fault hcontext entry
  obtain ⟨d, hone⟩ := doclets_alone halone
  refine ⟨?_, hexports, ?_⟩
  · rw [hfault, halone, Option.map_none]
  · rw [hdoclets, hone, List.map_append, List.map_append, h.doclets, List.map_singleton,
      List.map_singleton, hone]

theorem foldl_add (hd : context.dictionary = .standard) (h : b.IsFaultless context entries)
    {more : List Value} (halone : ∀ e ∈ more, (alone context e).fault = none) :
    (more.foldl Built.add b).IsFaultless context (entries ++ more) := by
  induction more generalizing b entries with
  | nil => rwa [List.append_nil]
  | cons e more ih =>
    have hstep := h.add hd (halone e List.mem_cons_self)
    have hrest := ih hstep fun e' he' => halone e' (List.mem_cons_of_mem _ he')
    rwa [List.append_assoc, List.singleton_append] at hrest

end Built.IsFaultless

theorem foldl_add_of_fault {b : Built} {fault : Fault} (h : b.fault = some fault)
    (entries : List Value) : entries.foldl Built.add b = b := by
  induction entries with
  | nil => rfl
  | cons e entries ih =>
    have hstep : b.add e = b := by simp only [Built.add, h]
    rw [List.foldl_cons, hstep, ih]

section

variable {context : Context} (hd : context.dictionary = .standard)

include hd

theorem build_isFaultless {entries : List Value}
    (h : ∀ e ∈ entries, (alone context e).fault = none) :
    (build context entries).IsFaultless context entries := by
  have hstart : ({ context } : Built).IsFaultless context [] := ⟨rfl, ⟨context.exports, rfl⟩, rfl⟩
  have hall := hstart.foldl_add hd h
  rwa [List.nil_append] at hall

theorem build_fault {before after : List Value} {e : Value} {fault : Fault}
    (hbefore : ∀ x ∈ before, (alone context x).fault = none)
    (he : (alone context e).fault = some fault) :
    (build context (before ++ e :: after)).fault = some (fault.atIndex before.length) := by
  have hstart := build_isFaultless hd hbefore
  obtain ⟨exports, hcontext⟩ := hstart.context_eq
  obtain ⟨hfault, -, -⟩ := add_alone hd hstart.fault hcontext e
  rw [he, Option.map_some, hstart.length] at hfault
  rw [build, List.foldl_append, List.foldl_cons]
  exact (congrArg Built.fault (foldl_add_of_fault hfault after)).trans hfault

theorem perm_build {entries others : List Value} (hperm : others.Perm entries)
    (h : ∀ e ∈ entries, (alone context e).fault = none) :
    (build context others).doclets.Perm (build context entries).doclets := by
  have hothers : ∀ e ∈ others, (alone context e).fault = none :=
    fun e he => h e (hperm.mem_iff.mp he)
  rw [(build_isFaultless hd h).doclets_eq, (build_isFaultless hd hothers).doclets_eq]
  exact (hperm.map _).flatten

end

theorem exists_first_failing {context : Context} {entries : List Value}
    (h : ∃ e ∈ entries, (alone context e).fault ≠ none) :
    ∃ before e after fault, entries = before ++ e :: after ∧
      (∀ x ∈ before, (alone context x).fault = none) ∧
      (alone context e).fault = some fault := by
  obtain ⟨x, hx, hne⟩ := h
  cases hfound : entries.find? fun e => (alone context e).fault.isSome with
  | none =>
    have hnone := List.find?_eq_none.mp hfound x hx
    simp [Option.isSome_iff_ne_none, hne] at hnone
  | some e =>
    obtain ⟨hsome, before, after, hsplit, hbefore⟩ := List.find?_eq_some_iff_append.mp hfound
    obtain ⟨fault, hfault⟩ := Option.isSome_iff_exists.mp hsome
    refine ⟨before, e, after, fault, hsplit, ?_, hfault⟩
    intro y hy
    simpa using hbefore y hy

end Batch

namespace Command

/-- A run that fails writes nothing. -/
theorem fail_ok {correlation : String} {threshold : Option Nat} {notes : List Journal.Record}
    {fault : Fault} {outcome : Outcome} (h : fail correlation threshold notes fault = .ok outcome) :
    outcome.status = 1 ∧ outcome.printed = "" ∧ outcome.saved = none := by
  unfold fail at h
  split at h
  · cases h
  · cases h
    exact ⟨rfl, rfl, rfl⟩

theorem fail_error {correlation : String} {threshold : Option Nat} {notes : List Journal.Record}
    {fault other : Fault} (h : fail correlation threshold notes fault = .error other) :
    other = fault := by
  unfold fail at h
  split at h
  · cases h
    rfl
  · cases h

theorem run_of_fault {around : Surroundings} {a : Arguments} {settings : Settings}
    {entries : List Value} {fault : Fault}
    (hsettings : Settings.load (a.config.map fun p => (p, around.read p)) [] around.environment =
      .ok settings)
    (hentries : Batch.entries a.input (around.read a.input) = .ok entries)
    (hfault : (Batch.build { settings } entries).fault = some fault) :
    (∀ outcome, run around a = .ok outcome →
      outcome.status = 1 ∧ outcome.printed = "" ∧ outcome.saved = none) ∧
    ∀ other, run around a = .error other →
      other = fault ∨ ∃ level, other = .unknownLevel level := by
  simp only [run, hsettings, hentries, hfault]
  split
  next =>
    refine ⟨fun outcome h => ?_, fun other h => ?_⟩
    · cases h
    · cases h
      exact .inr ⟨_, rfl⟩
  next => exact ⟨fun outcome => fail_ok, fun other h => .inl (fail_error h)⟩

end Command

namespace Batch

/-- Each entry of a batch leads to the doclet that it leads to by itself, wherever it
stands. When an entry fails by itself the batch fails as the first such entry does, and
the command writes nothing. -/
theorem build_independent (settings : Settings) (entries : List Value) :
    let built := build { settings } entries
    ((∀ e ∈ entries, (alone { settings } e).fault = none) →
      built.fault = none ∧ built.doclets.length = entries.length ∧
      (∀ (k : Nat) (e : Value), entries[k]? = some e →
        ∃ d, (alone { settings } e).doclets = [d] ∧ built.doclets[k]? = some d) ∧
      ∀ others, others.Perm entries → (build { settings } others).doclets.Perm built.doclets) ∧
    ((∃ e ∈ entries, (alone { settings } e).fault ≠ none) →
      ∃ before e after fault, entries = before ++ e :: after ∧
        (∀ x ∈ before, (alone { settings } x).fault = none) ∧
        (alone { settings } e).fault = some fault ∧
        built.fault = some (fault.atIndex before.length) ∧
        ∀ (around : Command.Surroundings) (a : Command.Arguments),
          Settings.load (a.config.map fun p => (p, around.read p)) [] around.environment =
            .ok settings →
          Batch.entries a.input (around.read a.input) = .ok entries →
          (∀ outcome, Command.run around a = .ok outcome →
            outcome.status = 1 ∧ outcome.printed = "" ∧ outcome.saved = none) ∧
          ∀ other, Command.run around a = .error other →
            other = fault.atIndex before.length ∨ ∃ level, other = .unknownLevel level) := by
  intro built
  have hd : ({ settings } : Context).dictionary = .standard := rfl
  constructor
  · intro halone
    have hbuilt : built.IsFaultless { settings } entries := build_isFaultless hd halone
    exact ⟨hbuilt.fault, hbuilt.length, fun k e => hbuilt.doclet_at,
      fun others hperm => perm_build hd hperm halone⟩
  · intro hfails
    obtain ⟨before, e, after, fault, hsplit, hbefore, he⟩ := exists_first_failing hfails
    have hfault : built.fault = some (fault.atIndex before.length) := by
      subst hsplit
      exact build_fault hd hbefore he
    refine ⟨before, e, after, fault, hsplit, hbefore, he, hfault, ?_⟩
    exact fun around a hsettings hentries => Command.run_of_fault hsettings hentries hfault

theorem build_independent_stopped :
    let good : Value := .object []
    let bad : Value := .object [("comment", .bool true)]
    (build {} [good, good]).doclets.length = 2 ∧
      (build {} [good, bad]).fault = some (.commentNotText 1) := by
  intro good bad
  let context : Context := {}
  have hstops := Doclet.create_stopsIff (rfl : context.dictionary = _) none {} none 0 none
  have hwork : (Doclet.createAlone context none {}).fault = none := by
    apply hstops.fault_eq_none_iff.mpr
    rintro ⟨w, hw, -⟩
    cases hw
  have hcomment : comment? good 0 = .ok none := rfl
  have hsource : source good = .ok {} := rfl
  have hgood : (alone context good).fault = none := (fault_alone hcomment hsource).trans hwork
  have hbad : (alone context bad).fault = some (.commentNotText 0) := rfl
  constructor
  · have hall : ∀ e ∈ [good, good], (alone context e).fault = none := by
      intro e he
      rcases List.mem_cons.mp he with rfl | he
      · exact hgood
      · obtain rfl := List.mem_singleton.mp he
        exact hgood
    exact ((build_independent {} [good, good]).1 hall).2.1
  · have hfails : ∃ e ∈ [good, bad], (alone context e).fault ≠ none :=
      ⟨bad, by simp, by simp [hbad]⟩
    obtain ⟨before, e, after, fault, hsplit, hbefore, he, hfault, -⟩ :=
      (build_independent {} [good, bad]).2 hfails
    rcases before with _ | ⟨x, _ | ⟨y, before⟩⟩
    · obtain ⟨rfl, -⟩ := List.cons.inj hsplit
      rw [hgood] at he
      cases he
    · obtain ⟨rfl, hrest⟩ := List.cons.inj hsplit
      obtain ⟨rfl, -⟩ := List.cons.inj hrest
      rw [hbad] at he
      cases he
      exact hfault
    · simp at hsplit

end Batch

end DocComment
