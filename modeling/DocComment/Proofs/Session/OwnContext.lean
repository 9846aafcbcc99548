import DocComment.Proofs.Session.Steps

/-! A doclet that was built stays with the context it was built in. Whichever contexts
are open when something is done to it, its own one is used, and no other one is
touched. -/

namespace DocComment.Session

variable {own n : Nat} {s t u : Session} {d : Doclet}

/-- Two sessions that differ at most in the contexts that are open, and in contexts
other than one. -/
structure SameWork (own : Nat) (s t : Session) : Prop where
  doclets : t.doclets = s.doclets
  clock : t.clock = s.clock
  context : t.contexts[own]? = s.contexts[own]?

theorem SameWork.trans (h : SameWork own s t) (h' : SameWork own t u) : SameWork own s u :=
  ⟨h'.doclets.trans h.doclets, h'.clock.trans h.clock, h'.context.trans h.context⟩

theorem SameWork.tick (h : SameWork own s t) : SameWork own s.tick t.tick :=
  ⟨h.doclets, congrArg (· + 1) h.clock, h.context⟩

/-- Opening and leaving contexts changes none that there is. -/
theorem Switch.sameWork (h : Switch s t) (hown : own < s.contexts.length) :
    SameWork own s t := by
  cases h with
  | enter id hid => exact ⟨rfl, rfl, rfl⟩
  | push c => exact ⟨rfl, rfl, List.getElem?_append_left hown⟩
  | pop => exact ⟨rfl, rfl, rfl⟩
  | current =>
    obtain ⟨base, more, heq, -⟩ := s.current_eq
    rw [heq]
    exact ⟨rfl, rfl, List.getElem?_append_left hown⟩

theorem Switches.sameWork (h : Switches s t) (hown : own < s.contexts.length) :
    SameWork own s t := by
  have hrun : SameWork own s t ∧ own < t.contexts.length := by
    induction h with
    | refl => exact ⟨⟨rfl, rfl, rfl⟩, hown⟩
    | tail _ hswitch ih =>
      exact ⟨ih.1.trans (hswitch.sameWork ih.2), Nat.lt_of_lt_of_le ih.2 hswitch.keeps.contexts⟩
  exact hrun.1

/-! Acting on a doclet in its own context. -/

theorem SameWork.workOn (h : SameWork own s t) (a : Action) (d : Doclet) :
    t.workOn own a d = s.workOn own a d := by
  have hcontext : t.context own = s.context own := by
    rw [Session.context, h.context, Session.context]
  have htwin : t.twinOf d = s.twinOf d := by
    rw [twinOf, h.doclets, twinOf]
  rw [Session.workOn, Session.workOn, hcontext, h.clock, htwin]

theorem SameWork.settle (h : SameWork own s t) (n : Nat) (work : Progress) :
    (t.settle own n work).doclets = (s.settle own n work).doclets := by
  change (t.doclets.set n work.doclet).map (shared work.doclet) =
    (s.doclets.set n work.doclet).map (shared work.doclet)
  rw [h.doclets]

/-- Of all contexts only one changes, by what the work gives out. -/
theorem contexts_settle_self {c : Context} (h : s.contexts[own]? = some c) (n : Nat)
    (work : Progress) :
    (s.settle own n work).contexts[own]? = some (c.registerAll work.exports) := by
  have hlt : own < s.contexts.length := (List.getElem?_eq_some_iff.mp h).1
  have hc : s.context own = c := by
    rw [Session.context, h, Option.getD_some]
  change (s.contexts.set own ((s.context own).registerAll work.exports))[own]? = _
  rw [List.getElem?_set_self hlt, hc]

theorem contexts_settle_of_ne {id : Nat} (h : id ≠ own) (s : Session) (n : Nat)
    (work : Progress) : (s.settle own n work).contexts[id]? = s.contexts[id]? :=
  List.getElem?_set_ne h.symm

/-- Acting on a doclet of a context comes to the same in two sessions, and reaches
no other context. -/
structure ActsAlike (own n : Nat) (a : Action) (s t : Session) : Prop where
  answer : (t.act n a).2 = (s.act n a).2
  doclets : (t.act n a).1.doclets = (s.act n a).1.doclets
  context : ∃ c exports, s.contexts[own]? = some c ∧ t.contexts[own]? = some c ∧
    (s.act n a).1.contexts[own]? = some (c.registerAll exports) ∧
    (t.act n a).1.contexts[own]? = some (c.registerAll exports)
  others : ∀ id, id ≠ own → (s.act n a).1.contexts[id]? = s.contexts[id]? ∧
    (t.act n a).1.contexts[id]? = t.contexts[id]?

theorem SameWork.actsAlike (hs : SameWork own u s) (ht : SameWork own u t)
    (hwith : u.IsWith n own) (hown : own < u.contexts.length) (a : Action) :
    ActsAlike own n a s t := by
  obtain ⟨d, hd, hcontext⟩ := hwith
  have hfor (v : Session) : v.tick.contextFor d = (v.tick, own) := by
    rw [contextFor, hcontext]
  have hact : s.act n a = _ := act_eq (by rw [hs.doclets, hd]) (hfor s) a
  have hact' : t.act n a = _ := act_eq (by rw [ht.doclets, hd]) (hfor t) a
  -- the work reads the own context, the clock and the twin, and both sessions have them from `u`
  rw [hs.tick.workOn a d] at hact
  rw [ht.tick.workOn a d] at hact'
  have hc : u.contexts[own]? = some u.contexts[own] := List.getElem?_eq_getElem hown
  have hcs := hs.context.trans hc
  have hct := ht.context.trans hc
  constructor
  · rw [hact, hact']
  · rw [hact, hact']
    exact (ht.tick.settle n _).trans (hs.tick.settle n _).symm
  · rw [hact, hact']
    exact ⟨_, _, hcs, hct, contexts_settle_self hcs n _, contexts_settle_self hct n _⟩
  · intro id hid
    rw [hact, hact']
    exact ⟨contexts_settle_of_ne hid s.tick n _, contexts_settle_of_ne hid t.tick n _⟩

/-- A doclet that is built is with the context it is built in. -/
theorem create_isWith {slot : String} {comment : Option String} {source : Source}
    {twin : Option Nat} (hbuilt : (s.create slot comment source twin).2 = .ok d) (hs : s.Sound) :
    (s.create slot comment source twin).1.IsWith s.doclets.length s.current.2 ∧
      s.current.2 < (s.create slot comment source twin).1.contexts.length := by
  have hcases := s.create_cases slot comment source twin
  have hcontext := s.site.buildIn_context s.current.2 comment source twin
  have hlt : s.current.2 < s.site.contexts.length := hs.current_lt
  generalize s.site.buildIn s.current.2 comment source twin = work at hcases hcontext
  rcases hcases with ⟨fault, -, hcreate⟩ | ⟨-, hcreate⟩
  · rw [hcreate] at hbuilt
    cases hbuilt
  · rw [hcreate]
    refine ⟨⟨work.doclet, ?_, hcontext⟩, ?_⟩
    · simp [doclets_created]
    · change s.current.2 < (s.site.contexts.set s.current.2 _).length
      simpa using hlt

/-- Once a doclet is built, and whatever has happened since, it does not count which
contexts are opened and left before something is done to it. The answer, all doclets
and the change to the context it was built in are the same, and other contexts stay
as they are. -/
theorem act_in_own_context {slot : String} {comment : Option String} {source : Source}
    {twin : Option Nat} {t₁ t₂ : Session} (hs : s.Reachable)
    (hbuilt : (s.create slot comment source twin).2 = .ok d)
    (hsteps : Steps (s.create slot comment source twin).1 u)
    (h₁ : Switches u t₁) (h₂ : Switches u t₂) (a : Action) :
    u.IsWith s.doclets.length s.current.2 ∧
      ActsAlike s.current.2 s.doclets.length a t₁ t₂ := by
  obtain ⟨hwith, hlt⟩ := create_isWith hbuilt hs.sound
  have hkeeps := Steps.keeps hsteps
  have hwith := hkeeps.isWith _ _ hwith
  have hlt : s.current.2 < u.contexts.length := Nat.lt_of_lt_of_le hlt hkeeps.contexts
  exact ⟨hwith, (Switches.sameWork h₁ hlt).actsAlike (Switches.sameWork h₂ hlt) hwith hlt a⟩

/-- A module gets the mark of its kind also where no tags are known. -/
theorem act_in_own_context_module :
    let built := (({} : Session).create "m" (some "/** @module m */") {} none).1
    let swapped := built.push { dictionary := {} }
    ActsAlike 0 0 (.setLongname "n") built swapped ∧
      (swapped.act 0 (.setLongname "n")).2.toOption.bind (·.longname) = some "module:n" := by
  have hrun : (({} : Session).create "m" (some "/** @module m */") {} none).2.isOk ∧
      (((({} : Session).create "m" (some "/** @module m */") {} none).1.push
        { dictionary := {} }).act 0 (.setLongname "n")).2.toOption.bind (·.longname) =
          some "module:n" := by
    decide +kernel
  obtain ⟨hok, hlong⟩ := hrun
  cases hbuilt : (({} : Session).create "m" (some "/** @module m */") {} none).2 with
  | error fault =>
    rw [hbuilt] at hok
    cases hok
  | ok d =>
    exact ⟨(act_in_own_context .refl hbuilt .refl .refl
      (.single (.push _ { dictionary := {} })) _).2, hlong⟩

end DocComment.Session
