import DocComment.Proofs.Build.Place
import DocComment.Session
import Mathlib.Logic.Relation

/-! What can happen in a session, one step after the other. Contexts are opened and
left, tags are defined, names registered, doclets made and worked on. No step takes a
context away, moves a doclet to another context, or uses the number of an operation
that is still to come. -/

namespace DocComment.Session

/-- Opening or leaving a context, or asking for the current one. -/
inductive Switch : Session → Session → Prop
  | enter (s : Session) (id : Nat) (h : id < s.contexts.length) : Switch s (s.enter id)
  | push (s : Session) (c : Context) : Switch s (s.push c)
  | pop (s : Session) : Switch s s.pop
  | current (s : Session) : Switch s s.current.1

inductive Step : Session → Session → Prop
  | switch {s t : Session} (h : Switch s t) : Step s t
  | define (s : Session) (t : TagDefinition) (replace : Bool) : Step s (s.define t replace).1
  | register (s : Session) (e : Export) : Step s (s.register e)
  | create (s : Session) (slot : String) (comment : Option String) (source : Source)
      (twin : Option Nat) : Step s (s.create slot comment source twin).1
  | insert (s : Session) (slot : String) (d : Doclet) : Step s (s.insert slot d)
  | combine (s : Session) (slot : String) (first second : Doclet) :
      Step s (s.combine slot first second).1
  | act (s : Session) (n : Nat) (a : Action) : Step s (s.act n a).1

abbrev Switches := Relation.ReflTransGen Switch

abbrev Steps := Relation.ReflTransGen Step

/-- A session that can come about. -/
def Reachable (s : Session) : Prop := Steps {} s

/-- Numbers of contexts are those of contexts there are, and code records have numbers
of operations there have been. -/
structure Sound (s : Session) : Prop where
  opened : ∀ id ∈ s.opened, id < s.contexts.length
  base : ∀ id ∈ s.base, id < s.contexts.length
  code : ∀ d ∈ s.doclets, d.links.code ≤ s.clock

/-- The doclet of that number is with that context. -/
def IsWith (s : Session) (n id : Nat) : Prop :=
  ∃ d, s.doclets[n]? = some d ∧ d.links.context = some id

/-- What holds of every step: contexts stay, doclets stay with theirs, and the numbers
stay in order. -/
structure Keeps (s t : Session) : Prop where
  contexts : s.contexts.length ≤ t.contexts.length
  isWith : ∀ n id, s.IsWith n id → t.IsWith n id
  sound : s.Sound → t.Sound

theorem Keeps.refl (s : Session) : s.Keeps s := ⟨Nat.le_refl _, fun _ _ h => h, fun h => h⟩

theorem Keeps.trans {s t u : Session} (h : s.Keeps t) (h' : t.Keeps u) : s.Keeps u :=
  ⟨Nat.le_trans h.contexts h'.contexts, fun n id hw => h'.isWith n id (h.isWith n id hw),
    fun hs => h'.sound (h.sound hs)⟩

variable {s t : Session}

theorem IsWith.of_doclets {n id : Nat} (h : s.IsWith n id) (heq : t.doclets = s.doclets) :
    t.IsWith n id := by
  unfold IsWith
  rw [heq]
  exact h

/-! The current context. -/

theorem current_eq (s : Session) :
    ∃ base more, s.current.1 = { s with contexts := s.contexts ++ more, base } ∧
      (Sound s → Sound s.current.1 ∧ s.current.2 < s.current.1.contexts.length) := by
  unfold current
  split
  next id rest hopened =>
    have hid : id ∈ s.opened := by simp [hopened]
    exact ⟨s.base, [], by simp, fun h => ⟨h, h.opened id hid⟩⟩
  next id hopened hbase =>
    have hid : id ∈ s.base := by simp [hbase]
    exact ⟨s.base, [], by simp, fun h => ⟨h, h.base id hid⟩⟩
  next hopened hbase =>
    refine ⟨some s.contexts.length, [{}], rfl, fun h => ⟨⟨?_, ?_, h.code⟩, by simp⟩⟩
    · simp [hopened]
    · simp

theorem clock_current (s : Session) : s.current.1.clock = s.clock := by
  obtain ⟨base, more, heq, -⟩ := s.current_eq
  rw [heq]

theorem doclets_current (s : Session) : s.current.1.doclets = s.doclets := by
  obtain ⟨base, more, heq, -⟩ := s.current_eq
  rw [heq]

theorem Sound.current_lt (h : s.Sound) : s.current.2 < s.current.1.contexts.length := by
  obtain ⟨base, more, -, hsound⟩ := s.current_eq
  exact (hsound h).2

/-! What the parts of a step keep. -/

theorem current_keeps (s : Session) : s.Keeps s.current.1 := by
  obtain ⟨base, more, heq, hsound⟩ := s.current_eq
  refine ⟨?_, fun n id h => h.of_doclets (doclets_current s), fun h => (hsound h).1⟩
  simp [heq]

theorem tick_keeps (s : Session) : s.Keeps s.tick :=
  ⟨Nat.le_refl _, fun _ _ h => h,
    fun h => ⟨h.opened, h.base, fun d hd => Nat.le_succ_of_le (h.code d hd)⟩⟩

theorem setContext_keeps (s : Session) (id : Nat) (c : Context) :
    s.Keeps (s.setContext id c) := by
  refine ⟨by simp [setContext], fun _ _ h => h, fun h => ⟨?_, ?_, h.code⟩⟩
  · simpa [setContext] using h.opened
  · simpa [setContext] using h.base

/-- The doclet as it is after a change of the code record of another one. -/
def shared (d e : Doclet) : Doclet :=
  if e.links.code = d.links.code then
    { e with
      place := { e.place with code := d.place.code }
      links := { e.links with node := d.links.node } }
  else e

theorem doclets_shareCode (s : Session) (d : Doclet) :
    (s.shareCode d).doclets = s.doclets.map (shared d) := rfl

theorem links_shared (d e : Doclet) :
    (shared d e).links.code = e.links.code ∧ (shared d e).links.context = e.links.context := by
  unfold shared
  split <;> exact ⟨rfl, rfl⟩

theorem shareCode_keeps (s : Session) (d : Doclet) : s.Keeps (s.shareCode d) := by
  refine ⟨Nat.le_refl _, ?_, fun h => ⟨h.opened, h.base, ?_⟩⟩
  · rintro n id ⟨e, he, hcontext⟩
    refine ⟨shared d e, ?_, (links_shared d e).2.trans hcontext⟩
    rw [doclets_shareCode, List.getElem?_map, he, Option.map_some]
  · intro e he
    rw [doclets_shareCode, List.mem_map] at he
    obtain ⟨e, he, rfl⟩ := he
    rw [(links_shared d e).1]
    exact h.code e he

theorem Keeps.add (h : s.Keeps t) (slot : String) {d : Doclet}
    (hd : s.Sound → d.links.code ≤ t.clock) : s.Keeps (t.add slot d) := by
  refine ⟨h.contexts, ?_, fun hs => ?_⟩
  · intro n id hw
    obtain ⟨e, he, hcontext⟩ := h.isWith n id hw
    have hlt : n < t.doclets.length := (List.getElem?_eq_some_iff.mp he).1
    exact ⟨e, by simpa [Session.add, List.getElem?_append_left hlt] using he, hcontext⟩
  · have ht := h.sound hs
    refine ⟨ht.opened, ht.base, fun e he => ?_⟩
    have he : e ∈ t.doclets ∨ e = d := by simpa [Session.add] using he
    rcases he with he | rfl
    · exact ht.code e he
    · exact hd hs

theorem set_keeps {n : Nat} {d e : Doclet} (hn : s.doclets[n]? = some d)
    (hcontext : e.links.context = d.links.context) (hcode : s.Sound → e.links.code ≤ s.clock) :
    s.Keeps { s with doclets := s.doclets.set n e } := by
  refine ⟨Nat.le_refl _, ?_, fun h => ⟨h.opened, h.base, ?_⟩⟩
  · rintro m id ⟨f, hf, hid⟩
    have hlt : n < s.doclets.length := (List.getElem?_eq_some_iff.mp hn).1
    by_cases hm : n = m
    · subst hm
      obtain rfl : d = f := Option.some.inj (hn.symm.trans hf)
      exact ⟨e, by simp [List.getElem?_set_self hlt], hcontext.trans hid⟩
    · exact ⟨f, by simpa [List.getElem?_set_ne hm] using hf, hid⟩
  · intro f hf
    rcases List.mem_or_eq_of_mem_set hf with hf | rfl
    · exact h.code f hf
    · exact hcode h

/-! Whatever is done to a doclet, it stays with its context. -/

theorem setPlace_staysLinked (stamp : Nat) (source : Source) (twin : Option Doclet) (d : Doclet) :
    d.StaysLinked twin (d.setPlace stamp source) := by
  unfold Doclet.setPlace
  dsimp only
  split <;> exact ⟨rfl, .inl rfl⟩

theorem run_staysLinked (a : Action) (c : Context) (stamp : Nat) (twin : Option Doclet)
    (d : Doclet) : d.StaysLinked twin (a.run c stamp twin d).doclet := by
  cases a with
  | addTag title body =>
    exact (Doclet.applyTag_samePlace c.dictionary title body d).staysLinked twin
  | setPlace source => exact setPlace_staysLinked stamp source twin d
  | setScope scope =>
    simp only [Action.run, Doclet.trySetScope]
    split <;> exact ⟨rfl, .inl rfl⟩
  | setKind kind =>
    simp only [Action.run, Doclet.tryKind, Doclet.setKind]
    split <;> exact ⟨rfl, .inl rfl⟩
  | setAccess level =>
    simp only [Action.run, Doclet.setAccess_eq]
    exact ⟨rfl, .inl rfl⟩
  | resolve => exact (Doclet.tryResolve_samePlace c.dictionary d).staysLinked twin
  | postProcess => exact Doclet.postProcess_staysLinked c twin d
  | functionBackfill => exact (Doclet.functionBackfill_samePlace d).staysLinked twin
  | reconcileOverloads =>
    exact (Doclet.reconcileOverloads_samePlace d c.settings).staysLinked twin
  | unrollStructure => exact (Doclet.unrollStructure_samePlace c d).staysLinked twin
  | classBackfill => exact (Doclet.classBackfill_samePlace d).staysLinked twin
  | classMemberBackfill =>
    exact (Doclet.classMemberBackfill_samePlace d c.dictionary).staysLinked twin
  | enrich => exact (Doclet.enrich_samePlace c d).staysLinked twin
  | borrow | setMemberof | setLongname | mix | augment => exact ⟨rfl, .inl rfl⟩

theorem contextFor_cases (s : Session) (d : Doclet) :
    (∃ id, d.links.context = some id ∧ s.contextFor d = (s, id)) ∨
      s.contextFor d = s.current := by
  unfold contextFor
  split
  next id hid => exact .inl ⟨id, hid, rfl⟩
  next => exact .inr rfl

def workOn (s : Session) (id : Nat) (a : Action) (d : Doclet) : Progress :=
  a.run (s.context id) s.clock (s.twinOf d) d

/-- The session with the outcome of work on a doclet. -/
def settle (s : Session) (id n : Nat) (work : Progress) : Session :=
  ({ s.registerExports id work.exports with
      doclets := s.doclets.set n work.doclet } : Session).shareCode work.doclet

def answer (work : Progress) : Except Fault Doclet :=
  match work.fault with
  | some fault => .error fault
  | none => .ok work.doclet

/-- Acting on a doclet, once its context is settled. -/
theorem act_eq {n id : Nat} {d : Doclet} (hd : s.doclets[n]? = some d)
    (hfor : s.tick.contextFor d = (t, id)) (a : Action) :
    s.act n a = (t.settle id n (t.workOn id a d), answer (t.workOn id a d)) := by
  unfold act
  rw [hd]
  dsimp only
  rw [hfor]
  rfl

theorem settle_keeps {n : Nat} {d : Doclet} (hd : s.doclets[n]? = some d) (id : Nat) (a : Action) :
    s.Keeps (s.settle id n (s.workOn id a d)) := by
  have hlinked : d.StaysLinked (s.twinOf d) (s.workOn id a d).doclet :=
    run_staysLinked a (s.context id) s.clock (s.twinOf d) d
  generalize s.workOn id a d = work at hlinked
  -- the record is the doclet's own or its twin's, and both are old
  have hcode (h : (s.registerExports id work.exports).Sound) :
      work.doclet.links.code ≤ s.clock := by
    rcases hlinked.code with hcode | ⟨t, ht, hcode⟩
    · rw [hcode]
      exact h.code d (List.mem_of_getElem? hd)
    · rw [hcode]
      obtain ⟨m, -, hm⟩ := Option.bind_eq_some_iff.mp ht
      exact h.code t (List.mem_of_getElem? hm)
  have hregister := setContext_keeps s id ((s.context id).registerAll work.exports)
  exact (hregister.trans (set_keeps hd hlinked.context hcode)).trans
    (shareCode_keeps _ work.doclet)

theorem act_keeps (s : Session) (n : Nat) (a : Action) : s.Keeps (s.act n a).1 := by
  cases hd : s.doclets[n]? with
  | none =>
    have hact : (s.act n a).1 = s := by
      unfold act
      rw [hd]
    rw [hact]
    exact .refl s
  | some d =>
    rcases s.tick.contextFor_cases d with ⟨id, -, hfor⟩ | hfor
    · rw [act_eq hd hfor]
      exact (tick_keeps s).trans (settle_keeps (s := s.tick) hd id a)
    · have hd' : s.tick.current.1.doclets[n]? = some d := by rw [doclets_current]; exact hd
      rw [act_eq hd hfor]
      exact ((tick_keeps s).trans (current_keeps s.tick)).trans (settle_keeps hd' _ a)

/-! Building a doclet in the current context. -/

theorem current_tick (s : Session) : s.tick.current = (s.current.1.tick, s.current.2) := by
  unfold current tick
  dsimp only
  split <;> simp_all

/-- Building in a context that there is already. -/
def buildIn (s : Session) (id : Nat) (comment : Option String) (source : Source)
    (twin : Option Nat) : Progress :=
  Doclet.create (s.context id) comment source (some id) s.clock
    (twin.bind fun n => (s.doclets[n]?).map fun d => (n, d))

/-- The session in which a doclet is built. -/
def site (s : Session) : Session := s.current.1.tick

theorem create_cases (s : Session) (slot : String) (comment : Option String) (source : Source)
    (twin : Option Nat) :
    let work := s.site.buildIn s.current.2 comment source twin
    let registered := s.site.registerExports s.current.2 work.exports
    (∃ fault, work.fault = some fault ∧
      s.create slot comment source twin = (registered, .error fault)) ∨
    (work.fault = none ∧ s.create slot comment source twin =
      ((registered.shareCode work.doclet).add slot work.doclet, .ok work.doclet)) := by
  unfold create buildIn site
  dsimp only
  rw [current_tick]
  dsimp only
  generalize Doclet.create (s.current.1.tick.context s.current.2) comment source
    (some s.current.2) s.current.1.tick.clock _ = work
  cases work.fault with
  | some fault => exact .inl ⟨fault, rfl, rfl⟩
  | none => exact .inr ⟨rfl, rfl⟩

theorem doclets_site (s : Session) : s.site.doclets = s.doclets := doclets_current s

theorem doclets_created (s : Session) (id : Nat) (exports : List Export) (slot : String)
    (d : Doclet) :
    (((s.site.registerExports id exports).shareCode d).add slot d).doclets =
      s.doclets.map (shared d) ++ [d] := by
  rw [← doclets_site s]
  rfl

theorem buildIn_context (s : Session) (id : Nat) (comment : Option String) (source : Source)
    (twin : Option Nat) : (s.buildIn id comment source twin).doclet.links.context = some id := by
  unfold buildIn
  exact (Doclet.create_staysLinked (s.context id) comment source (some id) s.clock _).1

theorem Sound.buildIn_code (h : s.Sound) (id : Nat) (comment : Option String) (source : Source)
    (twin : Option Nat) : (s.buildIn id comment source twin).doclet.links.code ≤ s.clock := by
  obtain ⟨-, hcode⟩ := Doclet.create_staysLinked (s.context id) comment source (some id) s.clock
    (twin.bind fun n => (s.doclets[n]?).map fun d => (n, d))
  unfold buildIn
  rcases hcode with hcode | ⟨t, ht, hcode⟩
  · exact Nat.le_of_eq hcode
  · obtain ⟨⟨n, d⟩, hn, rfl⟩ := Option.map_eq_some_iff.mp ht
    obtain ⟨m, -, hm⟩ := Option.bind_eq_some_iff.mp hn
    obtain ⟨e, he, heq⟩ := Option.map_eq_some_iff.mp hm
    obtain ⟨rfl, rfl⟩ := Prod.mk.inj heq
    rw [hcode]
    exact h.code e (List.mem_of_getElem? he)

theorem create_keeps (s : Session) (slot : String) (comment : Option String) (source : Source)
    (twin : Option Nat) : s.Keeps (s.create slot comment source twin).1 := by
  have hcases := s.create_cases slot comment source twin
  have hsite : s.Keeps s.site := (current_keeps s).trans (tick_keeps s.current.1)
  have hcode := fun h : s.Sound => (hsite.sound h).buildIn_code s.current.2 comment source twin
  generalize s.site.buildIn s.current.2 comment source twin = work at hcases hcode
  have hregister := hsite.trans (setContext_keeps s.site s.current.2
    ((s.site.context s.current.2).registerAll work.exports))
  rcases hcases with ⟨fault, -, hcreate⟩ | ⟨-, hcreate⟩
  · rw [hcreate]
    exact hregister
  · rw [hcreate]
    exact (hregister.trans (shareCode_keeps _ work.doclet)).add slot hcode

theorem Switch.keeps (h : Switch s t) : s.Keeps t := by
  cases h with
  | enter id hid =>
    refine ⟨Nat.le_refl _, fun _ _ h => h, fun h => ⟨?_, h.base, h.code⟩⟩
    intro other hother
    rcases List.mem_cons.mp hother with rfl | hother
    · exact hid
    · exact h.opened other hother
  | push c =>
    have hlen : (s.push c).contexts.length = s.contexts.length + 1 := by
      simp [Session.push, Session.enter]
    refine ⟨by omega, fun _ _ h => h, fun h => ⟨?_, ?_, h.code⟩⟩
    · intro other hother
      rw [hlen]
      rcases List.mem_cons.mp hother with rfl | hother
      · omega
      · have hlt := h.opened other hother
        omega
    · intro other hother
      have hlt := h.base other hother
      omega
  | pop =>
    refine ⟨Nat.le_refl _, fun _ _ h => h, fun h => ⟨?_, h.base, h.code⟩⟩
    exact fun id hid => h.opened id (List.mem_of_mem_tail hid)
  | current => exact current_keeps s

/-- What one step keeps. -/
theorem Step.keeps (h : Step s t) : s.Keeps t := by
  cases h with
  | switch h => exact h.keeps
  | define t replace =>
    unfold Session.define
    dsimp only
    split
    · exact current_keeps s
    · exact (current_keeps s).trans (setContext_keeps _ _ _)
  | register e => exact (current_keeps s).trans (setContext_keeps _ _ _)
  | create slot comment source twin => exact create_keeps s slot comment source twin
  | insert slot d => exact (tick_keeps s).add slot fun _ => Nat.le_refl _
  | combine slot first second => exact (tick_keeps s).add slot fun _ => Nat.le_refl _
  | act n a => exact act_keeps s n a

/-- What a run of steps keeps. -/
theorem Steps.keeps (h : Steps s t) : s.Keeps t := by
  induction h with
  | refl => exact .refl s
  | tail _ hstep ih => exact ih.trans hstep.keeps

theorem Reachable.sound (h : s.Reachable) : s.Sound :=
  (Steps.keeps h).sound ⟨by simp, by simp, by simp⟩

end DocComment.Session
