import DocComment.Doclet.Encode
import DocComment.Proofs.Session.Steps

/-! What becomes of a doclet when its twin is built. The two share one code record if
they describe the same symbol, and a context that lets go of syntax trees then takes
the tree from both. -/

namespace DocComment

/-- A doclet whose code has no syntax node and no source record. -/
def Doclet.withoutTree (d : Doclet) : Doclet :=
  { d with place := { d.place with code := { d.place.code with node := none, source := none } } }

theorem Doclet.encode_withoutTree (d : Doclet) : d.withoutTree.encode = d.encode := rfl

theorem Doclet.withoutTree_eq_self_iff (d : Doclet) :
    d.withoutTree = d ↔ d.place.code.node = none ∧ d.place.code.source = none := by
  constructor
  · intro h
    rw [← h]
    exact ⟨rfl, rfl⟩
  · rintro ⟨hnode, hsource⟩
    unfold withoutTree
    rw [← hnode, ← hsource]

namespace Session

variable {n : Nat} {s : Session} {t : Doclet}

/-- The doclet that is being built, as it is when it meets its twin. -/
def meeting (s : Session) (id : Nat) (comment : Option String) (source : Source) (n : Nat) :
    Doclet :=
  ((Doclet.tagged (s.context id) comment source (some id) s.clock (some n)).doclet.derive
    (s.context id).dictionary none).doclet

/-- Whether building a doclet takes the syntax tree from its twin. It comes to its end,
the two describe the same symbol, and trees are not kept. -/
def takesTree (s : Session) (comment : Option String) (source : Source) (n : Nat) (t : Doclet) :
    Bool :=
  (s.site.buildIn s.current.2 comment source (some n)).fault.isNone &&
    (s.site.meeting s.current.2 comment source n).matchesTwin t &&
    (s.site.context s.current.2).settings.releaseNodes

theorem buildIn_twin (ht : s.doclets[n]? = some t) (id : Nat) (comment : Option String)
    (source : Source) :
    s.buildIn id comment source (some n) =
      (Doclet.tagged (s.context id) comment source (some id) s.clock (some n)).andThen
        (Doclet.postProcess (s.context id) (some t)) := by
  rw [buildIn, Doclet.create_eq, Option.bind_some, ht]
  simp only [Option.map_some]

theorem shared_buildIn (ht : s.doclets[n]? = some t) (hold : t.links.code < s.clock) (id : Nat)
    (comment : Option String) (source : Source)
    (h : (s.buildIn id comment source (some n)).fault = none) :
    shared (s.buildIn id comment source (some n)).doclet t =
      if (s.meeting id comment source n).matchesTwin t then t.release (s.context id).settings
      else t := by
  have hstart := (Doclet.tagged_links (s.context id) comment source (some id) s.clock (some n)).1
  unfold meeting
  rw [buildIn_twin ht] at h ⊢
  generalize Doclet.tagged (s.context id) comment source (some id) s.clock (some n) = start
    at h hstart ⊢
  have hcode := Doclet.build_code h
  generalize (start.andThen (Doclet.postProcess (s.context id) (some t))).doclet = built
    at hcode ⊢
  unfold shared
  split at hcode
  next hmatch =>
    obtain ⟨hlink, hnode, hplace⟩ := hcode
    rw [if_pos hlink.symm, if_pos hmatch, hnode, hplace]
    unfold Doclet.release
    split <;> rfl
  next hmatch =>
    -- the record of the new doclet is younger than that of the twin
    have hne : ¬ t.links.code = built.links.code := by omega
    rw [if_neg hne, if_neg hmatch]

/-- The twin of a doclet, after an attempt to build that. -/
theorem create_twin (hs : s.Sound) (ht : s.doclets[n]? = some t) (slot : String)
    (comment : Option String) (source : Source) :
    (s.create slot comment source (some n)).1.doclets[n]? =
      some (if s.takesTree comment source n t then t.withoutTree else t) := by
  have hcases := s.create_cases slot comment source (some n)
  have ht' : s.site.doclets[n]? = some t := by rw [doclets_site, ht]
  have hold : t.links.code < s.site.clock := by
    have hcode := hs.code t (List.mem_of_getElem? ht)
    have hclock := clock_current s
    change t.links.code < s.current.1.clock + 1
    omega
  have hshared := shared_buildIn ht' hold s.current.2 comment source
  unfold takesTree
  generalize s.site.buildIn s.current.2 comment source (some n) = work at hcases hshared ⊢
  rcases hcases with ⟨fault, hfault, hcreate⟩ | ⟨hfault, hcreate⟩
  · rw [hcreate, hfault]
    exact ht'
  · have hlt : n < (s.doclets.map (shared work.doclet)).length := by
      simpa using (List.getElem?_eq_some_iff.mp ht).1
    rw [hcreate, hfault, doclets_created, List.getElem?_append_left hlt, List.getElem?_map, ht,
      Option.map_some, hshared hfault, Option.isNone_none, Bool.true_and]
    unfold Doclet.release
    cases (s.site.meeting s.current.2 comment source n).matchesTwin t <;>
      cases (s.site.context s.current.2).settings.releaseNodes <;> rfl

/-- Building a doclet changes nothing that is written of its twin. It leaves the twin
as it is unless it takes a syntax node or a source record that the twin still has. -/
theorem create_keeps_twin_iff (hs : s.Reachable) (ht : s.doclets[n]? = some t) (slot : String)
    (comment : Option String) (source : Source) :
    ∃ t', (s.create slot comment source (some n)).1.doclets[n]? = some t' ∧
      t'.encode = t.encode ∧
      (t' = t ↔ s.takesTree comment source n t = false ∨
        t.place.code.node = none ∧ t.place.code.source = none) ∧
      (s.takesTree comment source n t → t' = t.withoutTree) := by
  refine ⟨_, create_twin hs.sound ht slot comment source, ?_⟩
  cases s.takesTree comment source n t with
  | false => simp
  | true =>
    simp only [if_true, Bool.true_eq_false, false_or, forall_const, and_true]
    exact ⟨t.encode_withoutTree, t.withoutTree_eq_self_iff⟩

/-- A function with its syntax node, and then a context that lets go of trees. -/
def beforeTwin : Session :=
  let node : SyntaxNode := ⟨"FunctionDeclaration", none, none, none, [], none, none, none, .null⟩
  let kept := (({} : Session).create "f" (some "/** @function f */")
    { code := some { name := some "f", node := some node } } none).1
  kept.push { settings := { releaseNodes := true } }

theorem create_keeps_twin_iff_released :
    ∃ t, beforeTwin.doclets[0]? = some t ∧
      (beforeTwin.create "g" (some "/** @function f */") {} (some 0)).1.doclets[0]? =
        some t.withoutTree := by
  have hreach : beforeTwin.Reachable :=
    .tail (.single (.create {} "f" (some "/** @function f */") _ none)) (.switch (.push _ _))
  have htakes : (beforeTwin.doclets[0]?.map
      (beforeTwin.takesTree (some "/** @function f */") {} 0)) = some true := by
    decide +kernel
  obtain ⟨t, ht, htake⟩ := Option.map_eq_some_iff.mp htakes
  obtain ⟨t', ht', -, -, hdone⟩ :=
    create_keeps_twin_iff hreach ht "g" (some "/** @function f */") {}
  exact ⟨t, ht, by rw [ht', hdone htake]⟩

/-- The twin has its syntax node and its source record before, and neither of them
after. -/
theorem create_changes_twin :
    let after := (beforeTwin.create "g" (some "/** @function f */") {} (some 0)).1
    let held (s : Session) := s.doclets[0]?.map fun t =>
      (t.place.code.node.isSome, t.place.code.source.isSome)
    held beforeTwin = some (true, true) ∧ held after = some (false, false) := by
  decide +kernel

end Session

end DocComment
