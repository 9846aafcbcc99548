import DocComment.Journal

/-! Blocks of a log inside of each other. A block is opened on the logger of the block
around it and adds its fields to those bound there. When a block that brought a
correlation id is left, the run has the id from before the block again, whatever was done
inside. A record tells of each field what its call says, or else what the innermost block
says that binds the field. -/

namespace DocComment.Journal

/-- The fields that a block binds, each name once. -/
structure Block where
  fields : Fields
  nodup : (fields.map Prod.fst).Nodup

/-- The correlation id that a block brings. One that is no text stays a plain field. -/
def Block.correlation? (b : Block) : Option String :=
  (b.fields.lookup "correlation_id").bind Value.text?

/-- What the innermost of the blocks says that binds the field. -/
def innermost? (around : List Block) (key : String) : Option Value :=
  around.findSome? (·.fields.lookup key)

inductive Script where
  | done
  /-- The code around the calls fails. -/
  | fail (reason : String)
  | setCorrelation (id : Option String) (rest : Script)
  | log (call : Record) (rest : Script)
  | block (b : Block) (body rest : Script)
  /-- The rest is done even if the body fails. -/
  | attempt (body rest : Script)

inductive Event where
  /-- A record was made inside of the blocks, the innermost first. -/
  | made (around : List Block) (call record : Record)
  /-- A block was left; the correlation ids are those when it was entered and now. -/
  | left (b : Block) (before after : Option String)

structure Outcome where
  run : Run
  events : List Event := []
  failure : Option String := none

/-- Goes on unless something failed. -/
def Outcome.andThen (o : Outcome) (next : Run → Outcome) : Outcome :=
  match o.failure with
  | some _ => o
  | none => { next o.run with events := o.events ++ (next o.run).events }

/-- Leaving a block, after a failure too. -/
def Outcome.leave (o : Outcome) (b : Block) (before : Option String) : Outcome :=
  { o with run := o.run.leave, events := o.events ++ [.left b before o.run.leave.correlation] }

/-- A call makes a record if its level reaches the threshold, and fails if one of its
fields has a name that is taken. -/
def Logger.call (l : Logger) (threshold : Nat) (around : List Block) (call : Record) (r : Run) :
    Outcome :=
  if call.level.number < threshold then { run := r }
  else
    match l.record r.correlation call with
    | .ok record => { run := r, events := [.made around call record] }
    | .error name => { run := r, failure := some name }

def Script.play (threshold : Nat) : Script → Logger → List Block → Run → Outcome
  | .done, _, _, r => { run := r }
  | .fail reason, _, _, r => { run := r, failure := some reason }
  | .setCorrelation id rest, l, around, r =>
    rest.play threshold l around { r with correlation := id }
  | .log call rest, l, around, r =>
    (l.call threshold around call r).andThen (rest.play threshold l around)
  | .block b body rest, l, around, r =>
    let inside := body.play threshold (l.bind b.fields) (b :: around) (r.enter b.fields)
    (inside.leave b r.correlation).andThen (rest.play threshold l around)
  | .attempt body rest, l, around, r =>
    { body.play threshold l around r with failure := none }.andThen (rest.play threshold l around)

section Fields

def Logger.field? (l : Logger) (key : String) : Option Value := l.bound.bind (·.lookup key)

/-- What every adapter has to say. -/
def standing (correlation : Option String) : Fields :=
  (correlation.map fun id => ("correlation_id", .text id)).toList ++
    [("operation", .text "unknown"), ("status", .text "success")]

theorem Logger.field?_bind (l : Logger) (b : Block) (key : String) :
    (l.bind b.fields).field? key = (b.fields.lookup key).or (l.field? key) := by
  have hbase : (l.bound.getD []).lookup key = l.field? key := by
    unfold Logger.field?
    cases l.bound <;> rfl
  rw [← hbase]
  exact Assoc.lookup_foldl_insert_pairs b.nodup (l.bound.getD []) key

theorem Logger.complete_eq (l : Logger) (correlation : Option String) (fields : Fields) :
    l.complete correlation fields =
      (l.bound.elim [] (· ++ standing correlation)).foldl
        (fun fs f => Assoc.insertNew f.1 f.2 fs) fields := by
  unfold Logger.complete standing
  cases l.bound with
  | none => rfl
  | some bound => cases correlation <;> simp [List.foldl_append]

/-- A call goes before the logger, and what is bound there before what stands for all. -/
theorem Logger.lookup_complete (l : Logger) (correlation : Option String) (fields : Fields)
    (key : String) :
    (l.complete correlation fields).lookup key =
      (fields.lookup key).or ((l.bound.elim [] (· ++ standing correlation)).lookup key) := by
  rw [complete_eq]
  exact Assoc.lookup_foldl_insertNew _ fields key

theorem Logger.lookup_complete_of_field? {l : Logger} {key : String} {v : Value}
    (h : l.field? key = some v) (correlation : Option String) (fields : Fields) :
    (l.complete correlation fields).lookup key = (fields.lookup key).or (some v) := by
  obtain ⟨bound, hbound, hv⟩ := Option.bind_eq_some_iff.mp h
  rw [lookup_complete, hbound, Option.elim_some, List.lookup_append, hv, Option.some_or]

theorem innermost?_cons (b : Block) (around : List Block) (key : String) :
    innermost? (b :: around) key = (b.fields.lookup key).or (innermost? around key) := by
  unfold innermost?
  rw [List.findSome?_cons]
  cases b.fields.lookup key <;> rfl

/-- The logger says what the innermost of the blocks says. -/
def Logger.Speaks (l : Logger) (around : List Block) : Prop :=
  ∀ key v, innermost? around key = some v → l.field? key = some v

theorem Logger.Speaks.bind {l : Logger} {around : List Block} (h : l.Speaks around) (b : Block) :
    (l.bind b.fields).Speaks (b :: around) := by
  intro key v hv
  rw [innermost?_cons] at hv
  rw [field?_bind]
  cases hb : b.fields.lookup key with
  | some w => simpa [hb] using hv
  | none =>
    rw [hb, Option.none_or] at hv
    rw [Option.none_or]
    exact h key v hv

end Fields

section Nesting

def Event.Nests : Event → Prop
  | .made around call record =>
    ∀ key v, (call.fields.lookup key).or (innermost? around key) = some v →
      record.fields.lookup key = some v
  | .left b before after => b.correlation?.isSome → after = before

/-- The open blocks are these, and all that happened nests. -/
structure Outcome.Nests (o : Outcome) (blocks : List (Option (Option String))) : Prop where
  blocks : o.run.blocks = blocks
  events : ∀ e ∈ o.events, e.Nests

theorem Run.enter_eq (r : Run) (b : Block) :
    r.enter b.fields =
      { correlation := b.correlation?.or r.correlation
        blocks := (b.correlation?.map fun _ => r.correlation) :: r.blocks } := by
  unfold Run.enter Block.correlation?
  split
  next id hid => simp [hid, Value.text?]
  next hno =>
    have hnone : (b.fields.lookup "correlation_id").bind Value.text? = none := by
      cases hb : b.fields.lookup "correlation_id" with
      | none => rfl
      | some v =>
        cases v with
        | text id => exact absurd hb (hno id)
        | _ => rfl
    simp [hnone]

/-- Leaving gives back what entering has put aside. -/
theorem Run.leave_of_blocks {r inside : Run} {b : Block}
    (h : inside.blocks = (r.enter b.fields).blocks) :
    inside.leave.blocks = r.blocks ∧
      inside.leave.correlation =
        if b.correlation?.isSome then r.correlation else inside.correlation := by
  rw [enter_eq] at h
  unfold Run.leave
  rw [h]
  cases b.correlation? <;> exact ⟨rfl, rfl⟩

variable {o : Outcome} {blocks : List (Option (Option String))}

theorem Outcome.Nests.andThen {next : Run → Outcome} (h : o.Nests blocks)
    (hnext : ∀ r : Run, r.blocks = blocks → (next r).Nests blocks) :
    (o.andThen next).Nests blocks := by
  unfold Outcome.andThen
  split
  · exact h
  · have hrest := hnext o.run h.blocks
    refine ⟨hrest.blocks, fun e he => ?_⟩
    rcases List.mem_append.mp he with he | he
    · exact h.events e he
    · exact hrest.events e he

theorem Outcome.Nests.leave {r : Run} {b : Block} (h : o.Nests (r.enter b.fields).blocks) :
    (o.leave b r.correlation).Nests r.blocks := by
  obtain ⟨hblocks, hcorrelation⟩ := Run.leave_of_blocks h.blocks
  refine ⟨hblocks, fun e he => ?_⟩
  rcases List.mem_append.mp he with he | he
  · exact h.events e he
  · obtain rfl : e = .left b r.correlation o.run.leave.correlation := List.mem_singleton.mp he
    intro hid
    rw [hcorrelation, if_pos hid]

theorem Logger.fields_record {l : Logger} {correlation : Option String} {call record : Record}
    (h : l.record correlation call = .ok record) :
    record.fields = l.complete correlation call.fields := by
  unfold Logger.record at h
  dsimp only at h
  split at h
  · simp at h
  · simp only [Except.ok.injEq] at h
    rw [← h]

theorem Logger.Speaks.call {l : Logger} {around : List Block} (h : l.Speaks around)
    (threshold : Nat) (call : Record) (r : Run) :
    (l.call threshold around call r).Nests r.blocks := by
  unfold Logger.call
  split
  · exact ⟨rfl, by simp⟩
  · split
    next record hrecord =>
      refine ⟨rfl, fun e he => ?_⟩
      obtain rfl : e = .made around call record := List.mem_singleton.mp he
      intro key v hv
      rw [fields_record hrecord]
      cases hcall : call.fields.lookup key with
      | some w =>
        rw [hcall, Option.some_or] at hv
        rw [lookup_complete, hcall, Option.some_or, hv]
      | none =>
        rw [hcall, Option.none_or] at hv
        rw [lookup_complete_of_field? (h key v hv), hcall, Option.none_or]
    next => exact ⟨rfl, by simp⟩

theorem Script.nests_play (s : Script) (threshold : Nat) {l : Logger} {around : List Block}
    (h : l.Speaks around) (r : Run) : (s.play threshold l around r).Nests r.blocks := by
  induction s generalizing l around r with
  | done => exact ⟨rfl, by simp [play]⟩
  | fail reason => exact ⟨rfl, by simp [play]⟩
  | setCorrelation id rest ih => exact ih h { r with correlation := id }
  | log call rest ih =>
    refine (h.call threshold call r).andThen fun r' hr' => ?_
    rw [← hr']
    exact ih h r'
  | block b body rest ihBody ihRest =>
    have hinside := ihBody (h.bind b) (r.enter b.fields)
    refine hinside.leave.andThen fun r' hr' => ?_
    rw [← hr']
    exact ihRest h r'
  | attempt body rest ihBody ihRest =>
    have hbody := ihBody h r
    have hkept : { body.play threshold l around r with failure := none : Outcome }.Nests r.blocks :=
      ⟨hbody.blocks, hbody.events⟩
    refine hkept.andThen fun r' hr' => ?_
    rw [← hr']
    exact ihRest h r'

end Nesting

/-- Whatever a script does, leaving a block that brought a correlation id gives back the
one from before the block, and a record says of a field what its call says, or else what
the innermost block around it says that binds the field. -/
theorem Script.play_nests (s : Script) (threshold : Nat) (l : Logger) (r : Run) :
    (∀ b before after, .left b before after ∈ (s.play threshold l [] r).events →
        ∀ id, b.fields.lookup "correlation_id" = some (.text id) → after = before) ∧
      ∀ around call record, .made around call record ∈ (s.play threshold l [] r).events →
        ∀ key v,
          (call.fields.lookup key).or (around.findSome? (·.fields.lookup key)) = some v →
            record.fields.lookup key = some v := by
  have hspeaks : l.Speaks [] := by
    intro key v hv
    simp [innermost?] at hv
  have hnests := s.nests_play threshold hspeaks r
  refine ⟨fun b before after he id hid => ?_, fun around call record he => ?_⟩
  · have hsome : b.correlation?.isSome := by simp [Block.correlation?, hid, Value.text?]
    exact hnests.events _ he hsome
  · exact hnests.events _ he

def parseBlock : Block :=
  ⟨[("correlation_id", .text "run-1"), ("operation", .text "parse")], by decide⟩

def stepBlock : Block := ⟨[("correlation_id", .text "run-2"), ("step", .int 1)], by decide⟩

def parsing : Record := { logger := "log", level := .info, message := "Parsing" }

/-- In the inner block the id is taken away, and a call is refused that names a field
"name". -/
def refusedScript : Script :=
  .block parseBlock
    (.attempt
      (.block stepBlock
        (.setCorrelation none
          (.log parsing (.log { parsing with fields := [("name", .null)] } .done)))
        .done)
      .done)
    .done

/-- The record that the inner block makes before. -/
def parsingStep : Record :=
  { parsing with
    fields :=
      [("correlation_id", .text "run-2"), ("operation", .text "parse"), ("step", .int 1),
        ("status", .text "success")] }

theorem Script.play_nests_refused :
    (.left stepBlock (some "run-1") (some "run-1") ∈
        (refusedScript.play 10 ⟨"log", none⟩ [] {}).events ∧
      stepBlock.fields.lookup "correlation_id" = some (.text "run-2") ∧
      some "run-1" = some "run-1") ∧
    .made [stepBlock, parseBlock] parsing parsingStep ∈
        (refusedScript.play 10 ⟨"log", none⟩ [] {}).events ∧
      (parsing.fields.lookup "operation").or
          ([stepBlock, parseBlock].findSome? (·.fields.lookup "operation")) =
        some (.text "parse") ∧
      parsingStep.fields.lookup "operation" = some (.text "parse") := by
  have hevents : (refusedScript.play 10 ⟨"log", none⟩ [] {}).events =
      [.made [stepBlock, parseBlock] parsing parsingStep,
        .left stepBlock (some "run-1") (some "run-1"), .left parseBlock none none] := rfl
  have hleft : .left stepBlock (some "run-1") (some "run-1") ∈
      (refusedScript.play 10 ⟨"log", none⟩ [] {}).events := by
    rw [hevents]
    exact .tail _ (.head _)
  have hmade : .made [stepBlock, parseBlock] parsing parsingStep ∈
      (refusedScript.play 10 ⟨"log", none⟩ [] {}).events := by
    rw [hevents]
    exact .head _
  have hid : stepBlock.fields.lookup "correlation_id" = some (.text "run-2") := rfl
  have hparse : (parsing.fields.lookup "operation").or
      ([stepBlock, parseBlock].findSome? (·.fields.lookup "operation")) =
        some (.text "parse") := rfl
  obtain ⟨hrestores, hsays⟩ := play_nests refusedScript 10 ⟨"log", none⟩ {}
  exact ⟨⟨hleft, hid, hrestores _ _ _ hleft _ hid⟩, hmade, hparse, hsays _ _ _ hmade _ _ hparse⟩

end DocComment.Journal
