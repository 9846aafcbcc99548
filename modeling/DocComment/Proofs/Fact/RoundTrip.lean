import DocComment.Doclet.Encode
import DocComment.Proofs.Data.Convey
import DocComment.Source

/-! Facts in encoded doclets. What stands for a fact there can be handed in again
as part of a source record, and gives the same fact: every record of a fact
conveys itself, and so does every fact, however deep others are nested in it. -/

namespace DocComment

open Decode Value

namespace Decode.Field

variable (key : String)

theorem text (s : String) : Field Decode.text "" key (textMember key s) s := by
  by_cases h : s = ""
  · rw [textMember, if_pos h, h]
    exact .leftOut
  · rw [textMember, if_neg h]
    exact .given (.text s)

theorem text? (s : Option String) : Field Decode.text? none key (textMember? key s) s := by
  cases s with
  | none => exact .leftOut
  | some s => exact .given (.text? s)

theorem flag (b : Bool) : Field Decode.bool false key (flagMember key b) b := by
  cases b with
  | false => exact .leftOut
  | true => exact .given (.bool true)

theorem list {α : Type} {read : Value → Decode α} {write : α → Value} {as : List α}
    (h : ∀ a ∈ as, Conveys read (write a) a) :
    Field (Decode.list read) [] key (listMember key (as.map write)) as := by
  cases as with
  | nil => exact .leftOut
  | cons a rest => exact .given (.list h)

theorem option {α : Type} {read : Value → Decode (Option α)} {write : α → Value}
    (h : ∀ a, Conveys read (write a) (some a)) (a : Option α) :
    Field read none key (member? key write a) a := by
  cases a with
  | none => exact .leftOut
  | some a => exact .given (h a)

theorem always {γ : Type} {part : Value → Decode γ} (absent : γ) {v : Value} {x : γ}
    (h : Conveys part v x) : Field part absent key [(key, v)] x := .given h

end Decode.Field

theorem Decode.Advances.tagged {β : Type} {read : β → String → Value → Decode β}
    {names : List String} {ms : List (String × Value)} {b c : β} (h : Advances read names ms b c)
    (name : String) (hread : read b "nodeType" (.text name) = .ok b) :
    Advances read ("nodeType" :: names) (tagMember name :: ms) b c :=
  (Advances.single ⟨rfl, rfl⟩ hread).append h

theorem Decode.tag_tagMember {α : Type} {ofName? : String → Option α} {name : String} {a : α}
    (h : ofName? name = some a) (ms : List (String × Value)) :
    Decode.tag ofName? (tagMember name :: ms) = .ok a := by
  simp [Decode.tag, tagMember, h]

theorem TypeRef.advances (r : TypeRef) :
    Advances TypeRef.read ["string", "id"]
      (textMember "string" r.string ++ textMember? "id" r.id) {} r := by
  have hstring := (Field.text "string" r.string).advances TypeRef.read (TypeRef.mk · none)
    fun _ => rfl
  have hid := (Field.text? "id" r.id).advances TypeRef.read (TypeRef.mk r.string ·) fun _ => rfl
  exact hstring.append hid

theorem TypeRef.conveys (r : TypeRef) : Conveys TypeRef.decode r.encode r :=
  r.advances.conveys (by decide +kernel)

theorem TypeRef.conveys? (r : TypeRef) : Conveys TypeRef.decode? r.encode (some r) :=
  r.advances.conveys? (by decide +kernel)

theorem TypeParams.conveys (p : TypeParams) : Conveys TypeParams.decode p.encode p := by
  have hstring := (Field.text "string" p.string).advances TypeParams.read (TypeParams.mk · [])
    fun _ => rfl
  have hparams := (Field.list "params" fun s (_ : s ∈ p.params) => .text s).advances
    TypeParams.read (TypeParams.mk p.string ·) fun _ => rfl
  exact (hstring.append hparams).conveys (by decide +kernel)

/-- The members of a plain parameter are read in the same way with and without the
tag in front of them. -/
theorem PlainParam.advances (p : PlainParam)
    {read : PlainParam → String → Value → Decode PlainParam}
    (hread : ∀ q key v, key ≠ "nodeType" → read q key v = PlainParam.read q key v) :
    Advances read ["id", "typeAnnotation", "optional", "default", "string"] p.members {} p := by
  have hid := (Field.text "id" p.id).advances read (PlainParam.mk "" · none false none)
    fun _ => hread _ _ _ (by decide)
  have hdeclared := (Field.option "typeAnnotation" TypeRef.conveys? p.declared).advances read
    (PlainParam.mk "" p.id · false none) fun _ => hread _ _ _ (by decide)
  have hoptional := (Field.flag "optional" p.optional).advances read
    (PlainParam.mk "" p.id p.declared · none) fun _ => hread _ _ _ (by decide)
  have hdefault := (Field.option "default" TypeRef.conveys? p.default).advances read
    (PlainParam.mk "" p.id p.declared p.optional ·) fun _ => hread _ _ _ (by decide)
  have hstring := (Field.text "string" p.string).advances read
    (PlainParam.mk · p.id p.declared p.optional p.default) fun _ => hread _ _ _ (by decide)
  exact (((hid.append hdeclared).append hoptional).append hdefault).append hstring

theorem PlainParam.conveys (p : PlainParam) :
    Conveys (Decode.object PlainParam.readTagged {}) p.encode p := by
  have hread : ∀ (q : PlainParam) key v, key ≠ "nodeType" → q.readTagged key v = q.read key v := by
    intro q key v hne
    rw [PlainParam.readTagged]
    exact hne
  exact ((p.advances hread).tagged "Identifier" rfl).conveys (by decide +kernel)

theorem DefaultParam.advances (p : DefaultParam) :
    Advances DefaultParamDraft.read ["left", "right", "string"] p.members {}
      ⟨p.string, some p.left, p.right⟩ := by
  have hleft := Advances.given p.left.conveys "left" DefaultParamDraft.read {}
    (fun left => ⟨"", some left, none⟩) fun _ => rfl
  have hright := (Field.option "right" TypeRef.conveys? p.right).advances DefaultParamDraft.read
    (DefaultParamDraft.mk "" (some p.left) ·) fun _ => rfl
  have hstring := (Field.text "string" p.string).advances DefaultParamDraft.read
    (DefaultParamDraft.mk · (some p.left) p.right) fun _ => rfl
  exact (hleft.append hright).append hstring

theorem DefaultParam.clean_encode (p : DefaultParam) : p.encode.clean = p.encode :=
  (p.advances.tagged "AssignmentPattern" rfl).clean_object (by decide +kernel)

namespace BasicParam

theorem decodeMembers_plain (p : PlainParam) :
    decodeMembers false (tagMember "Identifier" :: p.members) = .ok (.plain p) := by
  have h := (p.advances fun _ _ _ _ => rfl).tagged "Identifier" rfl
  rw [decodeMembers, if_neg Bool.false_ne_true, h.read]
  rfl

theorem decodeMembers_withDefault (p : DefaultParam) :
    decodeMembers true (tagMember "AssignmentPattern" :: p.members) = .ok (.withDefault p) := by
  have h := p.advances.tagged "AssignmentPattern" rfl
  rw [decodeMembers, if_pos rfl, h.read]
  rfl

theorem conveys (p : BasicParam) : Conveys BasicParam.decode p.encode p := by
  cases p with
  | plain p =>
    have htag : ParamTag.basicOfName? "Identifier" = some .plain := rfl
    refine ⟨rfl, p.conveys.clean, ?_⟩
    rw [encode, PlainParam.encode, decode, tag_tagMember htag]
    exact decodeMembers_plain p
  | withDefault p =>
    have htag : ParamTag.basicOfName? "AssignmentPattern" = some .withDefault := rfl
    refine ⟨rfl, p.clean_encode, ?_⟩
    rw [encode, DefaultParam.encode, decode, tag_tagMember htag]
    exact decodeMembers_withDefault p

end BasicParam

theorem PropertyParam.advances (p : PropertyParam) :
    Advances PropertyParamDraft.read ["parameter", "accessibility", "string"] p.members {}
      ⟨p.string, some p.parameter, p.accessibility⟩ := by
  have hparameter := Advances.given p.parameter.conveys "parameter" PropertyParamDraft.read {}
    (fun parameter => ⟨"", some parameter, none⟩) fun _ => rfl
  have haccess := (Field.text? "accessibility" p.accessibility).advances PropertyParamDraft.read
    (PropertyParamDraft.mk "" (some p.parameter) ·) fun _ => rfl
  have hstring := (Field.text "string" p.string).advances PropertyParamDraft.read
    (PropertyParamDraft.mk · (some p.parameter) p.accessibility) fun _ => rfl
  exact (hparameter.append haccess).append hstring

theorem Param.conveys (p : Param) : Conveys Param.decode p.encode p := by
  cases p with
  | basic p =>
    cases p with
    | plain p =>
      have htag : ParamTag.ofName? "Identifier" = some .plain := rfl
      refine ⟨rfl, p.conveys.clean, ?_⟩
      rw [encode, BasicParam.encode, PlainParam.encode, decode, tag_tagMember htag]
      exact congrArg (Functor.map Param.basic) (BasicParam.decodeMembers_plain p)
    | withDefault p =>
      have htag : ParamTag.ofName? "AssignmentPattern" = some .withDefault := rfl
      refine ⟨rfl, p.clean_encode, ?_⟩
      rw [encode, BasicParam.encode, DefaultParam.encode, decode, tag_tagMember htag]
      exact congrArg (Functor.map Param.basic) (BasicParam.decodeMembers_withDefault p)
  | property p =>
    have h := p.advances.tagged "TSParameterProperty" rfl
    have htag : ParamTag.ofName? "TSParameterProperty" = some .property := rfl
    refine ⟨rfl, h.clean_object (by decide +kernel), ?_⟩
    rw [encode, PropertyParam.encode, decode, tag_tagMember htag, h.read]
    rfl

theorem InterfaceMember.conveys (m : InterfaceMember) :
    Conveys (Decode.object InterfaceMember.read {}) m.encode m := by
  have hkey := (Field.text "key" m.key).advances InterfaceMember.read
    (InterfaceMember.mk · false none {} []) fun _ => rfl
  have hoptional := (Field.flag "optional" m.optional).advances InterfaceMember.read
    (InterfaceMember.mk m.key · none {} []) fun _ => rfl
  have htype := (Field.text? "type" m.type).advances InterfaceMember.read
    (InterfaceMember.mk m.key m.optional · {} []) fun _ => rfl
  have hdeclared := (Field.always "typeAnnotation" {} m.declared.conveys).advances
    InterfaceMember.read (InterfaceMember.mk m.key m.optional m.type · []) fun _ => rfl
  have hcomments := (Field.list "leadingComments" fun s (_ : s ∈ m.comments) => .text s).advances
    InterfaceMember.read (InterfaceMember.mk m.key m.optional m.type m.declared ·) fun _ => rfl
  exact (((hkey.append hoptional).append htype).append (hdeclared.append hcomments)).conveys
    (by decide +kernel)

theorem Callable.advances (c : Callable) :
    Advances Callable.read ["parameters", "returnType", "typeParameters", "accessibility", "string"]
      c.members {} c := by
  have hparameters := (Field.list "parameters" fun p (_ : p ∈ c.parameters) => p.conveys).advances
    Callable.read (Callable.mk "" · {} {} none) fun _ => rfl
  have hreturn := (Field.always "returnType" {} c.returnType.conveys).advances Callable.read
    (Callable.mk "" c.parameters · {} none) fun _ => rfl
  have htypeParams := (Field.always "typeParameters" {} c.typeParams.conveys).advances
    Callable.read (Callable.mk "" c.parameters c.returnType · none) fun _ => rfl
  have haccess := (Field.text? "accessibility" c.accessibility).advances Callable.read
    (Callable.mk "" c.parameters c.returnType c.typeParams ·) fun _ => rfl
  have hstring := (Field.text "string" c.string).advances Callable.read
    (Callable.mk · c.parameters c.returnType c.typeParams c.accessibility) fun _ => rfl
  exact (hparameters.append (hreturn.append (htypeParams.append haccess))).append hstring

theorem ClassFact.advances (c : ClassFact) :
    Advances ClassFact.read ["implements", "superClass", "string"] c.members {} c := by
  have himplements := (Field.list "implements" fun r (_ : r ∈ c.implements) => r.conveys).advances
    ClassFact.read (ClassFact.mk "" · {}) fun _ => rfl
  have hsuper := (Field.always "superClass" {} c.superClass.conveys).advances ClassFact.read
    (ClassFact.mk "" c.implements ·) fun _ => rfl
  have hstring := (Field.text "string" c.string).advances ClassFact.read
    (ClassFact.mk · c.implements c.superClass) fun _ => rfl
  exact himplements.append (hsuper.append hstring)

theorem ClassFieldFact.advances (c : ClassFieldFact) :
    Advances ClassFieldFact.read ["accessibility", "typeAnnotation", "static", "string"]
      c.members {} c := by
  have haccess := (Field.text? "accessibility" c.accessibility).advances ClassFieldFact.read
    (ClassFieldFact.mk "" · {} false) fun _ => rfl
  have hdeclared := (Field.always "typeAnnotation" {} c.declared.conveys).advances
    ClassFieldFact.read (ClassFieldFact.mk "" c.accessibility · false) fun _ => rfl
  have hstatic := (Field.flag "static" c.static).advances ClassFieldFact.read
    (ClassFieldFact.mk "" c.accessibility c.declared ·) fun _ => rfl
  have hstring := (Field.text "string" c.string).advances ClassFieldFact.read
    (ClassFieldFact.mk · c.accessibility c.declared c.static) fun _ => rfl
  exact (haccess.append (hdeclared.append hstatic)).append hstring

theorem InterfaceFact.advances (i : InterfaceFact) :
    Advances InterfaceFact.read ["extends", "typeParameters", "body", "string"] i.members {} i := by
  have hbases := (Field.list "extends" fun r (_ : r ∈ i.bases) => r.conveys).advances
    InterfaceFact.read (InterfaceFact.mk "" · {} []) fun _ => rfl
  have htypeParams := (Field.always "typeParameters" {} i.typeParams.conveys).advances
    InterfaceFact.read (InterfaceFact.mk "" i.bases · []) fun _ => rfl
  have hbody := (Field.list "body" fun m (_ : m ∈ i.body) => m.conveys).advances
    InterfaceFact.read (InterfaceFact.mk "" i.bases i.typeParams ·) fun _ => rfl
  have hstring := (Field.text "string" i.string).advances InterfaceFact.read
    (InterfaceFact.mk · i.bases i.typeParams i.body) fun _ => rfl
  exact (hbases.append (htypeParams.append hbody)).append hstring

theorem AliasFact.advances (a : AliasFact) :
    Advances AliasFact.read ["typeParameters", "typeAnnotation", "string"] a.members {} a := by
  have htypeParams := (Field.always "typeParameters" {} a.typeParams.conveys).advances
    AliasFact.read (AliasFact.mk "" · {}) fun _ => rfl
  have hdeclared := (Field.always "typeAnnotation" {} a.declared.conveys).advances
    AliasFact.read (AliasFact.mk "" a.typeParams ·) fun _ => rfl
  have hstring := (Field.text "string" a.string).advances AliasFact.read
    (AliasFact.mk · a.typeParams a.declared) fun _ => rfl
  exact htypeParams.append (hdeclared.append hstring)

theorem FactTag.ofName?_name (t : FactTag) : FactTag.ofName? t.name = some t := by
  cases t with
  | callable form => cases form <;> decide +kernel
  | wrap form => cases form <;> decide +kernel
  | combo form => cases form <;> decide +kernel
  | _ => decide +kernel

namespace Fact

/-- What one member does to a fact that holds others, while it is being read. -/
def readMember (single : Bool) (d : NestDraft) (key : String) (v : Value) : Decode NestDraft :=
  if key = "typeAnnotation" && single then do return { d with inner := some (← decode v) }
  else if key = "types" && !single then do return { d with types := ← Decode.list decode v }
  else if key = "string" then do return { d with string := ← Decode.text v }
  else return d

theorem decodeItems_eq (index : Nat) (vs : List Value) :
    decodeItems index vs = Decode.items decode index vs := by
  induction vs generalizing index with
  | nil => rw [decodeItems, Decode.items]
  | cons v rest ih => rw [decodeItems, Decode.items, ih]

theorem decodeList_eq (v : Value) : decodeList v = Decode.list decode v := by
  cases v with
  | list vs => rw [decodeList, Decode.list, decodeItems_eq]
  | _ => simp [decodeList, Decode.list]

theorem readNest_eq (single : Bool) (d : NestDraft) (ms : List (String × Value)) :
    readNest single d ms = Decode.members (readMember single) d ms := by
  induction ms generalizing d with
  | nil => rw [readNest, Decode.members]
  | cons m rest ih =>
    rw [readNest, Decode.members, readMember, decodeList_eq]
    exact congrArg _ (funext ih)

theorem encodeList_eq_map (fs : List Fact) : encodeList fs = fs.map encode := by
  induction fs with
  | nil => rw [encodeList, List.map_nil]
  | cons f rest ih => rw [encodeList, ih, List.map_cons]

theorem advances_wrap {inner : Fact} (h : Conveys decode inner.encode inner) (string : String) :
    Advances (readMember true) ["typeAnnotation", "string"]
      (("typeAnnotation", inner.encode) :: textMember "string" string) {}
      ⟨string, some inner, []⟩ := by
  have hinner := Advances.given h "typeAnnotation" (readMember true) {}
    (fun inner => ⟨"", some inner, []⟩) fun _ => rfl
  have hstring := (Field.text "string" string).advances (readMember true)
    (NestDraft.mk · (some inner) []) fun _ => rfl
  exact hinner.append hstring

theorem advances_combo {types : List Fact} (h : ∀ f ∈ types, Conveys decode f.encode f)
    (string : String) :
    Advances (readMember false) ["types", "string"]
      (listMember "types" (types.map encode) ++ textMember "string" string) {}
      ⟨string, none, types⟩ := by
  have htypes := (Field.list "types" h).advances (readMember false) (NestDraft.mk "" none ·)
    fun _ => rfl
  have hstring := (Field.text "string" string).advances (readMember false)
    (NestDraft.mk · none types) fun _ => rfl
  exact htypes.append hstring

/-- A fact whose tag is followed by members that are read one after the other. -/
theorem conveys_tagged {β : Type} {read : β → String → Value → Decode β} {names : List String}
    {ms : List (String × Value)} {b c : β} {t : FactTag} {f : Fact}
    (h : Advances read names ms b c) (hpass : read b "nodeType" (.text t.name) = .ok b)
    (hnames : StayApart ("nodeType" :: names))
    (hdecode : Decode.members read b (tagMember t.name :: ms) = .ok c →
      decode (.object (tagMember t.name :: ms)) = .ok f) :
    Conveys decode (.object (tagMember t.name :: ms)) f :=
  have htagged := h.tagged t.name hpass
  ⟨rfl, htagged.clean_object hnames, hdecode htagged.read⟩

mutual

theorem conveys : ∀ f : Fact, Conveys decode f.encode f
  | callable form c => by
    rw [encode]
    refine conveys_tagged c.advances rfl (by decide +kernel) fun hread => ?_
    rw [decode, tag_tagMember (FactTag.ofName?_name _), hread]
    rfl
  | classDecl c => by
    rw [encode]
    refine conveys_tagged c.advances rfl (by decide +kernel) fun hread => ?_
    rw [decode, tag_tagMember (FactTag.ofName?_name _), hread]
    rfl
  | classField c => by
    rw [encode]
    refine conveys_tagged c.advances rfl (by decide +kernel) fun hread => ?_
    rw [decode, tag_tagMember (FactTag.ofName?_name _), hread]
    rfl
  | interface i => by
    rw [encode]
    refine conveys_tagged i.advances rfl (by decide +kernel) fun hread => ?_
    rw [decode, tag_tagMember (FactTag.ofName?_name _), hread]
    rfl
  | typeAlias a => by
    rw [encode]
    refine conveys_tagged a.advances rfl (by decide +kernel) fun hread => ?_
    rw [decode, tag_tagMember (FactTag.ofName?_name _), hread]
    rfl
  | wrap form string inner => by
    rw [encode]
    refine conveys_tagged (advances_wrap (conveys inner) string) rfl (by decide +kernel)
      fun hread => ?_
    rw [decode, tag_tagMember (FactTag.ofName?_name _), readNest_eq true, hread]
    rfl
  | combo form string types => by
    rw [encode, encodeList_eq_map, List.cons_append]
    refine conveys_tagged (advances_combo (conveys_of_mem types) string) rfl (by decide +kernel)
      fun hread => ?_
    rw [decode, tag_tagMember (FactTag.ofName?_name _), readNest_eq false, hread]
    rfl

theorem conveys_of_mem : ∀ fs : List Fact, ∀ f ∈ fs, Conveys decode f.encode f
  | [], _, hmem => nomatch hmem
  | f :: rest, g, hmem => by
    rcases List.mem_cons.1 hmem with hfirst | hrest
    · rw [hfirst]
      exact conveys f
    · exact conveys_of_mem rest g hrest

end

end Fact

theorem Doclet.get?_encode_meta (d : Doclet) :
    d.encode.get? "meta" = some d.place.encode.clean := by
  have hfixed : d.members.map Prod.fst = ({} : Doclet).members.map Prod.fst := rfl
  have hnames : ((d.members.map Prod.fst).map camel).Nodup := by
    rw [hfixed]
    decide +kernel
  have hmem : ("meta", d.place.encode) ∈ d.members := by simp [Doclet.members]
  exact get?_clean_object hnames hmem rfl (by decide +kernel)

theorem Placement.get?_encode_extras {p : Placement} {fs : List Fact} (h : p.facts = some fs) :
    p.encode.clean.get? "extras" = some (.list (fs.map Fact.encode)) := by
  have hclean : (Value.list (fs.map Fact.encode)).clean = .list (fs.map Fact.encode) :=
    Conveys.clean_list fun f _ => f.conveys
  rw [Placement.encode, h, orNull, Fact.encodeList_eq_map]
  refine (get?_clean_object ?_ ?_ rfl (by decide +kernel)).trans (congrArg some hclean)
  · simp only [List.map_cons, List.map_nil]
    decide +kernel
  · simp

theorem Source.decode_facts (fs : List Fact) :
    Source.decode (.object [("code", .object [("extras", .list (fs.map Fact.encode))])]) =
      .ok { code := some { facts := some fs } } := by
  have hfacts : Conveys (Decode.list? Fact.decode) (.list (fs.map Fact.encode)) (some fs) :=
    .list? fun f _ => f.conveys
  have hsymbol := (Advances.given hfacts "extras" SourceSymbol.read {} (fun facts => { facts })
    fun _ => rfl).conveys? (by decide +kernel)
  have hsource := (Advances.given hsymbol "code" Source.read {} (fun code => { code })
    fun _ => rfl).read
  rw [Source.decode, Decode.object, hsource]
  · rfl
  · simp

namespace Doclet

/-- The facts of an encoded doclet, handed in again with the code of a symbol, are
the facts that the doclet has. -/
theorem facts_encode_decode (d : Doclet) (fs : List Fact) (h : d.place.facts = some fs) :
    ∃ extras, (d.encode.get? "meta").bind (·.get? "extras") = some extras ∧
      Source.decode (.object [("code", .object [("extras", extras)])]) =
        .ok { code := some { facts := some fs } } := by
  refine ⟨.list (fs.map Fact.encode), ?_, Source.decode_facts fs⟩
  rw [get?_encode_meta, Option.bind_some, Placement.get?_encode_extras h]

/-- The annotation `: (new (private x?: T = y) => R) | I`, with an intersection
that has no parts. -/
def annotatedUnion : Fact :=
  .wrap .annotated ": (new (private x?: T = y) => R) | I"
    (.combo .union ""
      [.callable .functionType
        { parameters :=
            [.property
              { parameter := .withDefault
                  { left := { id := "x", declared := some { id := some "" }, optional := true }
                    right := some { string := "y" } }
                accessibility := some "private" }]
          returnType := { string := "R" } },
        .interface { body := [{ key := "leading_key", comments := ["/** */", ""] }] },
        .combo .intersection "I" []])

theorem facts_encode_decode_annotatedUnion :
    ({ place := { facts := some [annotatedUnion] } } : Doclet).place.facts = some [annotatedUnion] ∧
    ∃ extras,
      (({ place := { facts := some [annotatedUnion] } } : Doclet).encode.get? "meta").bind
        (·.get? "extras") = some extras ∧
      Source.decode (.object [("code", .object [("extras", extras)])]) =
        .ok { code := some { facts := some [annotatedUnion] } } :=
  ⟨rfl, facts_encode_decode _ _ rfl⟩

end Doclet

end DocComment
