import DocComment.Dictionary.Basic

/-! The tags that are known unless a dictionary of one's own is used. -/

namespace DocComment.Dictionary

def standardDefinitions : List TagDefinition :=
  let named : BodyForm := { name := true }
  let typed : BodyForm := { type := true }
  let typedAndNamed : BodyForm := { type := true, name := true }
  [{ title := "abstract", synonyms := ["virtual"], hook := some (.setFlag .virtual) },
    { title := "access", hook := some .access, propertyHook := some (.access none) },
    { title := "alias", hook := some (.setText .aliasName) },
    { title := "augments", synonyms := ["extends"], hook := some .augments },
    { title := "borrows", hook := some .borrows },
    { title := "callback", form := typedAndNamed, hook := some (.declare "typedef" false) },
    { title := "class", synonyms := ["constructor"], form := typedAndNamed
      hook := some (.declare "class" false) },
    { title := "classdesc", hook := some (.setText .classdesc) },
    { title := "constant", synonyms := ["const"], form := typedAndNamed
      hook := some (.declare "constant" true) },
    { title := "default", synonyms := ["defaultvalue"], hook := some .default },
    { title := "deprecated", hook := some .deprecated },
    { title := "description", synonyms := ["desc"] },
    { title := "enum", form := typed, hook := some .enum },
    { title := "event", form := named, isNamespace := true, hook := some (.declare "event" false) },
    { title := "example", keepsBlanks := true, dropsIndent := true
      hook := some (.appendText .examples) },
    { title := "external", synonyms := ["host"], form := typedAndNamed, isNamespace := true
      hook := some (.declare "external" false) },
    { title := "function", synonyms := ["func", "method"], form := named
      hook := some (.declare "function" false) },
    { title := "global", hook := some .global },
    { title := "ignore", hook := some (.setFlag .ignore) },
    { title := "implements", hook := some .implements },
    { title := "inner", hook := some (.setScope "inner") },
    { title := "instance", hook := some (.setScope "instance") },
    { title := "interface", form := named, hook := some (.declare "interface" false) },
    { title := "kind" },
    { title := "member", synonyms := ["var"], form := typedAndNamed
      hook := some (.declare "member" true) },
    { title := "memberof", hook := some .memberof },
    { title := "mixes", hook := some .mixes },
    { title := "mixin", form := named, hook := some (.declare "mixin" false) },
    { title := "module", form := typedAndNamed, isNamespace := true
      hook := some (.declare "module" true) },
    { title := "name" },
    { title := "namespace", form := typedAndNamed, hook := some (.declare "namespace" true) },
    { title := "param", synonyms := ["arg", "argument"], form := typedAndNamed
      hook := some .param },
    { title := "private", hook := some (.setAccess "private") },
    { title := "property", synonyms := ["prop"], form := typedAndNamed, hook := some .property },
    { title := "protected", hook := some (.setAccess "protected")
      propertyHook := some (.access (some "protected")) },
    { title := "public", hook := some (.setAccess "public") },
    { title := "readonly", hook := some (.setFlag .readonly), propertyHook := some .readonly },
    { title := "returns", synonyms := ["return"], form := typed, hook := some .returns },
    { title := "see", hook := some (.appendText .see) },
    { title := "since", hook := some (.setText .since) },
    { title := "sort" },
    { title := "static", hook := some (.setScope "static") },
    { title := "summary", hook := some (.setText .summary) },
    { title := "this", hook := some (.setText .this) },
    { title := "throws", synonyms := ["exception"], form := typed, hook := some .throws },
    { title := "todo", hook := some (.appendText .todo) },
    { title := "type", form := { type := true, bareType := true }, hook := some .type
      propertyHook := some .type },
    { title := "typedef", form := typedAndNamed, hook := some (.declare "typedef" true) },
    { title := "variation", hook := some (.setText .variation) },
    { title := "version", hook := some (.setText .version) }]

/-- No two of the standard definitions share a name, so all of them count. -/
def standard : Dictionary := standardDefinitions.foldl put {}

end DocComment.Dictionary
