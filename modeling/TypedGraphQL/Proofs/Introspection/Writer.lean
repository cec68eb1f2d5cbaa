import TypedGraphQL.Introspection.Document
import TypedGraphQL.Proofs.Json.Written

namespace TypedGraphQL.Introspection

def record (keys : List String) (values : List Json) : Json :=
  .object (keys.zip values)

theorem filter_key_eq_nil {key : String} {entries : List (String × Json)}
    (missing : key ∉ entries.map Prod.fst) :
    entries.filter (·.1 == key) = [] := by
  rw [List.filter_eq_nil_iff]
  intro entry member found
  exact missing (List.mem_map.mpr ⟨entry, member, eq_of_beq found⟩)

theorem member?_of_unique {key : String} {value : Json}
    {before after : List (String × Json)}
    (notBefore : key ∉ before.map Prod.fst) (notAfter : key ∉ after.map Prod.fst) :
    member? (before ++ (key, value) :: after) key = some (some value) := by
  rw [member?, List.filter_append, List.filter_cons,
    filter_key_eq_nil notBefore, filter_key_eq_nil notAfter]
  simp

theorem member?_of_missing {key : String} {entries : List (String × Json)}
    (missing : key ∉ entries.map Prod.fst) :
    member? entries key = some none := by
  rw [member?, filter_key_eq_nil missing]

theorem mapM_member?_zip {keys : List String} {values : List Json}
    {before : List (String × Json)} (complete : keys.length = values.length)
    (distinct : (before.map Prod.fst ++ keys).Nodup) :
    keys.mapM (member? (before ++ keys.zip values)) =
      some (values.map some) := by
  induction keys generalizing values before with
  | nil =>
      rw [List.eq_nil_of_length_eq_zero complete.symm]
      rfl
  | cons key keys ih =>
      cases values with
      | nil => contradiction
      | cons value values =>
          have lengths : keys.length = values.length := by simpa using complete
          have others : (keys.zip values).map Prod.fst = keys :=
            List.map_fst_zip (by omega)
          have shifted : ((before ++ [(key, value)]).map Prod.fst ++ keys).Nodup := by
            simpa using distinct
          rw [List.nodup_append] at distinct
          obtain ⟨-, keysDistinct, apart⟩ := distinct
          have fresh := (List.nodup_cons.mp keysDistinct).1
          have first : member? (before ++ (key, value) :: keys.zip values) key =
              some (some value) := by
            apply member?_of_unique
            · exact fun member => apart _ member _ (List.mem_cons_self ..) rfl
            · rwa [others]
          have later := @ih values (before ++ [(key, value)]) lengths shifted
          rw [List.append_assoc, List.singleton_append] at later
          rw [List.zip_cons_cons, List.mapM_cons, first, later]
          rfl

theorem members?_record {keys : List String} {values : List Json}
    (complete : keys.length = values.length) (distinct : keys.Nodup) :
    members? keys (record keys values) = some (values.map some) :=
  @mapM_member?_zip keys values [] complete distinct

theorem mapM_map_eq_pure {m : Type → Type} [Monad m] [LawfulMonad m]
    {α β : Type} {write : α → β} {read : β → m α} {items : List α}
    (each : ∀ item ∈ items, read (write item) = pure item) :
    (items.map write).mapM read = pure items := by
  induction items with
  | nil => rfl
  | cons item items ih =>
      rw [List.map_cons, List.mapM_cons, each item (by simp),
        ih fun other member => each other (by simp [member])]
      simp

def optionalText : Option String → Json
  | some text => .string text
  | none => .null

theorem optionalText?_optionalText (text : Option String) :
    optionalText? (some (optionalText text)) = some text := by
  cases text <;> rfl

namespace Reference

def toJson : Reference → Json
  | bare kind name =>
    record ["kind", "name", "ofType"]
      [.string kind.name, optionalText name, .null]
  | wrapping kind name ofType =>
    record ["kind", "name", "ofType"]
      [.string kind.name, optionalText name, ofType.toJson]

theorem ofJson?_name (kind : Kind) : Kind.ofJson? (.string kind.name) = some kind := by
  cases kind <;> rfl

theorem ofJson?_toJson (reference : Reference) :
    ofJson? reference.toJson = some reference := by
  induction reference with
  | bare kind name =>
      simp [toJson, record, ofJson?, ofEntries?, ofJson?_name, optional?,
        optionalText?_optionalText, ofMembers]
  | wrapping kind name ofType ih =>
      have given : optional? ofType.toJson = some (some ofType) := by
        rw [optional?, ih]
        · rfl
        · cases ofType <;> simp [toJson, record]
      simp [toJson, record, ofJson?, ofEntries?, ofJson?_name, given,
        optionalText?_optionalText, ofMembers]

end Reference

/-! Members and types -/

def enumValueJson (value : Member) : Json :=
  record ["name", "description", "isDeprecated", "deprecationReason"]
    [.string value.name, optionalText value.description,
      .bool value.isDeprecated, optionalText value.deprecationReason]

def InputValue.toJson (value : InputValue) : Json :=
  record
    ["name", "description", "type", "defaultValue", "isDeprecated",
      "deprecationReason"]
    [.string value.name, optionalText value.description, value.type.toJson,
      optionalText value.defaultValue, .bool value.isDeprecated,
      optionalText value.deprecationReason]

def Field.toJson (field : Field) : Json :=
  record
    ["name", "description", "args", "type", "isDeprecated",
      "deprecationReason"]
    [.string field.name, optionalText field.description,
      .array (field.arguments.map InputValue.toJson), field.type.toJson,
      .bool field.isDeprecated, optionalText field.deprecationReason]

theorem memberOf?_written (member : Member) :
    memberOf? (some (.string member.name))
        (some (optionalText member.description))
        (some (.bool member.isDeprecated))
        (some (optionalText member.deprecationReason)) = some member := by
  simp [memberOf?, text?, flag?, optionalText?_optionalText]

theorem enumValue?_enumValueJson (value : Member) :
    enumValue? (enumValueJson value) = some value := by
  have read := memberOf?_written value
  rw [enumValue?, enumValueJson, members?_record rfl (by decide)]
  simp [read]

theorem inputValue?_toJson (value : InputValue) :
    inputValue? value.toJson = some value := by
  have read := memberOf?_written value.toMember
  rw [inputValue?, InputValue.toJson, members?_record rfl (by decide)]
  simp [read, Reference.ofJson?_toJson, optionalText?_optionalText]

theorem field?_toJson (field : Field) : field? field.toJson = some field := by
  have read := memberOf?_written field.toMember
  have arguments := mapM_map_eq_pure fun argument
    (_ : argument ∈ field.arguments) => inputValue?_toJson argument
  rw [field?, Field.toJson, members?_record rfl (by decide)]
  simp [read, Reference.ofJson?_toJson, listOrMissing?, list?, arguments]

def ownList (kinds : List Kind) (kind : Kind) (items : List Json) : Json :=
  if kind ∈ kinds then .array items else .null

def FullType.toJson (type : FullType) : Json :=
  record
    ["kind", "name", "description", "fields", "inputFields", "interfaces",
      "enumValues", "possibleTypes"]
    [.string type.kind.name, .string type.name, optionalText type.description,
      ownList [.object, .interface] type.kind (type.fields.map Field.toJson),
      ownList [.inputObject] type.kind (type.inputFields.map InputValue.toJson),
      ownList [.object] type.kind (type.interfaces.map Reference.toJson),
      ownList [.enum] type.kind (type.enumValues.map enumValueJson),
      ownList [.interface, .union] type.kind
        (type.possibleTypes.map Reference.toJson)]

/-- The lists that a type's kind does not have are empty. -/
structure FullType.Proper (type : FullType) : Prop where
  fields : type.kind ∉ [.object, .interface] → type.fields = []
  inputFields : type.kind ∉ [.inputObject] → type.inputFields = []
  interfaces : type.kind ∉ [.object] → type.interfaces = []
  enumValues : type.kind ∉ [.enum] → type.enumValues = []
  possibleTypes : type.kind ∉ [.interface, .union] → type.possibleTypes = []

theorem optionalList?_ownList {α : Type} {kinds : List Kind} {kind : Kind}
    {write : α → Json} {read : Json → Option α} {items : List α}
    (proper : kind ∉ kinds → items = [])
    (each : ∀ item, read (write item) = some item) :
    optionalList? read (some (ownList kinds kind (items.map write))) =
      some items := by
  rw [ownList]
  split
  next =>
    rw [optionalList?, list?]
    · exact mapM_map_eq_pure fun item _ => each item
    · simp
  next notOwn =>
    rw [proper notOwn]
    rfl

theorem fullType?_toJson {type : FullType} (proper : type.Proper) :
    fullType? type.toJson = some type := by
  have fields := optionalList?_ownList proper.fields field?_toJson
  have inputFields :=
    optionalList?_ownList proper.inputFields inputValue?_toJson
  have interfaces :=
    optionalList?_ownList proper.interfaces Reference.ofJson?_toJson
  have enumValues :=
    optionalList?_ownList proper.enumValues enumValue?_enumValueJson
  have possibleTypes :=
    optionalList?_ownList proper.possibleTypes Reference.ofJson?_toJson
  rw [fullType?, FullType.toJson, members?_record rfl (by decide)]
  simp [Reference.ofJson?_name, text?, optionalText?_optionalText, fields,
    inputFields, interfaces, enumValues, possibleTypes]

/-! Documents -/

def rootJson : Option String → Json
  | some name => record ["name"] [.string name]
  | none => .null

theorem rootName?_rootJson (name : Option String) :
    rootName? (some (rootJson name)) = some name := by
  cases name with
  | none => rfl
  | some name => simp [rootJson, rootName?, record, members?, member?, text?]

def schemaJson (document : Document) : Json :=
  record ["queryType", "mutationType", "subscriptionType", "types"]
    [rootJson document.roots.query, rootJson document.roots.mutation,
      rootJson document.roots.subscription,
      .array (document.types.map FullType.toJson)]

/-- Where the schema is found: at the root or under a response's data. -/
inductive Envelope where
  | bare
  | response
deriving DecidableEq, Repr

def Envelope.wrap (holder : Json) : Envelope → Json
  | bare => holder
  | response => record ["data"] [holder]

def Document.toJson (envelope : Envelope) (document : Document) : Json :=
  envelope.wrap (record ["__schema"] [schemaJson document])

theorem schema?_schemaJson {document : Document}
    (proper : ∀ type ∈ document.types, type.Proper) :
    schema? (schemaJson document) = some document := by
  have types := mapM_map_eq_pure fun type (member : type ∈ document.types) =>
    fullType?_toJson (proper type member)
  rw [schema?, schemaJson, members?_record rfl (by decide)]
  simp [rootName?_rootJson, list?, types]

theorem Document.ofJson?_toJson (envelope : Envelope) {document : Document}
    (proper : ∀ type ∈ document.types, type.Proper) :
    ofJson? (document.toJson envelope) = some document := by
  have read := schema?_schemaJson proper
  have holder : holder? (record ["__schema"] [schemaJson document]) =
      some document := by
    rw [holder?, members?_record rfl (by decide)]
    simpa using read
  cases envelope with
  | bare =>
      have noData : envelope? (record ["__schema"] [schemaJson document]) =
          none := by
        simp [record, envelope?, member?]
      rw [ofJson?, toJson, Envelope.wrap, noData]
      exact holder
  | response =>
      have data (node : Json) : envelope? (record ["data"] [node]) =
          holder? node := by
        simp [record, envelope?, member?]
      rw [ofJson?, toJson, Envelope.wrap, data, holder]
      rfl

open Json (NumberFree)

theorem numberFree_array_map {α : Type} {write : α → Json} {items : List α}
    (each : ∀ item, (write item).NumberFree) :
    (Json.array (items.map write)).NumberFree := by
  rw [NumberFree, Json.itemsNumberFree_iff]
  simpa using fun item _ => each item

theorem numberFree_record {keys : List String} {values : List Json}
    (each : ∀ value ∈ values, value.NumberFree) :
    (record keys values).NumberFree := by
  rw [record, NumberFree, Json.entriesNumberFree_iff]
  intro entry member
  exact each entry.2 (List.of_mem_zip member).2

theorem numberFree_optionalText (text : Option String) :
    (optionalText text).NumberFree := by
  cases text <;> trivial

theorem Reference.numberFree_toJson (reference : Reference) :
    reference.toJson.NumberFree := by
  induction reference with
  | bare kind name =>
      apply numberFree_record
      simp [NumberFree, numberFree_optionalText]
  | wrapping kind name ofType ih =>
      apply numberFree_record
      simp [NumberFree, numberFree_optionalText, ih]

theorem numberFree_enumValueJson (value : Member) :
    (enumValueJson value).NumberFree := by
  apply numberFree_record
  simp [NumberFree, numberFree_optionalText]

theorem InputValue.numberFree_toJson (value : InputValue) :
    value.toJson.NumberFree := by
  apply numberFree_record
  simp [NumberFree, numberFree_optionalText, Reference.numberFree_toJson]

theorem Field.numberFree_toJson (field : Field) :
    field.toJson.NumberFree := by
  apply numberFree_record
  simp only [List.forall_mem_cons]
  exact ⟨trivial, numberFree_optionalText _,
    numberFree_array_map InputValue.numberFree_toJson,
    field.type.numberFree_toJson, trivial, numberFree_optionalText _, by simp⟩

theorem numberFree_ownList {α : Type} {kinds : List Kind} {kind : Kind}
    {write : α → Json} {items : List α}
    (each : ∀ item, (write item).NumberFree) :
    (ownList kinds kind (items.map write)).NumberFree := by
  rw [ownList]
  split
  · exact numberFree_array_map each
  · trivial

theorem FullType.numberFree_toJson (type : FullType) :
    type.toJson.NumberFree := by
  apply numberFree_record
  simp only [List.forall_mem_cons]
  exact ⟨trivial, trivial, numberFree_optionalText _,
    numberFree_ownList Field.numberFree_toJson,
    numberFree_ownList InputValue.numberFree_toJson,
    numberFree_ownList Reference.numberFree_toJson,
    numberFree_ownList numberFree_enumValueJson,
    numberFree_ownList Reference.numberFree_toJson, by simp⟩

theorem numberFree_rootJson (name : Option String) :
    (rootJson name).NumberFree := by
  cases name with
  | none => trivial
  | some name => exact numberFree_record (by simp [NumberFree])

theorem Document.numberFree_toJson (envelope : Envelope) (document : Document) :
    (document.toJson envelope).NumberFree := by
  have types := @numberFree_array_map _ _ document.types
    FullType.numberFree_toJson
  have schema : (schemaJson document).NumberFree := by
    apply numberFree_record
    simp [numberFree_rootJson, types]
  have holder : (record ["__schema"] [schemaJson document]).NumberFree :=
    numberFree_record (by simpa using schema)
  cases envelope with
  | bare => exact holder
  | response => exact numberFree_record (by simpa using holder)

end TypedGraphQL.Introspection
