import TypedGraphQL.Proofs.Introspection.ReferenceRecord
import TypedGraphQL.Proofs.Introspection.Relevant
import TypedGraphQL.Proofs.Introspection.Writer

namespace TypedGraphQL.Introspection

section Records

def keptMember (keep : Option (Json → Json)) (value : Option Json) : Option Json :=
  match keep with
  | some kept => value.map kept
  | none => none

@[simp]
theorem keptMember_some (kept : Json → Json) (value : Option Json) :
    keptMember (some kept) value = value.map kept :=
  rfl

@[simp]
theorem keptMember_none (value : Option Json) : keptMember none value = none :=
  rfl

variable (keys : List String) (keep : String → Option (Json → Json))

def keptEntry (entry : String × Json) : Option (String × Json) :=
  if entry.1 ∈ keys then
    (keep entry.1).map fun kept => (entry.1, kept entry.2)
  else none

/-- What is kept under the known keys, which also members given by position get. -/
def keptRecord : Json → Json
  | .object entries => .object (entries.filterMap (keptEntry keys keep))
  | .array items => .object ((keys.zip items).filterMap (keptEntry keys keep))
  | node => node

variable {keys} {key : String} {entries : List (String × Json)}

theorem filter_keptEntry :
    (entries.filterMap (keptEntry keys keep)).filter (·.1 == key) =
      (entries.filter (·.1 == key)).filterMap (keptEntry keys keep) := by
  induction entries with
  | nil => rfl
  | cons entry entries ih =>
      cases found : keptEntry keys keep entry with
      | none => grind
      | some kept =>
          have same : kept.1 = entry.1 := by
            rw [keptEntry] at found
            split at found
            next =>
              obtain ⟨-, -, rfl⟩ := Option.map_eq_some_iff.mp found
              rfl
            next => cases found
          grind

theorem member?_keptEntry (known : key ∈ keys) {value : Option Json}
    (found : member? entries key = some value) :
    member? (entries.filterMap (keptEntry keys keep)) key =
      some (keptMember (keep key) value) := by
  rw [member?] at found
  rw [member?, filter_keptEntry]
  split at found
  next missing =>
    obtain rfl := Option.some.inj found
    rw [missing]
    cases keep key <;> rfl
  next other held alone =>
    obtain rfl := Option.some.inj found
    obtain rfl : other = key := by
      have member : (other, held) ∈ entries.filter (·.1 == key) := by
        simp [alone]
      exact eq_of_beq (List.mem_filter.mp member).2
    rw [alone]
    cases kept : keep other <;> simp [keptEntry, known, kept]
  next => cases found

theorem mapM_member?_keptEntry {chosen : List String}
    (known : ∀ key ∈ chosen, key ∈ keys) {values : List (Option Json)}
    (found : chosen.mapM (member? entries) = some values) :
    chosen.mapM (member? (entries.filterMap (keptEntry keys keep))) =
      some (List.zipWith (fun key => keptMember (keep key)) chosen values) := by
  induction chosen generalizing values with
  | nil => rfl
  | cons key chosen ih =>
      rw [List.forall_mem_cons] at known
      simp only [List.mapM_cons, Option.pure_def, Option.bind_eq_bind,
        Option.bind_eq_some_iff, Option.some.injEq] at found
      obtain ⟨value, first, rest, others, rfl⟩ := found
      rw [List.mapM_cons, member?_keptEntry keep known.1 first, ih known.2 others]
      rfl

theorem members?_keptRecord (distinct : keys.Nodup) {node : Json}
    {values : List (Option Json)} (found : members? keys node = some values) :
    members? keys (keptRecord keys keep node) =
      some (List.zipWith (fun key => keptMember (keep key)) keys values) := by
  cases node with
  | object entries => exact mapM_member?_keptEntry keep (fun _ => id) found
  | array items =>
      rw [members?] at found
      split at found
      next complete =>
        obtain rfl := Option.some.inj found
        exact mapM_member?_keptEntry keep (fun _ => id)
          (members?_record complete.symm distinct)
      next => cases found
  | null | bool | number | string => cases found

end Records

def kindIn? (keys : List String) (node : Json) : Option Kind := do
  let values ← members? keys node
  Kind.ofJson? (← values.head?.join)

/-- What is kept is read as what is relevant. -/
def Keeps {α : Type} (read : Json → Option α) (kept : Json → Json)
    (relevant : α → α) : Prop :=
  ∀ node value, read node = some value → read (kept node) = some (relevant value)

/-! References -/

namespace Reference

def isAround (node : Json) : Bool :=
  (kindIn? keys node).any Kind.wraps

mutual
/-- Of a wrapper what it is around, and of any other reference its name. -/
def kept : Json → Json
  | .object entries =>
    .object (keptEntries (isAround (.object entries)) entries)
  | .array [kind, name, ofType] =>
    .object
      (if isAround (.array [kind, name, ofType]) then
        [("kind", kind), ("ofType", kept ofType)]
      else [("kind", kind), ("name", name)])
  | node => node

def keptEntries (around : Bool) : List (String × Json) → List (String × Json)
  | [] => []
  | (key, value) :: rest =>
    if key = "kind" then (key, value) :: keptEntries around rest
    else if key = "ofType" then
      if around then (key, kept value) :: keptEntries around rest
      else keptEntries around rest
    else if key = "name" then
      if around then keptEntries around rest
      else (key, value) :: keptEntries around rest
    else keptEntries around rest
end

def keptPart (around : Bool) (key : String) : Option (Json → Json) :=
  if key = "kind" then some id
  else if key = "ofType" then if around then some kept else none
  else if around then none else some id

theorem keptEntries_eq (around : Bool) (entries : List (String × Json)) :
    keptEntries around entries =
      entries.filterMap (keptEntry keys (keptPart around)) := by
  induction entries with
  | nil => simp [keptEntries]
  | cons entry entries ih =>
      obtain ⟨key, value⟩ := entry
      rw [keptEntries, ih]
      split
      next isKind => simp [keptEntry, keptPart, keys, isKind]
      next notKind =>
        split
        next isOfType =>
          cases around <;> simp [keptEntry, keptPart, keys, isOfType]
        next notOfType =>
          split
          next isName => cases around <;> simp [keptEntry, keptPart, keys, isName]
          next notName => simp [keptEntry, keys, notKind, notOfType, notName]

theorem kept_eq {node : Json} {values : List (Option Json)}
    (members : members? keys node = some values) :
    kept node = keptRecord keys (keptPart (isAround node)) node := by
  cases node with
  | object entries => rw [kept, keptEntries_eq, keptRecord]
  | array items =>
      match items with
      | [kind, name, ofType] =>
          rw [kept]
          cases isAround (.array [kind, name, ofType]) <;>
            simp [keptRecord, keptEntry, keptPart, keys]
      | [] | [_] | [_, _] | _ :: _ :: _ :: _ :: _ =>
          simp [members?, keys] at members
  | null | bool | number | string => cases members

theorem relevant_ofMembers (kind : Kind) (name : Option String)
    (found : Option Reference) :
    (ofMembers kind name found).relevant =
      if kind.wraps then ofMembers kind none (found.map relevant)
      else ofMembers kind name none := by
  cases found <;> cases wraps : kind.wraps <;> simp [ofMembers, relevant, wraps]

theorem inner?_kept {ofType : Option Json} {found : Option Reference}
    (read : inner? ofType = some found)
    (each : ∀ {node reference}, found = some reference →
      ofJson? node = some reference →
        ofJson? (kept node) = some reference.relevant) :
    inner? (ofType.map kept) = some (found.map relevant) := by
  cases ofType with
  | none =>
      obtain rfl := Option.some.inj read
      rfl
  | some node =>
      refine optional?_eq_some_iff.mpr ?_
      obtain ⟨rfl, rfl⟩ | ⟨reference, innerRead, rfl⟩ :=
        optional?_eq_some_iff.mp read
      · exact .inl ⟨by simp [kept], rfl⟩
      · exact .inr ⟨reference.relevant, each rfl innerRead, rfl⟩

theorem ofJson?_kept_of_inner {node kind : Json} {name ofType : Option Json}
    {foundKind : Kind} {foundName : Option String} {found : Option Reference}
    (members : members? keys node = some [some kind, name, ofType])
    (kindRead : Kind.ofJson? kind = some foundKind)
    (nameRead : optionalText? name = some foundName)
    (innerRead : inner? (ofType.map kept) = some (found.map relevant)) :
    ofJson? (kept node) = some (ofMembers foundKind foundName found).relevant := by
  have around : isAround node = foundKind.wraps := by
    simp [isAround, kindIn?, members, kindRead]
  have keptMembers :=
    members?_keptRecord (keptPart foundKind.wraps) (by decide) members
  rw [kept_eq members, around, ofJson?_eq_some_iff, relevant_ofMembers]
  generalize foundKind.wraps = around at keptMembers ⊢
  cases around with
  | true =>
      refine ⟨kind, none, ofType.map kept, foundKind, none, _, ?_, kindRead, rfl,
        innerRead, rfl⟩
      simpa [keptPart, keys] using keptMembers
  | false =>
      refine ⟨kind, name, none, foundKind, foundName, none, ?_, kindRead, nameRead,
        rfl, rfl⟩
      simpa [keptPart, keys] using keptMembers

theorem ofJson?_kept : Keeps ofJson? kept relevant := by
  intro node reference read
  induction reference generalizing node with
  | bare kind name =>
      obtain ⟨_, _, ofType, _, _, found, members, kindRead, nameRead, innerRead,
        made⟩ := ofJson?_eq_some_iff.mp read
      rw [← made]
      refine ofJson?_kept_of_inner members kindRead nameRead
        (inner?_kept innerRead fun same _ => ?_)
      rw [same] at made
      cases made
  | wrapping kind name inner ih =>
      obtain ⟨_, _, ofType, _, _, found, members, kindRead, nameRead, innerRead,
        made⟩ := ofJson?_eq_some_iff.mp read
      rw [← made]
      refine ofJson?_kept_of_inner members kindRead nameRead
        (inner?_kept innerRead fun same ofTypeRead => ?_)
      rw [same] at made
      obtain ⟨rfl, rfl, rfl⟩ := Reference.wrapping.inj made
      exact ih _ ofTypeRead

end Reference

def keptItems (kept : Json → Json) : Json → Json
  | .array items => .array (items.map kept)
  | node => node

section Lists

variable {α : Type} {read : Json → Option α} {kept : Json → Json}
  {relevant : α → α}

theorem mapM_filter_kept (keeps : Keeps read kept relevant) {test : Json → Bool}
    {own : α → Bool}
    (same : ∀ node value, read node = some value → test node = own value)
    {items : List Json} {values : List α}
    (itemsRead : items.mapM read = some values) :
    ((items.filter test).map kept).mapM read =
      some ((values.filter own).map relevant) := by
  induction items generalizing values with
  | nil =>
      obtain rfl := Option.some.inj itemsRead
      rfl
  | cons item items ih =>
      simp only [List.mapM_cons, Option.pure_def, Option.bind_eq_bind,
        Option.bind_eq_some_iff, Option.some.injEq] at itemsRead
      obtain ⟨value, itemRead, rest, restRead, rfl⟩ := itemsRead
      have itemKept := keeps _ _ itemRead
      have itemSame := same _ _ itemRead
      have restKept := ih restRead
      cases isOwn : own value <;> simp [itemSame, isOwn, itemKept, restKept]

theorem list?_keptItems (keeps : Keeps read kept relevant) :
    Keeps (list? read) (keptItems kept) (List.map relevant) := by
  intro node values listRead
  cases node with
  | array items =>
      rw [list?] at listRead
      have all := mapM_filter_kept keeps (fun _ _ _ => @rfl Bool true) listRead
      rwa [List.filter_eq_self.mpr fun _ _ => rfl,
        List.filter_eq_self.mpr fun _ _ => rfl] at all
  | null | bool | number | string | object => cases listRead

theorem listOrMissing?_keptItems (keeps : Keeps read kept relevant)
    {given : Option Json} {values : List α}
    (listRead : listOrMissing? read given = some values) :
    listOrMissing? read (given.map (keptItems kept)) =
      some (values.map relevant) := by
  cases given with
  | none =>
      obtain rfl := Option.some.inj listRead
      rfl
  | some node => exact list?_keptItems keeps node values listRead

theorem optionalList?_keptItems (keeps : Keeps read kept relevant)
    {given : Option Json} {values : List α}
    (listRead : optionalList? read given = some values) :
    optionalList? read (given.map (keptItems kept)) =
      some (values.map relevant) := by
  cases given with
  | none =>
      obtain rfl := Option.some.inj listRead
      rfl
  | some node =>
      cases node with
      | null =>
          obtain rfl := Option.some.inj listRead
          rfl
      | array items => exact list?_keptItems keeps (.array items) values listRead
      | bool | number | string | object => cases listRead

theorem optionalList?_own (key : String) (kind : Kind)
    (keeps : Keeps read kept relevant) {given : Option Json} {values : List α}
    (listRead : optionalList? read given = some values) :
    optionalList? read
        (keptMember (if key ∈ kind.lists then some (keptItems kept) else none)
          given) =
      some (kind.own key (values.map relevant)) := by
  rw [Kind.own]
  split
  next => exact optionalList?_keptItems keeps listRead
  next => rfl

end Lists

def keptEnumValue : Json → Json :=
  keptRecord ["name", "description", "isDeprecated", "deprecationReason"]
    fun _ => some id

theorem enumValue?_kept : Keeps enumValue? keptEnumValue id := by
  intro node value read
  obtain ⟨values, members, read⟩ := Option.bind_eq_some_iff.mp read
  have keptMembers := members?_keptRecord (fun _ => some id) (by decide) members
  split at read
  next name description isDeprecated reason =>
    rw [enumValue?, keptEnumValue, keptMembers]
    simpa using read
  next => cases read

namespace InputValue

def keptPart (key : String) : Option (Json → Json) :=
  some (if key = "type" then Reference.kept else id)

def kept : Json → Json :=
  keptRecord
    ["name", "description", "type", "defaultValue", "isDeprecated",
      "deprecationReason"]
    keptPart

theorem inputValue?_kept : Keeps inputValue? kept relevant := by
  intro node value read
  obtain ⟨values, members, read⟩ := Option.bind_eq_some_iff.mp read
  have keptMembers := members?_keptRecord keptPart (by decide) members
  split at read
  next name description type defaultValue isDeprecated reason =>
    obtain ⟨member, memberRead, read⟩ := Option.bind_eq_some_iff.mp read
    obtain ⟨reference, typeRead, read⟩ := Option.bind_eq_some_iff.mp read
    obtain ⟨default, defaultRead, made⟩ := Option.bind_eq_some_iff.mp read
    obtain ⟨typeNode, rfl, typeRead⟩ := Option.bind_eq_some_iff.mp typeRead
    obtain rfl := Option.some.inj made
    rw [inputValue?, kept, keptMembers]
    simp [keptPart, memberRead, Reference.ofJson?_kept _ _ typeRead, defaultRead,
      relevant]
  next => cases read

end InputValue

namespace Field

def keptPart (key : String) : Option (Json → Json) :=
  if key = "type" then some Reference.kept
  else if key = "args" then some (keptItems InputValue.kept)
  else some id

def kept : Json → Json :=
  keptRecord
    ["name", "description", "args", "type", "isDeprecated", "deprecationReason"]
    keptPart

theorem field?_kept : Keeps field? kept relevant := by
  intro node value read
  obtain ⟨values, members, read⟩ := Option.bind_eq_some_iff.mp read
  have keptMembers := members?_keptRecord keptPart (by decide) members
  split at read
  next name description arguments type isDeprecated reason =>
    obtain ⟨member, memberRead, read⟩ := Option.bind_eq_some_iff.mp read
    obtain ⟨reference, typeRead, read⟩ := Option.bind_eq_some_iff.mp read
    obtain ⟨values, argumentsRead, made⟩ := Option.bind_eq_some_iff.mp read
    obtain ⟨typeNode, rfl, typeRead⟩ := Option.bind_eq_some_iff.mp typeRead
    obtain rfl := Option.some.inj made
    have argumentsKept :=
      listOrMissing?_keptItems InputValue.inputValue?_kept argumentsRead
    rw [field?, kept, keptMembers]
    simp [keptPart, memberRead, Reference.ofJson?_kept _ _ typeRead,
      argumentsKept, relevant]
  next => cases read

end Field

namespace FullType

def keys : List String :=
  ["kind", "name", "description", "fields", "inputFields", "interfaces",
    "enumValues", "possibleTypes"]

def keptItem (key : String) : Json → Json :=
  if key = "fields" then Field.kept
  else if key = "inputFields" then InputValue.kept
  else if key = "enumValues" then keptEnumValue
  else Reference.kept

/-- The lists of the kind, and all that is no list. -/
def keptPart (kind : Option Kind) (key : String) : Option (Json → Json) :=
  if key ∈ ["kind", "name", "description"] then some id
  else if key ∈ kind.elim [] Kind.lists then some (keptItems (keptItem key))
  else none

def kept (node : Json) : Json :=
  keptRecord keys (keptPart (kindIn? keys node)) node

theorem fullType?_cases {node : Json} {type : FullType}
    (read : fullType? node = some type) :
    ∃ kind name description fields inputFields interfaces values possibleTypes,
      members? keys node =
          some [some kind, name, description, fields, inputFields, interfaces,
            values, possibleTypes] ∧
        Kind.ofJson? kind = some type.kind ∧ text? name = some type.name ∧
        optionalText? description = some type.description ∧
        optionalList? field? fields = some type.fields ∧
        optionalList? inputValue? inputFields = some type.inputFields ∧
        optionalList? Reference.ofJson? interfaces = some type.interfaces ∧
        optionalList? enumValue? values = some type.enumValues ∧
        optionalList? Reference.ofJson? possibleTypes =
          some type.possibleTypes := by
  obtain ⟨values, members, read⟩ := Option.bind_eq_some_iff.mp read
  split at read
  next kind name description fields inputFields interfaces values possibleTypes =>
    obtain ⟨foundKind, kindRead, read⟩ := Option.bind_eq_some_iff.mp read
    obtain ⟨foundName, nameRead, read⟩ := Option.bind_eq_some_iff.mp read
    obtain ⟨text, textRead, read⟩ := Option.bind_eq_some_iff.mp read
    obtain ⟨foundFields, fieldsRead, read⟩ := Option.bind_eq_some_iff.mp read
    obtain ⟨foundInputs, inputsRead, read⟩ := Option.bind_eq_some_iff.mp read
    obtain ⟨foundInterfaces, interfacesRead, read⟩ :=
      Option.bind_eq_some_iff.mp read
    obtain ⟨foundValues, valuesRead, read⟩ := Option.bind_eq_some_iff.mp read
    obtain ⟨foundPossible, possibleRead, made⟩ := Option.bind_eq_some_iff.mp read
    obtain rfl := Option.some.inj made
    obtain ⟨kindNode, rfl, kindRead⟩ := Option.bind_eq_some_iff.mp kindRead
    exact ⟨_, _, _, _, _, _, _, _, members, kindRead, nameRead, textRead,
      fieldsRead, inputsRead, interfacesRead, valuesRead, possibleRead⟩
  next => cases read

theorem fullType?_kept : Keeps fullType? kept relevant := by
  intro node type read
  obtain ⟨kind, name, description, fields, inputFields, interfaces, values,
    possibleTypes, members, kindRead, nameRead, textRead, fieldsRead, inputsRead,
    interfacesRead, valuesRead, possibleRead⟩ := fullType?_cases read
  have kindFound : kindIn? keys node = some type.kind := by
    simp [kindIn?, members, kindRead]
  have keptMembers :=
    members?_keptRecord (keptPart (some type.kind)) (by decide) members
  have fieldsKept := optionalList?_own "fields" type.kind Field.field?_kept fieldsRead
  have inputsKept :=
    optionalList?_own "inputFields" type.kind InputValue.inputValue?_kept inputsRead
  have interfacesKept :=
    optionalList?_own "interfaces" type.kind Reference.ofJson?_kept interfacesRead
  have valuesKept :=
    optionalList?_own "enumValues" type.kind enumValue?_kept valuesRead
  have possibleKept :=
    optionalList?_own "possibleTypes" type.kind Reference.ofJson?_kept possibleRead
  rw [keys] at keptMembers
  rw [fullType?, kept, kindFound, keys, keptMembers]
  simp [keptPart, keptItem, kindRead, nameRead, textRead, fieldsKept, inputsKept,
    interfacesKept, valuesKept, possibleKept, relevant]

def nameIn? (node : Json) : Option String := do
  let values ← members? keys node
  text? (← values[1]?)

def isMetaRecord (node : Json) : Bool :=
  (nameIn? node).any fun name => ['_', '_'].isPrefixOf name.toList

theorem isMetaRecord_of_fullType? {node : Json} {type : FullType}
    (read : fullType? node = some type) : isMetaRecord node = type.isMeta := by
  obtain ⟨kind, name, _, _, _, _, _, _, members, -, nameRead, -⟩ :=
    fullType?_cases read
  have named : nameIn? node = some type.name := by
    simp [nameIn?, members, nameRead]
  rw [isMetaRecord, named, Option.any_some, isMeta]

end FullType

def keptTypes : Json → Json
  | .array items =>
    .array ((items.filter (!FullType.isMetaRecord ·)).map FullType.kept)
  | node => node

theorem list?_keptTypes {node : Json} {types : List FullType}
    (read : list? fullType? node = some types) :
    list? fullType? (keptTypes node) =
      some ((types.filter (!·.isMeta)).map FullType.relevant) := by
  cases node with
  | array items =>
      rw [list?] at read
      rw [keptTypes, list?]
      refine mapM_filter_kept FullType.fullType?_kept (fun item type itemRead => ?_)
        read
      rw [FullType.isMetaRecord_of_fullType? itemRead]
  | null | bool | number | string | object => cases read

def keptRoot : Json → Json :=
  keptRecord ["name"] fun _ => some id

theorem rootName?_keptRoot {given : Option Json} {name : Option String}
    (read : rootName? given = some name) :
    rootName? (given.map keptRoot) = some name := by
  cases given with
  | none => exact read
  | some node =>
      cases node with
      | null => exact read
      | bool | number | string => cases read
      | array | object =>
          obtain ⟨values, members, read⟩ := Option.bind_eq_some_iff.mp read
          have keptMembers :=
            members?_keptRecord (fun _ => some id) (by decide) members
          change members? ["name"] (keptRecord _ (fun _ => some id) _) >>= _ = _
          rw [keptMembers]
          split at read
          next => simpa using read
          next => cases read

def keptSchemaPart (key : String) : Option (Json → Json) :=
  some (if key = "types" then keptTypes else keptRoot)

def keptSchema : Json → Json :=
  keptRecord ["queryType", "mutationType", "subscriptionType", "types"]
    keptSchemaPart

theorem schema?_keptSchema : Keeps schema? keptSchema Document.relevant := by
  intro node document read
  obtain ⟨values, members, read⟩ := Option.bind_eq_some_iff.mp read
  have keptMembers := members?_keptRecord keptSchemaPart (by decide) members
  split at read
  next query mutation subscription types =>
    obtain ⟨queryName, queryRead, read⟩ := Option.bind_eq_some_iff.mp read
    obtain ⟨mutationName, mutationRead, read⟩ := Option.bind_eq_some_iff.mp read
    obtain ⟨subscriptionName, subscriptionRead, read⟩ :=
      Option.bind_eq_some_iff.mp read
    obtain ⟨foundTypes, typesRead, made⟩ := Option.bind_eq_some_iff.mp read
    obtain ⟨typesNode, rfl, typesRead⟩ := Option.bind_eq_some_iff.mp typesRead
    obtain rfl := Option.some.inj made
    rw [schema?, keptSchema, keptMembers]
    simp [keptSchemaPart, rootName?_keptRoot queryRead,
      rootName?_keptRoot mutationRead, rootName?_keptRoot subscriptionRead,
      list?_keptTypes typesRead, Document.relevant]
  next => cases read

def keptHolder : Json → Json :=
  keptRecord ["__schema"] fun _ => some keptSchema

theorem holder?_keptHolder : Keeps holder? keptHolder Document.relevant := by
  intro node document read
  obtain ⟨values, members, read⟩ := Option.bind_eq_some_iff.mp read
  have keptMembers :=
    members?_keptRecord (fun _ => some keptSchema) (by decide) members
  split at read
  next schema =>
    obtain ⟨schemaNode, rfl, read⟩ := Option.bind_eq_some_iff.mp read
    rw [holder?, keptHolder, keptMembers]
    simpa using schema?_keptSchema _ _ read
  next => cases read

namespace Document

def holder : Json → Json
  | .object entries =>
    match member? entries "data" with
    | some (some data) =>
      if (holder? data).isSome then data else .object entries
    | _ => .object entries
  | node => node

theorem holder?_holder (node : Json) : holder? (holder node) = ofJson? node := by
  cases node with
  | object entries =>
      rw [ofJson?, envelope?, holder]
      cases member? entries "data" with
      | none => rfl
      | some data =>
          cases data with
          | none => rfl
          | some data => cases found : holder? data <;> simp [found]
  | null | bool | number | string | array => rfl

def kept (node : Json) : Json :=
  keptHolder (holder node)

theorem holder?_kept {node : Json} {document : Document}
    (read : ofJson? node = some document) :
    holder? (kept node) = some document.relevant := by
  rw [← holder?_holder] at read
  exact holder?_keptHolder _ _ read

end Document

end TypedGraphQL.Introspection
