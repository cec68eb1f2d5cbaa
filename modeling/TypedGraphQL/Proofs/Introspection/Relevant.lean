import TypedGraphQL.Introspection.Schema

namespace TypedGraphQL.Introspection

namespace Kind

/-- Kinds of references that stand around another one. -/
def wraps : Kind → Bool
  | list | nonNull => true
  | scalar | object | interface | union | enum | inputObject => false

def lists : Kind → List String
  | object => ["fields", "interfaces"]
  | interface => ["fields", "possibleTypes"]
  | union => ["possibleTypes"]
  | enum => ["enumValues"]
  | inputObject => ["inputFields"]
  | scalar | list | nonNull => []

/-- A list under its key, empty if it is none of the kind's. -/
def own {α : Type} (kind : Kind) (key : String) (items : List α) : List α :=
  if key ∈ kind.lists then items else []

end Kind

namespace Reference

def relevant : Reference → Reference
  | bare kind name => bare kind (if kind.wraps then none else name)
  | wrapping kind name ofType =>
    if kind.wraps then wrapping kind none ofType.relevant else bare kind name

@[simp]
theorem kind_relevant (reference : Reference) :
    reference.relevant.kind = reference.kind := by
  cases reference with
  | bare kind name => rfl
  | wrapping kind name ofType =>
      rw [relevant]
      split <;> rfl

@[simp]
theorem typeRef_relevant (reference : Reference) :
    reference.relevant.typeRef = reference.typeRef := by
  induction reference with
  | bare kind name => cases kind <;> rfl
  | wrapping kind name ofType ih =>
      cases kind <;> cases name <;> simp [relevant, Kind.wraps, typeRef, ih]

@[simp]
theorem memberName_relevant (reference : Reference) :
    reference.relevant.memberName = reference.memberName := by
  rw [memberName, typeRef_relevant, memberName]

end Reference

theorem mapM_map_eq {α β : Type} {convert : α → Except ReferenceFault β}
    {change : α → α} (same : ∀ item, convert (change item) = convert item)
    (items : List α) : (items.map change).mapM convert = items.mapM convert := by
  induction items with
  | nil => rfl
  | cons item items ih => rw [List.map_cons, List.mapM_cons, List.mapM_cons, same, ih]

def InputValue.relevant (value : InputValue) : InputValue :=
  { value with type := value.type.relevant }

@[simp]
theorem InputValue.convert_relevant (value : InputValue) :
    value.relevant.convert = value.convert := by
  rw [convert, relevant, Reference.typeRef_relevant, convert]

def Field.relevant (field : Field) : Field :=
  { field with
    type := field.type.relevant
    arguments := field.arguments.map InputValue.relevant }

@[simp]
theorem Field.convert_relevant (field : Field) :
    field.relevant.convert = field.convert := by
  rw [convert, relevant, Reference.typeRef_relevant,
    mapM_map_eq InputValue.convert_relevant, convert]

namespace FullType

def relevant (type : FullType) : FullType :=
  { type with
    fields := type.kind.own "fields" (type.fields.map Field.relevant)
    inputFields :=
      type.kind.own "inputFields" (type.inputFields.map InputValue.relevant)
    interfaces :=
      type.kind.own "interfaces" (type.interfaces.map Reference.relevant)
    enumValues := type.kind.own "enumValues" type.enumValues
    possibleTypes :=
      type.kind.own "possibleTypes" (type.possibleTypes.map Reference.relevant) }

theorem body_relevant (type : FullType) : type.relevant.body = type.body := by
  obtain ⟨kind, name, description, fields, inputFields, interfaces, values,
    possibleTypes⟩ := type
  have fieldsSame := mapM_map_eq Field.convert_relevant fields
  have inputsSame := mapM_map_eq InputValue.convert_relevant inputFields
  have interfacesSame := mapM_map_eq Reference.memberName_relevant interfaces
  have possibleSame := mapM_map_eq Reference.memberName_relevant possibleTypes
  cases kind <;>
    simp [body, relevant, Kind.own, Kind.lists, fieldsSame, inputsSame,
      interfacesSame, possibleSame]

theorem convert_relevant (type : FullType) :
    type.relevant.convert = type.convert := by
  rw [convert, body_relevant]
  rfl

end FullType

namespace Document

def relevant (document : Document) : Document :=
  { document with
    types := (document.types.filter (!·.isMeta)).map FullType.relevant }

/-- Nothing else in a document matters, for its schema or for what is refused. -/
theorem schema_relevant (document : Document) :
    document.relevant.schema = document.schema := by
  have keptOnce : document.relevant.types.filter (!·.isMeta) =
      document.relevant.types := by
    refine List.filter_eq_self.mpr (List.forall_mem_map.mpr fun type member => ?_)
    exact (List.mem_filter.mp member).2
  have converted := mapM_map_eq FullType.convert_relevant
    (document.types.filter (!·.isMeta))
  rw [schema, keptOnce, schema, relevant, converted]

end Document

end TypedGraphQL.Introspection
