import TypedGraphQL.Introspection.Document
import TypedGraphQL.Json.Reader
import TypedGraphQL.Schema.Resolved

namespace TypedGraphQL.Introspection

def Reference.typeRef : Reference → Except ReferenceFault TypeRef
  | .wrapping .nonNull _ ofType =>
    if ofType.kind = .nonNull then .error .nestedNonNull
    else ofType.typeRef.map .nonNull
  | .wrapping .list _ ofType => ofType.typeRef.map .list
  | .bare .nonNull _ => .error (.wrapsNothing Kind.nonNull.name)
  | .bare .list _ => .error (.wrapsNothing Kind.list.name)
  | .bare _ (some name) | .wrapping _ (some name) _ => .ok (.named name)
  | .bare _ none | .wrapping _ none _ => .error .unnamed

def Reference.memberName (reference : Reference) : Except ReferenceFault String := do
  match ← reference.typeRef with
  | .named name => return name
  | other => .error (.wrappedMember other.baseName)

def withoutStrayReason (member : Member) : Member :=
  { member with
    deprecationReason :=
      if member.isDeprecated then member.deprecationReason else none }

def InputValue.convert (value : InputValue) :
    Except ReferenceFault TypedGraphQL.InputValue := do
  return {
    toMember := withoutStrayReason value.toMember
    type := ← value.type.typeRef
    defaultValue := value.defaultValue }

def Field.convert (field : Field) : Except ReferenceFault TypedGraphQL.Field := do
  return {
    toMember := withoutStrayReason field.toMember
    type := ← field.type.typeRef
    arguments := ← field.arguments.mapM InputValue.convert }

def FullType.body (type : FullType) : Except ReferenceFault TypeBody := do
  match type.kind with
  | .scalar => return .scalar
  | .object =>
    return .object (← type.fields.mapM Field.convert)
      (← type.interfaces.mapM Reference.memberName)
  | .interface =>
    return .interface (← type.fields.mapM Field.convert)
      (← type.possibleTypes.mapM Reference.memberName)
  | .union => return .union (← type.possibleTypes.mapM Reference.memberName)
  | .enum => return .enum (type.enumValues.map withoutStrayReason)
  | .inputObject => return .inputObject (← type.inputFields.mapM InputValue.convert)
  | .list | .nonNull => .error (.declaredWrapper type.name)

def FullType.convert (type : FullType) : Except ReferenceFault NamedType := do
  return ⟨type.name, type.description, ← type.body⟩

def FullType.isMeta (type : FullType) : Bool :=
  ['_', '_'].isPrefixOf type.name.toList

def Document.schema (document : Document) : Except SchemaError Schema :=
  match (document.types.filter (!·.isMeta)).mapM FullType.convert with
  | .ok types => Schema.resolve types document.roots
  | .error fault => .error (.invalidReference fault)

def shapeMismatch : String :=
  "data did not match any variant of untagged enum Document"

/--
Reads the text of a document.  Faults of the syntax come first, then those of
the shape, then characters after the document.
-/
def Document.read (text : String) : Except SchemaError Document :=
  match Json.readPrefix text with
  | .error fault => .error (.json (fault.message text))
  | .ok (node, trailing) =>
    match Document.ofJson? node, trailing with
    | none, _ => .error (.json shapeMismatch)
    | some _, some fault => .error (.json (fault.message text))
    | some document, none => .ok document

end TypedGraphQL.Introspection

namespace TypedGraphQL

def Schema.parse (text : String) : Except SchemaError Schema := do
  (← Introspection.Document.read text).schema

end TypedGraphQL
