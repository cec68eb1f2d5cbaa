import TypedGraphQL.Json.Basic
import TypedGraphQL.Schema.Basic

namespace TypedGraphQL.Introspection

inductive Kind where
  | scalar
  | object
  | interface
  | union
  | enum
  | inputObject
  | list
  | nonNull
deriving DecidableEq, Repr

/-- A reference as written, before its kind decides which parts count. -/
inductive Reference where
  | bare (kind : Kind) (name : Option String)
  | wrapping (kind : Kind) (name : Option String) (ofType : Reference)
deriving DecidableEq, Repr

structure InputValue extends Member where
  type : Reference
  defaultValue : Option String
deriving DecidableEq, Repr

structure Field extends Member where
  type : Reference
  arguments : List InputValue
deriving DecidableEq, Repr

structure FullType where
  kind : Kind
  name : String
  description : Option String
  fields : List Field
  inputFields : List InputValue
  interfaces : List Reference
  enumValues : List Member
  possibleTypes : List Reference
deriving DecidableEq, Repr

structure Document where
  roots : RootTypes
  types : List FullType
deriving DecidableEq, Repr

def member? (entries : List (String × Json)) (key : String) :
    Option (Option Json) :=
  match entries.filter (·.1 == key) with
  | [] => some none
  | [(_, value)] => some (some value)
  | _ => none

def members? (keys : List String) : Json → Option (List (Option Json))
  | .object entries => keys.mapM (member? entries)
  | .array items =>
    if items.length = keys.length then some (items.map some) else none
  | _ => none

def text? : Option Json → Option String
  | some (.string text) => some text
  | _ => none

def optionalText? : Option Json → Option (Option String)
  | none | some .null => some none
  | some (.string text) => some (some text)
  | some _ => none

def flag? : Option Json → Option Bool
  | none => some false
  | some (.bool value) => some value
  | some _ => none

def list? {α : Type} (read : Json → Option α) : Json → Option (List α)
  | .array items => items.mapM read
  | _ => none

def listOrMissing? {α : Type} (read : Json → Option α) :
    Option Json → Option (List α)
  | none => some []
  | some node => list? read node

def optionalList? {α : Type} (read : Json → Option α) :
    Option Json → Option (List α)
  | none | some .null => some []
  | some node => list? read node

namespace Kind

def name : Kind → String
  | scalar => "SCALAR"
  | object => "OBJECT"
  | interface => "INTERFACE"
  | union => "UNION"
  | enum => "ENUM"
  | inputObject => "INPUT_OBJECT"
  | list => "LIST"
  | nonNull => "NON_NULL"

def all : List Kind :=
  [scalar, object, interface, union, enum, inputObject, list, nonNull]

def ofName? (name : String) : Option Kind :=
  all.find? (·.name == name)

/-- A kind is its name, or an object that gives null to the name. -/
def ofJson? : Json → Option Kind
  | .string name => ofName? name
  | .object [(name, .null)] => ofName? name
  | _ => none

end Kind

namespace Reference

def kind : Reference → Kind
  | bare kind _ => kind
  | wrapping kind _ _ => kind

def ofMembers (kind : Kind) (name : Option String) :
    Option Reference → Reference
  | some ofType => wrapping kind name ofType
  | none => bare kind name

mutual
def ofJson? : Json → Option Reference
  | .object entries => ofEntries? none none none entries
  | .array [kind, name, ofType] => do
    return ofMembers (← Kind.ofJson? kind) (← optionalText? (some name))
      (← optional? ofType)
  | _ => none

def optional? : Json → Option (Option Reference)
  | .null => some none
  | node => (ofJson? node).map some

def ofEntries? (kind : Option Kind) (name : Option (Option String))
    (ofType : Option (Option Reference)) :
    List (String × Json) → Option Reference
  | [] => kind.map fun kind => ofMembers kind name.join ofType.join
  | (key, value) :: rest =>
    if key = "kind" then
      if kind.isSome then none
      else
        match Kind.ofJson? value with
        | some found => ofEntries? (some found) name ofType rest
        | none => none
    else if key = "name" then
      if name.isSome then none
      else
        match optionalText? (some value) with
        | some found => ofEntries? kind (some found) ofType rest
        | none => none
    else if key = "ofType" then
      if ofType.isSome then none
      else
        match optional? value with
        | some found => ofEntries? kind name (some found) rest
        | none => none
    else ofEntries? kind name ofType rest
end

end Reference

def memberOf? (name description isDeprecated reason : Option Json) :
    Option Member := do
  return {
    name := ← text? name
    description := ← optionalText? description
    isDeprecated := ← flag? isDeprecated
    deprecationReason := ← optionalText? reason }

def enumValue? (node : Json) : Option Member := do
  match ← members? ["name", "description", "isDeprecated", "deprecationReason"] node with
  | [name, description, isDeprecated, reason] =>
    memberOf? name description isDeprecated reason
  | _ => none

def inputValue? (node : Json) : Option InputValue := do
  match ← members?
    ["name", "description", "type", "defaultValue", "isDeprecated",
     "deprecationReason"] node with
  | [name, description, type, defaultValue, isDeprecated, reason] =>
    return {
      toMember := ← memberOf? name description isDeprecated reason
      type := ← type.bind Reference.ofJson?
      defaultValue := ← optionalText? defaultValue }
  | _ => none

def field? (node : Json) : Option Field := do
  match ← members?
    ["name", "description", "args", "type", "isDeprecated",
     "deprecationReason"] node with
  | [name, description, arguments, type, isDeprecated, reason] =>
    return {
      toMember := ← memberOf? name description isDeprecated reason
      type := ← type.bind Reference.ofJson?
      arguments := ← listOrMissing? inputValue? arguments }
  | _ => none

def fullType? (node : Json) : Option FullType := do
  match ← members?
    ["kind", "name", "description", "fields", "inputFields", "interfaces",
     "enumValues", "possibleTypes"] node with
  | [kind, name, description, fields, inputFields, interfaces, enumValues,
     possibleTypes] =>
    return {
      kind := ← kind.bind Kind.ofJson?
      name := ← text? name
      description := ← optionalText? description
      fields := ← optionalList? field? fields
      inputFields := ← optionalList? inputValue? inputFields
      interfaces := ← optionalList? Reference.ofJson? interfaces
      enumValues := ← optionalList? enumValue? enumValues
      possibleTypes := ← optionalList? Reference.ofJson? possibleTypes }
  | _ => none

def rootName? : Option Json → Option (Option String)
  | none | some .null => some none
  | some node => do
    match ← members? ["name"] node with
    | [name] => return some (← text? name)
    | _ => none

def schema? (node : Json) : Option Document := do
  match ← members?
    ["queryType", "mutationType", "subscriptionType", "types"] node with
  | [query, mutation, subscription, types] =>
    return {
      roots := {
        query := ← rootName? query
        mutation := ← rootName? mutation
        subscription := ← rootName? subscription }
      types := ← types.bind (list? fullType?) }
  | _ => none

def holder? (node : Json) : Option Document := do
  match ← members? ["__schema"] node with
  | [schema] => schema.bind schema?
  | _ => none

def envelope? : Json → Option Document
  | .object entries => do
    let data ← member? entries "data"
    data.bind holder?
  | _ => none

def Document.ofJson? (node : Json) : Option Document :=
  (envelope? node).orElse fun _ => holder? node

end TypedGraphQL.Introspection
