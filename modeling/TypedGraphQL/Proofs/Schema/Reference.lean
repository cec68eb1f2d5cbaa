import TypedGraphQL.Schema.Resolved

namespace TypedGraphQL

def Field.RefersTo (field : Field) (name : String) : Prop :=
  field.type.baseName = name ∨
    ∃ argument ∈ field.arguments, argument.type.baseName = name

def TypeBody.RefersTo (name : String) : TypeBody → Prop
  | scalar | enum _ => False
  | object fields interfaces =>
    (∃ field ∈ fields, field.RefersTo name) ∨ name ∈ interfaces
  | interface fields possibleTypes =>
    (∃ field ∈ fields, field.RefersTo name) ∨ name ∈ possibleTypes
  | union possibleTypes => name ∈ possibleTypes
  | inputObject fields => ∃ field ∈ fields, field.type.baseName = name

namespace Schema

def RefersTo (schema : Schema) (name : String) : Prop :=
  (∃ type ∈ schema.types, type.body.RefersTo name) ∨
    schema.roots.query = some name ∨ schema.roots.mutation = some name ∨
      schema.roots.subscription = some name

/-- Declared under the name, or a scalar that needs no declaration. -/
def Knows (schema : Schema) (name : String) : Prop :=
  (∃ type ∈ schema.types, type.name = name) ∨
    name ∈ ["Int", "Float", "String", "Boolean", "ID"]

end Schema

theorem Field.mem_references_iff {field : Field} {name : String} :
    name ∈ field.references ↔ field.RefersTo name := by
  simp [references, RefersTo, eq_comm]

theorem TypeBody.mem_references_iff {body : TypeBody} {name : String} :
    name ∈ body.references ↔ body.RefersTo name := by
  cases body <;> simp [references, RefersTo, Field.mem_references_iff]

namespace Schema

theorem mem_references_iff {schema : Schema} {name : String} :
    name ∈ schema.references ↔ schema.RefersTo name := by
  simp [references, RefersTo, RootTypes.names, TypeBody.mem_references_iff]

theorem resolves_iff_knows {schema : Schema} {name : String} :
    schema.resolves name = true ↔ schema.Knows name := by
  simp [resolves, Knows, builtinScalars]

theorem get?_cases (schema : Schema) (name : String) :
    (∃ type ∈ schema.types, type.name = name ∧ schema.get? name = some type) ∨
      (∀ type ∈ schema.types, type.name ≠ name) ∧ schema.get? name = none := by
  rw [get?]
  cases found : schema.types.find? (·.name == name) with
  | none =>
      refine .inr ⟨fun type member => ?_, rfl⟩
      simpa using List.find?_eq_none.mp found type member
  | some type =>
      have named := List.find?_some found
      exact .inl ⟨type, List.mem_of_find?_eq_some found, eq_of_beq named, rfl⟩

end Schema

end TypedGraphQL
