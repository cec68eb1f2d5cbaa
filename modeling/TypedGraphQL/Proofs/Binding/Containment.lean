import Mathlib.Logic.Relation
import TypedGraphQL.Binding.Input
import TypedGraphQL.Proofs.Binding.Path
import TypedGraphQL.Proofs.Binding.TypeExpr
import TypedGraphQL.Proofs.Schema.Resolution

namespace TypedGraphQL

open Relation (TransGen)
open Syntax (isName)

def TypeRef.bare? : TypeRef → Option String
  | named name => some name
  | nonNull inner => inner.bare?
  | list _ => none

def TypeBody.inputFields : TypeBody → List InputValue
  | inputObject fields => fields
  | _ => []

/-- No value of the first input object comes without one of the second. -/
def Schema.Requires (schema : Schema) (name other : String) : Prop :=
  ∃ type ∈ schema.types, type.name = name ∧ ∃ field ∈ type.body.inputFields,
    field.type.isNonNull = true ∧ field.type.bare? = some other

theorem TypeRef.baseName_of_bare? {type : TypeRef} {name : String}
    (bare : type.bare? = some name) : type.baseName = name := by
  induction type with
  | named other => exact Option.some.inj bare
  | nonNull inner ih => exact ih bare
  | list element => contradiction

theorem NamedType.kind_of_mem_inputFields {type : NamedType} {field : InputValue}
    (member : field ∈ type.body.inputFields) : type.kind = .inputObject := by
  rw [kind]
  cases found : type.body <;> simp_all [TypeBody.inputFields, TypeBody.kind]

theorem Schema.not_cycle_of_ends {schema : Schema}
    (ends : ∀ type ∈ schema.types, ∀ field ∈ type.body.inputFields,
      field.type.isNonNull = true →
        ∀ other ∈ schema.types, other.kind = .inputObject →
          field.type.bare? ≠ some other.name) :
    ¬ ∃ name, TransGen schema.Requires name name := by
  rintro ⟨name, cycle⟩
  obtain ⟨next, ⟨other, otherDeclared, rfl, _, inOther, -⟩, -⟩ :=
    TransGen.head'_iff.mp cycle
  obtain ⟨last, -, type, declared, -, field, member, present, bare⟩ :=
    TransGen.tail'_iff.mp cycle
  exact ends type declared field member present other otherDeclared
    (NamedType.kind_of_mem_inputFields inOther) bare

/-- What values of the type hold in place; boxes and vectors hold it elsewhere. -/
def TypeExpr.held? : TypeExpr → Option String
  | path text => some text
  | generic head argument => if head = "Option" then argument.held? else none

/-- Within their section, structures go by their mere identifier as well. -/
def LeadsTo (path identifier : String) : Prop :=
  path = itemPath .inputs identifier ∨ path = identifier

instance (path identifier : String) : Decidable (LeadsTo path identifier) :=
  inferInstanceAs (Decidable (_ ∨ _))

namespace Generator

/--
A value of the first structure holds one of the second in place.  The types that
a configuration gives to scalars are not looked into.
-/
def Holds (generator : Generator) (identifier other : String) : Prop :=
  ∃ type ∈ generator.schema.types,
    generator.policy.typeIdentifier type.name = identifier ∧
      ∃ field ∈ generator.inputFields type.body.inputFields,
        ∃ path ∈ field.type.held?, LeadsTo path other

/-- A field of the type holds what is named like the structure of another type. -/
def Captures (generator : Generator) (type : TypeRef) (name : String) : Prop :=
  type.baseName ≠ name ∧
    ∃ path ∈ (generator.inputFieldType type).held?,
      LeadsTo path (generator.policy.typeIdentifier name)

instance (generator : Generator) (type : TypeRef) (name : String) :
    Decidable (generator.Captures type name) :=
  inferInstanceAs (Decidable (_ ∧ _))

def IsBoxed (generator : Generator) (type : TypeRef) : Prop :=
  ∃ name, type = .named name ∧ generator.schema.kindOf? name = some .inputObject

variable {generator : Generator}

theorem inputFieldType_of_isBoxed {type : TypeRef} (boxed : generator.IsBoxed type) :
    generator.valueType type =
        .generic "Option" (.path (generator.namedPath type.baseName)) ∧
      generator.inputFieldType type =
        .generic "Option"
          (.generic "Box" (.path (generator.namedPath type.baseName))) := by
  obtain ⟨name, rfl, kind⟩ := boxed
  exact ⟨rfl, if_pos kind⟩

theorem inputFieldType_of_not_isBoxed {type : TypeRef}
    (unboxed : ¬ generator.IsBoxed type) :
    generator.inputFieldType type = generator.valueType type := by
  cases type with
  | named name => exact if_neg fun kind => unboxed ⟨name, rfl, kind⟩
  | nonNull inner => rfl
  | list element => rfl

theorem held?_valueType (type : TypeRef) :
    (generator.valueType type).held? = type.bare?.map generator.namedPath ∧
      (generator.presentValueType type).held? =
        type.bare?.map generator.namedPath := by
  induction type with
  | named name => exact ⟨rfl, rfl⟩
  | nonNull inner ih => exact ⟨ih.2, ih.2⟩
  | list element => exact ⟨rfl, rfl⟩

theorem mem_held?_inputFieldType_iff {type : TypeRef} {path : String} :
    path ∈ (generator.inputFieldType type).held? ↔
      ¬ generator.IsBoxed type ∧ ∃ name, type.bare? = some name ∧
        generator.namedPath name = path := by
  by_cases boxed : generator.IsBoxed type
  · rw [(inputFieldType_of_isBoxed boxed).2]
    simp [TypeExpr.held?, boxed]
  · rw [inputFieldType_of_not_isBoxed boxed, (held?_valueType type).1]
    simp [boxed]

/-- Nothing is held under the name of a structure but what refers to its type. -/
def CaptureFree (generator : Generator) : Prop :=
  ∀ type ∈ generator.schema.types, ∀ field ∈ type.body.inputFields,
    ∀ other ∈ generator.schema.types, other.kind = .inputObject →
      ¬ generator.Captures field.type other.name

instance (generator : Generator) : Decidable generator.CaptureFree :=
  inferInstanceAs (Decidable (∀ _ ∈ _, ∀ _ ∈ _, ∀ _ ∈ _, _ → _))

section Accepted

variable {types : List NamedType} {roots : RootTypes}
  (accepted : Schema.resolve types roots = .ok generator.schema)
  (captureFree : generator.CaptureFree)

include accepted captureFree

theorem exists_requires_of_holds {identifier held : String}
    (holds : generator.Holds identifier held) :
    ∃ type ∈ generator.schema.types, type.kind = .inputObject ∧
      generator.policy.typeIdentifier type.name = identifier ∧
        ∀ other ∈ generator.schema.types, other.kind = .inputObject →
          generator.policy.typeIdentifier other.name = held →
            generator.schema.Requires type.name other.name := by
  obtain ⟨type, declared, named, field, member, path, inField, leads⟩ := holds
  obtain ⟨source, inFields, chosen, -, rfl⟩ := mem_zipWith member
  refine ⟨type, declared, NamedType.kind_of_mem_inputFields inFields, named, ?_⟩
  rintro other otherDeclared isInput rfl
  have refers : source.type.baseName = other.name := by
    by_contra differ
    exact captureFree type declared source inFields other otherDeclared isInput
      ⟨differ, path, inField, leads⟩
  obtain ⟨unboxed, name, bare, -⟩ := mem_held?_inputFieldType_iff.mp inField
  obtain rfl := (TypeRef.baseName_of_bare? bare).symm.trans refers
  have kind : generator.schema.kindOf? other.name = some .inputObject := by
    obtain ⟨equal, distinct, -⟩ := Schema.resolve_eq_ok_iff.mp accepted
    refine (Schema.kindOf?_eq_some_iff (by rwa [equal])).mpr (.inl ?_)
    exact ⟨other, otherDeclared, rfl, isInput⟩
  refine ⟨type, declared, rfl, source, inFields, ?_, bare⟩
  cases found : source.type with
  | named name =>
      rw [found] at unboxed refers
      obtain rfl : name = other.name := refers
      exact absurd ⟨other.name, rfl, kind⟩ unboxed
  | nonNull inner => rfl
  | list element => simp [found, TypeRef.bare?] at bare

theorem exists_transGen_requires {identifier held : String}
    (path : TransGen generator.Holds identifier held) :
    ∃ type ∈ generator.schema.types, type.kind = .inputObject ∧
      generator.policy.typeIdentifier type.name = identifier ∧
        ∀ other ∈ generator.schema.types, other.kind = .inputObject →
          generator.policy.typeIdentifier other.name = held →
            TransGen generator.schema.Requires type.name other.name := by
  induction path with
  | single holds =>
      obtain ⟨type, declared, isInput, named, requires⟩ :=
        exists_requires_of_holds accepted captureFree holds
      exact ⟨type, declared, isInput, named, fun other otherDeclared otherInput led =>
        .single (requires other otherDeclared otherInput led)⟩
  | tail path holds ih =>
      obtain ⟨type, declared, isInput, named, reaches⟩ := ih
      obtain ⟨last, lastDeclared, lastInput, lastNamed, requires⟩ :=
        exists_requires_of_holds accepted captureFree holds
      exact ⟨type, declared, isInput, named, fun other otherDeclared otherInput led =>
        .tail (reaches last lastDeclared lastInput lastNamed)
          (requires other otherDeclared otherInput led)⟩

theorem exists_cycle_requires {identifier : String}
    (cycle : TransGen generator.Holds identifier identifier) :
    ∃ name, TransGen generator.schema.Requires name name := by
  obtain ⟨type, declared, isInput, named, reaches⟩ :=
    exists_transGen_requires accepted captureFree cycle
  exact ⟨type.name, reaches type declared isInput named⟩

end Accepted

/--
Types of values and scopes of selections are read as the reference that they are
written for, so they agree on what may be null at every level.  The type of an
input field is that of a value, but with a box where an input object may be left
out.  If nothing is captured, a structure holds itself only where input objects
require one another in a cycle.
-/
theorem types_mirror_references {types : List NamedType} {roots : RootTypes}
    (accepted : Schema.resolve types roots = .ok generator.schema)
    (runtime : Unbracketed generator.runtime) :
    (∀ type : TypeRef, isName type.baseName = true →
      TypeExpr.read? (generator.valueType type).text =
          some (type.collapsed.mapName generator.namedPath) ∧
        TypeExpr.read? (generator.scopeType type).text =
          some (type.collapsed.mapName generator.namedPath) ∧
        (generator.IsBoxed type →
          (generator.valueType type).text =
              "Option<" ++ generator.namedPath type.baseName ++ ">" ∧
            (generator.inputFieldType type).text =
              "Option<Box<" ++ generator.namedPath type.baseName ++ ">>") ∧
        (¬ generator.IsBoxed type →
          (generator.inputFieldType type).text = (generator.valueType type).text)) ∧
      (generator.CaptureFree →
        (¬ ∃ name, TransGen generator.schema.Requires name name) →
          ¬ ∃ identifier, TransGen generator.Holds identifier identifier) := by
  refine ⟨fun type named => ?_, fun captureFree acyclic => ?_⟩
  · refine ⟨read?_valueType named, read?_scopeType named runtime, fun boxed => ?_,
      fun unboxed => congrArg TypeExpr.text (inputFieldType_of_not_isBoxed unboxed)⟩
    obtain ⟨value, inputField⟩ := inputFieldType_of_isBoxed boxed
    rw [value, inputField]
    simp [TypeExpr.text, ← String.toList_inj]
  · rintro ⟨identifier, cycle⟩
    exact acyclic (exists_cycle_requires accepted captureFree cycle)

def greetingSchema : Schema :=
  let plain (name : String) : Member := ⟨name, none, false, none⟩
  { types := [
      ⟨"Language", none, .enum [plain "en"]⟩,
      ⟨"Greeting", none, .inputObject
        [⟨plain "language", .list (.nonNull (.named "Language")), none⟩,
          ⟨plain "name", .nonNull (.named "String"), none⟩,
          ⟨plain "reply", .named "Greeting", none⟩]⟩]
    roots := ⟨none, none, none⟩ }

theorem types_mirror_references_greeting :
    Schema.resolve greetingSchema.types greetingSchema.roots = .ok greetingSchema ∧
      Unbracketed Config.standard.runtime ∧
      TypeExpr.read? ((Generator.mk greetingSchema .standard).valueType
          (.list (.nonNull (.named "Language")))).text =
        some (.list (.nonNull (.named "super::enums::Language"))) ∧
      ((Generator.mk greetingSchema .standard).inputFieldType
          (.named "Greeting")).text = "Option<Box<super::inputs::Greeting>>" ∧
      (Generator.mk greetingSchema .standard).CaptureFree ∧
      (¬ ∃ name, TransGen greetingSchema.Requires name name) ∧
      ¬ ∃ identifier,
        TransGen (Generator.mk greetingSchema .standard).Holds identifier identifier := by
  have accepted : Schema.resolve greetingSchema.types greetingSchema.roots =
      .ok greetingSchema := by decide +kernel
  have runtime : Unbracketed Config.standard.runtime := by decide
  have captureFree : (Generator.mk greetingSchema .standard).CaptureFree := by
    decide +kernel
  have acyclic : ¬ ∃ name, TransGen greetingSchema.Requires name name :=
    Schema.not_cycle_of_ends (by decide)
  obtain ⟨types, cycles⟩ := @types_mirror_references
    (.mk greetingSchema .standard) _ _ accepted runtime
  obtain ⟨readBack, -, -, -⟩ := types (.list (.nonNull (.named "Language"))) (by decide)
  obtain ⟨-, -, boxed, -⟩ := types (.named "Greeting") (by decide)
  obtain ⟨-, text⟩ := boxed ⟨"Greeting", rfl, by decide⟩
  refine ⟨accepted, runtime, readBack, text, captureFree, acyclic,
    cycles captureFree acyclic⟩

def numeralSchema : Schema :=
  { types := [⟨"i32", none, .inputObject
      [⟨⟨"value", none, false, none⟩, .nonNull (.named "Int"), none⟩]⟩]
    roots := ⟨none, none, none⟩ }

theorem numeral_holds_itself :
    Schema.resolve numeralSchema.types numeralSchema.roots = .ok numeralSchema ∧
      (¬ ∃ name, TransGen numeralSchema.Requires name name) ∧
      ∃ identifier,
        TransGen (Generator.mk numeralSchema .standard).Holds identifier identifier := by
  refine ⟨by decide +kernel, Schema.not_cycle_of_ends (by decide), "i32", .single ?_⟩
  refine ⟨_, List.mem_singleton_self _, by decide +kernel, ?_⟩
  exact ⟨⟨[], "value", .path "i32"⟩, by decide +kernel, "i32", rfl, .inr rfl⟩

end Generator

end TypedGraphQL
