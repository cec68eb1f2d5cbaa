import TypedGraphQL.Binding.File
import TypedGraphQL.Proofs.Binding.Forwarding
import TypedGraphQL.Proofs.Binding.TypeExpr
import TypedGraphQL.Proofs.Schema.Resolution

namespace TypedGraphQL

theorem TypeRef.expr_congr {nullable list : String} {path other : String → String}
    {type : TypeRef} (same : path type.baseName = other type.baseName) :
    type.expr nullable list path = type.expr nullable list other := by
  have present : type.presentExpr nullable list path =
      type.presentExpr nullable list other := by
    induction type with
    | named name => exact congrArg TypeExpr.path same
    | nonNull inner ih => exact ih same
    | list element ih => rw [presentExpr, presentExpr, ih same]
  rw [expr, expr, present]

namespace Generator

section Congruence

variable {schema other : Schema} {config : Config}

theorem namedPath_congr {name : String} (same : other.kindOf? name = schema.kindOf? name) :
    (mk other config).namedPath name = (mk schema config).namedPath name := by
  simp only [namedPath, sectionOf?, same]
  rfl

section References

variable {type : TypeRef}
  (same : other.kindOf? type.baseName = schema.kindOf? type.baseName)

include same

theorem valueType_congr :
    (mk other config).valueType type = (mk schema config).valueType type := by
  rw [(valueType_eq type).1, (valueType_eq type).1]
  exact TypeRef.expr_congr (namedPath_congr same)

theorem scopeType_congr :
    (mk other config).scopeType type = (mk schema config).scopeType type := by
  rw [(scopeType_eq type).1, (scopeType_eq type).1]
  exact TypeRef.expr_congr (namedPath_congr same)

theorem inputFieldType_congr :
    (mk other config).inputFieldType type = (mk schema config).inputFieldType type := by
  cases type with
  | named name =>
      have here : other.kindOf? name = schema.kindOf? name := same
      have path := @namedPath_congr schema other config name here
      simp only [inputFieldType, here, path, valueType_congr same]
  | nonNull inner => exact valueType_congr same
  | list element => exact valueType_congr same

theorem isLeaf_congr :
    (mk other config).isLeaf type = (mk schema config).isLeaf type := by
  rw [isLeaf, isLeaf, same]

end References

theorem argumentParameters_congr {arguments : List InputValue}
    (same : ∀ argument ∈ arguments,
      other.kindOf? argument.type.baseName = schema.kindOf? argument.type.baseName) :
    (mk other config).argumentParameters arguments =
      (mk schema config).argumentParameters arguments := by
  refine zipWith_congr fun argument member identifier => ?_
  rw [valueType_congr (same argument member)]

theorem fieldAccessor_congr {field : Field}
    (same : ∀ name, field.RefersTo name → other.kindOf? name = schema.kindOf? name)
    (identifier : String) :
    (mk other config).fieldAccessor field identifier =
      (mk schema config).fieldAccessor field identifier := by
  have ofType := same _ (.inl rfl)
  have ofArguments := @argumentParameters_congr schema other config field.arguments
    fun argument member => same _ (.inr ⟨argument, member, rfl⟩)
  simp only [fieldAccessor, ofArguments, isLeaf_congr ofType, valueType_congr ofType,
    scopeType_congr ofType]
  rfl

theorem fieldAccessors_congr {fields : List Field}
    (same : ∀ field ∈ fields, ∀ name, field.RefersTo name →
      other.kindOf? name = schema.kindOf? name) :
    (mk other config).fieldAccessors fields = (mk schema config).fieldAccessors fields :=
  zipWith_congr fun field member identifier =>
    fieldAccessor_congr (same field member) identifier

theorem caseAccessor_congr {possibleTypes : List String}
    (same : ∀ name ∈ possibleTypes, other.kindOf? name = schema.kindOf? name)
    (typeName path : String) :
    (mk other config).caseAccessor typeName path possibleTypes =
      (mk schema config).caseAccessor typeName path possibleTypes := by
  have parameters (identifiers : List String) :
      List.zipWith
          (fun possible identifier => Parameter.mk identifier
            (.selection (.path ((mk other config).namedPath possible))))
          possibleTypes identifiers =
        List.zipWith
          (fun possible identifier => Parameter.mk identifier
            (.selection (.path ((mk schema config).namedPath possible))))
          possibleTypes identifiers :=
    zipWith_congr fun possible member identifier => by
      rw [namedPath_congr (same possible member)]
  simp only [caseAccessor, parameters]
  rfl

theorem polymorphism_congr {possibleTypes : List String}
    (same : ∀ name ∈ possibleTypes, other.kindOf? name = schema.kindOf? name)
    (name : String) :
    (mk other config).polymorphism name possibleTypes =
      (mk schema config).polymorphism name possibleTypes := by
  refine congrArg (List.cons _) (List.map_congr_left fun possible member => ?_)
  rw [namedPath_congr (same possible member)]
  rfl

theorem inputFields_congr {fields : List InputValue}
    (same : ∀ field ∈ fields,
      other.kindOf? field.type.baseName = schema.kindOf? field.type.baseName) :
    (mk other config).inputFields fields = (mk schema config).inputFields fields := by
  refine zipWith_congr fun field member identifier => ?_
  rw [inputFieldType_congr (same field member)]

theorem accessorBlock_congr {fields : List Field} {possibleTypes : List String}
    (ofFields : ∀ field ∈ fields, ∀ name, field.RefersTo name →
      other.kindOf? name = schema.kindOf? name)
    (ofTypes : ∀ name ∈ possibleTypes, other.kindOf? name = schema.kindOf? name)
    (typeName : String) (place : Section) :
    (mk other config).accessorBlock typeName place fields possibleTypes =
      (mk schema config).accessorBlock typeName place fields possibleTypes := by
  simp only [accessorBlock, accessorTrait, fieldAccessors_congr ofFields,
    caseAccessor_congr ofTypes]
  rfl

/-- A type looks up only the names that it refers to. -/
theorem typeBlocks_congr {type : NamedType}
    (same : ∀ name, type.body.RefersTo name →
      other.kindOf? name = schema.kindOf? name) :
    (mk other config).typeBlocks type = (mk schema config).typeBlocks type := by
  obtain ⟨name, description, body⟩ := type
  cases body with
  | scalar => rfl
  | enum values => rfl
  | object fields interfaces =>
      have accessors := @accessorBlock_congr schema other config fields []
        (fun field member name refers => same name (.inl ⟨field, member, refers⟩))
        (List.forall_mem_nil _)
      simp only [typeBlocks, accessors]
      rfl
  | interface fields possibleTypes =>
      have ofTypes : ∀ possible ∈ possibleTypes,
          other.kindOf? possible = schema.kindOf? possible :=
        fun possible member => same possible (.inr member)
      have accessors := @accessorBlock_congr schema other config fields possibleTypes
        (fun field member name refers => same name (.inl ⟨field, member, refers⟩))
        ofTypes
      simp only [typeBlocks, accessors, interfaceMarker, polymorphism_congr ofTypes]
      rfl
  | union possibleTypes =>
      have accessors := @accessorBlock_congr schema other config [] possibleTypes
        (List.forall_mem_nil _) same
      simp only [typeBlocks, accessors, unionMarker, polymorphism_congr same]
      rfl
  | inputObject fields =>
      have ofFields := @inputFields_congr schema other config fields
        fun field member => same _ ⟨field, member, rfl⟩
      simp only [typeBlocks, inputObject, ofFields]
      rfl

theorem operationBlock?_congr {root : Option String}
    (same : ∀ name, root = some name → other.kindOf? name = schema.kindOf? name)
    (kind : String) :
    (mk other config).operationBlock? kind root =
      (mk schema config).operationBlock? kind root := by
  cases root with
  | none => rfl
  | some name =>
      have here : other.kindOf? name = schema.kindOf? name := same name rfl
      have path := @namedPath_congr schema other config name here
      simp only [operationBlock?, Option.bind_eq_bind, Option.bind_some, here, path]
      rfl

theorem operationBlocks_congr (roots : other.roots = schema.roots)
    (same : ∀ name, schema.RefersTo name →
      other.kindOf? name = schema.kindOf? name) :
    (mk other config).operationBlocks = (mk schema config).operationBlocks := by
  have query := @operationBlock?_congr schema other config schema.roots.query
    fun name found => same name (.inr (.inl found))
  have mutation := @operationBlock?_congr schema other config schema.roots.mutation
    fun name found => same name (.inr (.inr (.inl found)))
  have subscription :=
    @operationBlock?_congr schema other config schema.roots.subscription
      fun name found => same name (.inr (.inr (.inr found)))
  simp only [operationBlocks, roots, query, mutation, subscription]

end Congruence

end Generator

section Insert

variable {before after : List NamedType} {type : NamedType} {roots : RootTypes}

namespace Schema

theorem kindOf?_insert {name : String} (differs : name ≠ type.name) :
    (mk (before ++ type :: after) roots).kindOf? name =
      (mk (before ++ after) roots).kindOf? name := by
  have found : (mk (before ++ type :: after) roots).get? name =
      (mk (before ++ after) roots).get? name := by
    simp [get?, List.find?_append, differs.symm]
  rw [kindOf?, kindOf?, found]

theorem knows_insert_iff {name : String} :
    (mk (before ++ type :: after) roots).Knows name ↔
      name = type.name ∨ (mk (before ++ after) roots).Knows name := by
  simp only [Knows, List.mem_append, List.mem_cons]
  grind

theorem refersTo_insert_iff {name : String} :
    (mk (before ++ type :: after) roots).RefersTo name ↔
      type.body.RefersTo name ∨ (mk (before ++ after) roots).RefersTo name := by
  simp only [RefersTo, List.mem_append, List.mem_cons]
  grind

theorem resolve_insert {schema : Schema}
    (accepted : resolve (before ++ after) roots = .ok schema)
    (fresh : ¬ schema.Knows type.name)
    (known : ∀ name, type.body.RefersTo name →
      name = type.name ∨ schema.Knows name) :
    resolve (before ++ type :: after) roots =
      .ok (mk (before ++ type :: after) roots) := by
  obtain ⟨rfl, distinct, resolved⟩ := resolve_eq_ok_iff.mp accepted
  refine resolve_eq_ok_iff.mpr ⟨rfl, ?_, fun name member => ?_⟩
  · have undeclared : type.name ∉ (before ++ after).map (·.name) := by
      intro member
      obtain ⟨other, declared, same⟩ := List.mem_map.mp member
      exact fresh (.inl ⟨other, declared, same⟩)
    rw [List.map_append] at distinct undeclared
    rw [List.map_append, List.map_cons, List.nodup_middle]
    exact List.nodup_cons.mpr ⟨undeclared, distinct⟩
  · rw [resolves_iff_knows, knows_insert_iff]
    rw [mem_references_iff, refersTo_insert_iff] at member
    obtain refers | refers := member
    · exact known name refers
    · exact .inr (resolves_iff_knows.mp (resolved name (mem_references_iff.mpr refers)))

end Schema

namespace Generator

/--
A type with a new name, whose references lead somewhere, can stand anywhere among
the others.  Their blocks and those of the root operations stay the same, and its
own stand after the blocks of the types before it.
-/
theorem blocks_insert {schema : Schema}
    (accepted : Schema.resolve (before ++ after) roots = .ok schema)
    (fresh : ¬ schema.Knows type.name)
    (known : ∀ name, type.body.RefersTo name →
      name = type.name ∨ schema.Knows name) (config : Config) :
    ∃ extended, Schema.resolve (before ++ type :: after) roots = .ok extended ∧
      (∀ other ∈ before ++ after,
        (mk extended config).typeBlocks other = (mk schema config).typeBlocks other) ∧
      (mk extended config).operationBlocks = (mk schema config).operationBlocks ∧
      ∃ earlier later,
        earlier = before.flatMap (mk schema config).typeBlocks ∧
        later = after.flatMap (mk schema config).typeBlocks ++
          (mk schema config).operationBlocks ∧
        (mk schema config).blocks = earlier ++ later ∧
        (mk extended config).blocks =
          earlier ++ (mk extended config).typeBlocks type ++ later := by
  refine ⟨_, Schema.resolve_insert accepted fresh known, ?_⟩
  obtain ⟨rfl, -, resolved⟩ := Schema.resolve_eq_ok_iff.mp accepted
  have same : ∀ name, (Schema.mk (before ++ after) roots).RefersTo name →
      (Schema.mk (before ++ type :: after) roots).kindOf? name =
        (Schema.mk (before ++ after) roots).kindOf? name := by
    intro name refers
    refine Schema.kindOf?_insert ?_
    rintro rfl
    exact fresh (Schema.resolves_iff_knows.mp
      (resolved _ (Schema.mem_references_iff.mpr refers)))
  have ofTypes : ∀ other ∈ before ++ after,
      (mk ⟨before ++ type :: after, roots⟩ config).typeBlocks other =
        (mk ⟨before ++ after, roots⟩ config).typeBlocks other :=
    fun other declared => typeBlocks_congr fun name refers =>
      same name (.inl ⟨other, declared, refers⟩)
  have ofRoots : (mk ⟨before ++ type :: after, roots⟩ config).operationBlocks =
      (mk ⟨before ++ after, roots⟩ config).operationBlocks :=
    operationBlocks_congr rfl same
  refine ⟨ofTypes, ofRoots, _, _, rfl, rfl, by simp [blocks], ?_⟩
  have ofBefore := List.flatMap_congr fun other member =>
    ofTypes other (List.mem_append_left _ member)
  have ofAfter := List.flatMap_congr fun other member =>
    ofTypes other (List.mem_append_right _ member)
  simp only [blocks, ofRoots, List.flatMap_append, List.flatMap_cons, ofBefore,
    ofAfter, List.append_assoc]

end Generator

end Insert

def planetType : NamedType :=
  let plain (name : String) : Member := ⟨name, none, false, none⟩
  ⟨"Planet", none, .object
    [⟨plain "moons", .list (.nonNull (.named "Planet")), []⟩,
      ⟨plain "residents", .list (.named "Character"),
        [⟨plain "first", .named "Int", none⟩]⟩] []⟩

theorem Generator.blocks_insert_planet :
    Schema.resolve (reviewSchema.types.take 2 ++ reviewSchema.types.drop 2)
        reviewSchema.roots = .ok reviewSchema ∧
      ¬ reviewSchema.Knows planetType.name ∧
      (∀ name, planetType.body.RefersTo name →
        name = planetType.name ∨ reviewSchema.Knows name) ∧
      ∃ extended,
        Schema.resolve (reviewSchema.types.take 2 ++
            planetType :: reviewSchema.types.drop 2)
          reviewSchema.roots = .ok extended ∧
        (mk extended .standard).operationBlocks =
          (mk reviewSchema .standard).operationBlocks ∧
        (mk extended .standard).blocks.length =
          (mk reviewSchema .standard).blocks.length + 2 := by
  have accepted : Schema.resolve
      (reviewSchema.types.take 2 ++ reviewSchema.types.drop 2) reviewSchema.roots =
        .ok reviewSchema := by decide +kernel
  have fresh : ¬ reviewSchema.Knows planetType.name := by
    rw [← Schema.resolves_iff_knows]
    decide
  have known : ∀ name, planetType.body.RefersTo name →
      name = planetType.name ∨ reviewSchema.Knows name := by
    simp only [← TypeBody.mem_references_iff, ← Schema.resolves_iff_knows]
    decide
  obtain ⟨extended, extendedAccepted, -, operations, earlier, later, -, -, old, new⟩ :=
    blocks_insert accepted fresh known .standard
  refine ⟨accepted, fresh, known, extended, extendedAccepted, operations, ?_⟩
  have own : ((mk extended .standard).typeBlocks planetType).length = 2 := rfl
  rw [old, new, List.length_append, List.length_append, List.length_append, own]
  omega

end TypedGraphQL
