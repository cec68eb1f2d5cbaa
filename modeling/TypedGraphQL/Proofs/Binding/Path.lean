import TypedGraphQL.Proofs.Binding.Declaration
import TypedGraphQL.Proofs.Introspection.RoundTrip
import TypedGraphQL.Proofs.Schema.Reference

namespace TypedGraphQL

open Code (Declares)

theorem builtinType?_eq_none_iff {name : String} :
    builtinType? name = none ↔ name ∉ builtinScalars := by
  grind [builtinType?, builtinScalars]

namespace Generator

variable {generator : Generator}

/-- Some block of the section declares a type of this identifier. -/
def DeclaresIn (generator : Generator) (place : Section) (identifier : String) :
    Prop :=
  ∃ code, ⟨place, code⟩ ∈ generator.blocks ∧
    ∃ opening ∈ ["pub struct ", "pub enum ", "pub type "],
      Declares code opening identifier

theorem exists_mem_typeBlocks {type : NamedType}
    (own : type.name ∉ builtinScalars) :
    ∃ code, ⟨.ofKind type.kind, code⟩ ∈ generator.typeBlocks type ∧
      ∃ opening ∈ ["pub struct ", "pub enum ", "pub type "],
        Declares code opening (generator.policy.typeIdentifier type.name) := by
  obtain ⟨name, description, body⟩ := type
  cases body with
  | scalar =>
      obtain ⟨code, emitted⟩ :
          ∃ code, generator.scalarAlias? name description = some code :=
        ⟨_, if_neg (by simpa using own)⟩
      refine ⟨code, ?_, "pub type ", by simp, declares_scalarAlias emitted⟩
      simp [typeBlocks, emitted, NamedType.kind, TypeBody.kind, Section.ofKind]
  | object fields interfaces =>
      exact ⟨_, List.mem_cons_self, "pub struct ", by simp, declares_marker⟩
  | interface fields possibleTypes =>
      exact ⟨_, List.mem_cons_self, "pub struct ", by simp,
        declares_interfaceMarker⟩
  | union possibleTypes =>
      exact ⟨_, List.mem_cons_self, "pub enum ", by simp, declares_unionMarker⟩
  | enum values =>
      exact ⟨_, List.mem_cons_self, "pub enum ", by simp,
        declares_enumDeclaration⟩
  | inputObject fields =>
      exact ⟨_, List.mem_cons_self, "pub struct ", by simp, declares_inputObject⟩

theorem declaresIn_of_mem {type : NamedType}
    (declared : type ∈ generator.schema.types)
    (own : type.name ∉ builtinScalars) :
    generator.DeclaresIn (.ofKind type.kind)
      (generator.policy.typeIdentifier type.name) := by
  obtain ⟨code, ofType, found⟩ := exists_mem_typeBlocks own
  refine ⟨code, List.mem_append_left _ ?_, found⟩
  exact List.mem_flatMap.mpr ⟨type, declared, ofType⟩

theorem namedPath_of_get? {type : NamedType} {name : String}
    (found : generator.schema.get? name = some type)
    (own : builtinType? name = none) :
    generator.namedPath name =
      itemPath (.ofKind type.kind) (generator.policy.typeIdentifier name) := by
  rw [namedPath, own, sectionOf?, Schema.kindOf?, found]
  rfl

/--
In an accepted schema, every name that is referred to has a kind and a section,
and its path is a built-in type or that of an item in this section.
-/
theorem namedPath_leads {types : List NamedType} {roots : RootTypes}
    {name : String}
    (accepted : Schema.resolve types roots = .ok generator.schema)
    (refers : generator.schema.RefersTo name) :
    (∃ kind, generator.schema.kindOf? name = some kind) ∧
      ∃ place, generator.sectionOf? name = some place ∧
        (builtinType? name = some (generator.namedPath name) ∨
          generator.namedPath name = "super::" ++ place.moduleName ++ "::" ++
              generator.policy.typeIdentifier name ∧
            generator.DeclaresIn place
              (generator.policy.typeIdentifier name)) := by
  obtain ⟨-, -, resolved⟩ := Schema.resolve_eq_ok_iff.mp accepted
  have known := Schema.resolves_iff_knows.mp
    (resolved name (Schema.mem_references_iff.mpr refers))
  obtain ⟨type, declared, named, found⟩ | ⟨undeclared, missing⟩ :=
    generator.schema.get?_cases name
  · have kind : generator.schema.kindOf? name = some type.kind := by
      rw [Schema.kindOf?, found]
    refine ⟨⟨type.kind, kind⟩, .ofKind type.kind, by simp [sectionOf?, kind], ?_⟩
    cases own : builtinType? name with
    | some builtin => exact .inl (by simp [namedPath, own])
    | none =>
        refine .inr ⟨namedPath_of_get? found own, ?_⟩
        subst named
        exact declaresIn_of_mem declared (builtinType?_eq_none_iff.mp own)
  · have builtin : name ∈ builtinScalars := by
      obtain ⟨type, declared, named⟩ | builtin := known
      · exact absurd named (undeclared type declared)
      · exact builtin
    have kind : generator.schema.kindOf? name = some .scalar := by
      simp [Schema.kindOf?, missing, builtin]
    refine ⟨⟨.scalar, kind⟩, .scalars, by simp [sectionOf?, kind]; rfl, .inl ?_⟩
    cases own : builtinType? name with
    | some _ => simp [namedPath, own]
    | none => exact absurd builtin (builtinType?_eq_none_iff.mp own)

theorem namedPath_leads_review :
    Schema.resolve reviewSchema.types reviewSchema.roots = .ok reviewSchema ∧
      reviewSchema.RefersTo "Character" ∧
      (∃ kind, reviewSchema.kindOf? "Character" = some kind) ∧
      ∃ place, (Generator.mk reviewSchema .standard).sectionOf? "Character" =
          some place ∧
        (builtinType? "Character" =
            some ((Generator.mk reviewSchema .standard).namedPath "Character") ∨
          (Generator.mk reviewSchema .standard).namedPath "Character" =
              "super::" ++ place.moduleName ++ "::" ++
                (Generator.mk reviewSchema .standard).policy.typeIdentifier
                  "Character" ∧
            (Generator.mk reviewSchema .standard).DeclaresIn place
              ((Generator.mk reviewSchema .standard).policy.typeIdentifier
                "Character")) := by
  have accepted :
      Schema.resolve reviewSchema.types reviewSchema.roots = .ok reviewSchema := by
    rfl
  have refers : reviewSchema.RefersTo "Character" := by
    refine Schema.mem_references_iff.mp ?_
    decide
  exact ⟨accepted, refers,
    @namedPath_leads (.mk reviewSchema .standard) _ _ _ accepted refers⟩

end Generator

end TypedGraphQL
