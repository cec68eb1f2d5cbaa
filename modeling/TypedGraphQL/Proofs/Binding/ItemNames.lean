import Mathlib.Data.List.Nodup
import TypedGraphQL.Proofs.Binding.Declaration
import TypedGraphQL.Proofs.Schema.WellFormed

namespace TypedGraphQL

open Syntax (isName)

/-- Items whose names share the scope of one section. -/
def Generator.itemsIn (generator : Generator) (place : Section) : List String :=
  (generator.blocks.filter (·.place = place)).filterMap (Code.item? ·.code)

def Generator.EmittedIn (generator : Generator) (place : Section)
    (type : NamedType) : Prop :=
  ∃ block ∈ generator.typeBlocks type, block.place = place

instance (generator : Generator) (place : Section) (type : NamedType) :
    Decidable (generator.EmittedIn place type) :=
  inferInstanceAs (Decidable (∃ _ ∈ _, _))

namespace Generator

variable {generator : Generator}

def itemName (generator : Generator) (place : Section) (name : String) : String :=
  if place = .fields then name ++ "Fields"
  else generator.policy.typeIdentifier name

theorem items_typeBlocks {type : NamedType} (named : isName type.name = true)
    (place : Section) :
    ((generator.typeBlocks type).filter (·.place = place)).filterMap
        (Code.item? ·.code) =
      if generator.EmittedIn place type then [generator.itemName place type.name]
      else [] := by
  obtain ⟨name, description, body⟩ := type
  cases body with
  | scalar =>
      cases emitted : generator.scalarAlias? name description with
      | none => simp [typeBlocks, EmittedIn, emitted]
      | some code =>
          have item := item?_scalarAlias named emitted
          cases place <;> simp [typeBlocks, EmittedIn, emitted, itemName, item]
  | object fields interfaces =>
      cases place <;>
        simp [typeBlocks, accessorBlock, EmittedIn, itemName,
          item?_marker named, item?_accessorTrait named]
  | interface fields possibleTypes =>
      cases place <;>
        simp [typeBlocks, accessorBlock, EmittedIn, itemName,
          item?_interfaceMarker named, item?_accessorTrait named]
  | union possibleTypes =>
      cases place <;>
        simp [typeBlocks, accessorBlock, EmittedIn, itemName,
          item?_unionMarker named, item?_accessorTrait named]
  | enum values =>
      cases place <;>
        simp [typeBlocks, EmittedIn, itemName, item?_enumDeclaration named,
          item?_enumImplementation]
  | inputObject fields =>
      cases place <;>
        simp [typeBlocks, EmittedIn, itemName, item?_inputObject named]

theorem items_operationBlocks (place : Section) :
    (generator.operationBlocks.filter (·.place = place)).filterMap
        (Code.item? ·.code) = [] := by
  rw [List.filterMap_eq_nil_iff]
  intro block member
  obtain ⟨given, found, rfl⟩ :=
    List.mem_filterMap.mp (List.mem_filter.mp member).1
  simp only [List.mem_cons, List.not_mem_nil, or_false] at found
  obtain emitted | emitted | emitted := found
  all_goals exact (item?_operationBlock emitted.symm).2

theorem itemsIn_eq
    (named : ∀ type ∈ generator.schema.types, isName type.name = true)
    (place : Section) :
    generator.itemsIn place =
      (generator.schema.types.filter (generator.EmittedIn place ·)).map
        (generator.itemName place ·.name) := by
  rw [itemsIn, blocks, List.filter_append, List.filterMap_append,
    items_operationBlocks, List.append_nil]
  generalize generator.schema.types = types at named
  induction types with
  | nil => rfl
  | cons type types ih =>
      rw [List.forall_mem_cons] at named
      rw [List.flatMap_cons, List.filter_append, List.filterMap_append,
        items_typeBlocks named.1, ih named.2]
      by_cases emitted : generator.EmittedIn place type <;> simp [emitted]

theorem itemsIn_nodup_iff_inj
    (distinct : (generator.schema.types.map (·.name)).Nodup)
    (named : ∀ type ∈ generator.schema.types, isName type.name = true)
    (place : Section) :
    (generator.itemsIn place).Nodup ↔
      ∀ type ∈ generator.schema.types, ∀ other ∈ generator.schema.types,
        generator.EmittedIn place type → generator.EmittedIn place other →
          generator.itemName place type.name =
              generator.itemName place other.name →
            type.name = other.name := by
  rw [itemsIn_eq named, List.nodup_map_iff_inj_on ((distinct.of_map _).filter _)]
  simp only [List.mem_filter, decide_eq_true_eq]
  constructor
  · intro inj type member other otherMember emitted otherEmitted equal
    rw [inj type ⟨member, emitted⟩ other ⟨otherMember, otherEmitted⟩ equal]
  · intro inj type member other otherMember equal
    exact List.inj_on_of_nodup_map distinct member.1 otherMember.1
      (inj type member.1 other otherMember.1 member.2 otherMember.2 equal)

/--
Two types of one section share an item exactly if the name of one is a reserved
word and the name of the other is this word set apart; traits never do.
-/
theorem itemsIn_nodup_iff {types : List NamedType} {roots : RootTypes}
    (accepted : Schema.resolve types roots = .ok generator.schema)
    (named : ∀ type ∈ generator.schema.types, isName type.name = true) :
    (∀ place, place ≠ .fields →
      ((generator.itemsIn place).Nodup ↔
        ∀ type ∈ generator.schema.types, ∀ other ∈ generator.schema.types,
          generator.EmittedIn place type → generator.EmittedIn place other →
            ¬ generator.policy.Clash type.name other.name)) ∧
      (generator.itemsIn .fields).Nodup := by
  obtain ⟨equal, distinct, -⟩ := Schema.resolve_eq_ok_iff.mp accepted
  have apart := itemsIn_nodup_iff_inj (by rw [equal]; exact distinct) named
  refine ⟨fun place other => ?_, ?_⟩
  · rw [apart]
    simp only [itemName, if_neg other]
    refine forall₂_congr fun type member => forall₂_congr fun other otherMember =>
      forall₂_congr fun _ _ => ?_
    have clash (differ : type.name ≠ other.name) :
        generator.policy.typeIdentifier type.name =
            generator.policy.typeIdentifier other.name ↔
          generator.policy.Clash type.name other.name :=
      IdentifierPolicy.typeIdentifier_eq_iff_clash (named type member)
        (named other otherMember) differ
    constructor
    · intro inj clashing
      exact clashing.ne (inj ((clash clashing.ne).mpr clashing))
    · intro free shared
      by_contra differ
      exact free ((clash differ).mp shared)
  · rw [apart]
    intro type _ other _ _ _ shared
    simpa [itemName, String.append_left_inj] using shared

end Generator

def boxSchema (other : String) : Schema :=
  { types := [⟨"Box", none, .object [] []⟩, ⟨other, none, .object [] []⟩]
    roots := ⟨none, none, none⟩ }

namespace Generator

theorem itemsIn_nodup_box_crate :
    Schema.resolve (boxSchema "Crate").types (boxSchema "Crate").roots =
        .ok (boxSchema "Crate") ∧
      (∀ type ∈ (boxSchema "Crate").types, isName type.name = true) ∧
      ((Generator.mk (boxSchema "Crate") .standard).itemsIn .objects).Nodup ∧
      ((Generator.mk (boxSchema "Crate") .standard).itemsIn .fields).Nodup := by
  have accepted : Schema.resolve (boxSchema "Crate").types
      (boxSchema "Crate").roots = .ok (boxSchema "Crate") := rfl
  have named : ∀ type ∈ (boxSchema "Crate").types, isName type.name = true := by
    decide
  obtain ⟨apart, traits⟩ :=
    @itemsIn_nodup_iff (.mk (boxSchema "Crate") .standard) _ _ accepted named
  refine ⟨accepted, named, (apart .objects (by decide)).mpr ?_, traits⟩
  decide +kernel

theorem boxes_share_item :
    Schema.resolve (boxSchema "Box_").types (boxSchema "Box_").roots =
        .ok (boxSchema "Box_") ∧
      (∀ type ∈ (boxSchema "Box_").types, isName type.name = true) ∧
      ¬ ((Generator.mk (boxSchema "Box_") .standard).itemsIn .objects).Nodup := by
  have named : ∀ type ∈ (boxSchema "Box_").types, isName type.name = true := by
    decide
  have items : (Generator.mk (boxSchema "Box_") .standard).itemsIn .objects =
      ["Box_", "Box_"] := by
    rw [itemsIn_eq named]
    decide +kernel
  refine ⟨rfl, named, ?_⟩
  rw [items]
  decide

end Generator

end TypedGraphQL
