import Mathlib.Control.Monad.Basic
import TypedGraphQL.Introspection.Schema
import TypedGraphQL.Proofs.Introspection.Writer
import TypedGraphQL.Proofs.Schema.Reference
import TypedGraphQL.Proofs.Schema.WellFormed

namespace TypedGraphQL.Introspection

section Failing

variable {ε α β : Type}

theorem bind_eq_ok_iff {first : Except ε α} {next : α → Except ε β}
    {result : β} :
    (first >>= next) = .ok result ↔
      ∃ value, first = .ok value ∧ next value = .ok result := by
  cases first with
  | error fault => simp [bind, Except.bind]
  | ok value => simp [bind, Except.bind]

theorem map_eq_ok_iff {first : Except ε α} {change : α → β} {result : β} :
    first.map change = .ok result ↔
      ∃ value, first = .ok value ∧ change value = result := by
  cases first <;> simp [Except.map]

theorem forall_of_mapM_eq_ok {convert : α → Except ε β} {property : β → Prop}
    {items : List α} {results : List β}
    (each : ∀ item ∈ items, ∀ {result}, convert item = .ok result →
      property result)
    (converted : items.mapM convert = .ok results) :
    ∀ result ∈ results, property result := by
  induction items generalizing results with
  | nil =>
      obtain rfl : [] = results := by
        simpa [pure, Except.pure] using converted
      simp
  | cons item items ih =>
      rw [List.mapM_cons] at converted
      obtain ⟨first, firstConverted, converted⟩ := bind_eq_ok_iff.mp converted
      obtain ⟨rest, restConverted, converted⟩ := bind_eq_ok_iff.mp converted
      obtain rfl : first :: rest = results := by
        simpa [pure, Except.pure] using converted
      rw [List.forall_mem_cons] at each ⊢
      exact ⟨each.1 firstConverted, ih each.2 restConverted⟩

end Failing

namespace Reference

theorem typeRef_cases {reference : Reference} {type : TypeRef}
    (converted : reference.typeRef = .ok type) :
    (∃ name ofType inner, reference = .wrapping .nonNull name ofType ∧
        ofType.kind ≠ .nonNull ∧ ofType.typeRef = .ok inner ∧
        type = .nonNull inner) ∨
      (∃ name ofType element, reference = .wrapping .list name ofType ∧
        ofType.typeRef = .ok element ∧ type = .list element) ∨
      ∃ name, reference.kind ≠ .nonNull ∧ type = .named name := by
  revert converted
  fun_cases typeRef reference with
  | case1 name ofType nested => simp
  | case2 name ofType notNested =>
      intro converted
      obtain ⟨inner, innerConverted, rfl⟩ := map_eq_ok_iff.mp converted
      exact .inl ⟨name, ofType, inner, rfl, notNested, innerConverted, rfl⟩
  | case3 name ofType =>
      intro converted
      obtain ⟨element, elementConverted, rfl⟩ := map_eq_ok_iff.mp converted
      exact .inr (.inl ⟨name, ofType, element, rfl, elementConverted, rfl⟩)
  | case4 name => simp
  | case5 name => simp
  | case6 kind name notNonNull notList =>
      rintro ⟨⟩
      exact .inr (.inr ⟨name, notNonNull, rfl⟩)
  | case7 kind name ofType notNonNull notList =>
      rintro ⟨⟩
      exact .inr (.inr ⟨name, notNonNull, rfl⟩)
  | case8 => simp
  | case9 => simp

theorem isNonNull_of_typeRef {reference : Reference} {type : TypeRef}
    (kind : reference.kind ≠ .nonNull)
    (converted : reference.typeRef = .ok type) : type.isNonNull = false := by
  obtain ⟨name, ofType, inner, rfl, -⟩ | ⟨-, -, element, -, -, rfl⟩ |
    ⟨name, -, rfl⟩ := typeRef_cases converted
  · exact absurd rfl kind
  · rfl
  · rfl

theorem wellFormed_of_typeRef {reference : Reference} {type : TypeRef}
    (converted : reference.typeRef = .ok type) : type.WellFormed := by
  induction type generalizing reference with
  | named name => trivial
  | nonNull inner ih =>
      obtain ⟨name, ofType, inner, -, notNested, innerConverted, ⟨⟩⟩ |
        ⟨-, -, -, -, -, ⟨⟩⟩ | ⟨-, -, ⟨⟩⟩ := typeRef_cases converted
      exact ⟨isNonNull_of_typeRef notNested innerConverted, ih innerConverted⟩
  | list element ih =>
      obtain ⟨-, -, -, -, -, -, ⟨⟩⟩ | ⟨name, ofType, element, -, converted, ⟨⟩⟩ |
        ⟨-, -, ⟨⟩⟩ := typeRef_cases converted
      exact ih converted

end Reference

theorem wellFormed_withoutStrayReason (member : Member) :
    (withoutStrayReason member).WellFormed := by
  intro notDeprecated
  simp_all [withoutStrayReason]

theorem InputValue.wellFormed_of_convert {value : InputValue}
    {result : TypedGraphQL.InputValue} (converted : value.convert = .ok result) :
    result.WellFormed := by
  obtain ⟨type, typeConverted, ⟨⟩⟩ := bind_eq_ok_iff.mp converted
  exact ⟨wellFormed_withoutStrayReason _,
    Reference.wellFormed_of_typeRef typeConverted⟩

theorem Field.wellFormed_of_convert {field : Field}
    {result : TypedGraphQL.Field} (converted : field.convert = .ok result) :
    result.WellFormed := by
  obtain ⟨type, typeConverted, converted⟩ := bind_eq_ok_iff.mp converted
  obtain ⟨arguments, argumentsConverted, ⟨⟩⟩ := bind_eq_ok_iff.mp converted
  exact ⟨wellFormed_withoutStrayReason _,
    Reference.wellFormed_of_typeRef typeConverted,
    forall_of_mapM_eq_ok (fun _ _ => InputValue.wellFormed_of_convert)
       argumentsConverted⟩

namespace FullType

theorem wellFormed_of_body {type : FullType} {body : TypeBody}
    (converted : type.body = .ok body) : body.WellFormed := by
  rw [FullType.body] at converted
  cases kind : type.kind <;> rw [kind] at converted <;> dsimp only at converted
  case scalar =>
    cases converted
    trivial
  case object =>
    obtain ⟨fields, fieldsConverted, converted⟩ := bind_eq_ok_iff.mp converted
    obtain ⟨interfaces, -, ⟨⟩⟩ := bind_eq_ok_iff.mp converted
    exact forall_of_mapM_eq_ok (fun _ _ => Field.wellFormed_of_convert)
       fieldsConverted
  case interface =>
    obtain ⟨fields, fieldsConverted, converted⟩ := bind_eq_ok_iff.mp converted
    obtain ⟨possibleTypes, -, ⟨⟩⟩ := bind_eq_ok_iff.mp converted
    exact forall_of_mapM_eq_ok (fun _ _ => Field.wellFormed_of_convert)
       fieldsConverted
  case union =>
    obtain ⟨possibleTypes, -, ⟨⟩⟩ := bind_eq_ok_iff.mp converted
    trivial
  case enum =>
    cases converted
    intro value member
    obtain ⟨given, -, rfl⟩ := List.mem_map.mp member
    exact wellFormed_withoutStrayReason given
  case inputObject =>
    obtain ⟨fields, fieldsConverted, ⟨⟩⟩ := bind_eq_ok_iff.mp converted
    exact forall_of_mapM_eq_ok (fun _ _ => InputValue.wellFormed_of_convert)
       fieldsConverted
  case list => cases converted
  case nonNull => cases converted

theorem isReserved_iff_isMeta {type : FullType} :
    IsReserved type.name ↔ type.isMeta = true :=
  List.isPrefixOf_iff_prefix.symm

theorem wellFormed_of_convert {type : FullType} {result : NamedType}
    (own : type.isMeta = false) (converted : type.convert = .ok result) :
    result.WellFormed := by
  obtain ⟨body, bodyConverted, ⟨⟩⟩ := bind_eq_ok_iff.mp converted
  refine ⟨fun reserved => ?_, wellFormed_of_body bodyConverted⟩
  simp [isReserved_iff_isMeta.mp reserved] at own

end FullType

/-- A document is converted to a well-formed schema or to none. -/
theorem Document.wellFormed_of_schema {document : Document} {schema : Schema}
    (converted : document.schema = .ok schema) : schema.WellFormed := by
  rw [Document.schema] at converted
  split at converted
  next types typesConverted =>
    obtain ⟨rfl, distinct, resolved⟩ := Schema.resolve_eq_ok_iff.mp converted
    refine ⟨distinct, ?_, resolved⟩
    refine forall_of_mapM_eq_ok (fun type member => ?_) typesConverted
    have own : type.isMeta = false := by
      simpa using (List.mem_filter.mp member).2
    intro result
    exact FullType.wellFormed_of_convert own
  next fault => cases converted

end TypedGraphQL.Introspection

namespace TypedGraphQL

open Introspection (Reference FullType Document bind_eq_ok_iff)

/--
Whatever the text, a schema that is parsed from it has distinct type names, none
of them reserved, no non-null type made non-null again, reasons only of what is
deprecated, and no reference that leads nowhere.
-/
theorem Schema.wellFormed_of_parse {text : String} {schema : Schema}
    (parsed : Schema.parse text = .ok schema) :
    schema.WellFormed ∧ ∀ name, schema.RefersTo name → schema.Knows name := by
  obtain ⟨document, -, converted⟩ := bind_eq_ok_iff.mp parsed
  have wellFormed := Document.wellFormed_of_schema converted
  refine ⟨wellFormed, fun name refers => ?_⟩
  exact schema.resolves_iff_knows.mp
    (wellFormed.resolved name (schema.mem_references_iff.mpr refers))

def strayDocument : Document :=
  let stray (name : String) : Member := ⟨name, none, false, some "Gone."⟩
  let name : Reference := .wrapping .nonNull none (.bare .scalar (some "String"))
  let search : Introspection.Field :=
    ⟨stray "search", .wrapping .list none name, [⟨stray "by", name, none⟩]⟩
  { roots := ⟨some "Query", none, none⟩
    types := [
      ⟨.object, "__Schema", none, [search], [], [], [], []⟩,
      ⟨.object, "Query", none, [search], [], [], [], []⟩,
      ⟨.enum, "Episode", none, [], [], [], [stray "JEDI"], []⟩,
      ⟨.inputObject, "Filter", none, [], [⟨stray "name", name, none⟩], [], [],
        []⟩] }

def straySchema : Schema :=
  let plain (name : String) : Member := ⟨name, none, false, none⟩
  let name : TypeRef := .nonNull (.named "String")
  { types := [
      ⟨"Query", none,
        .object [⟨plain "search", .list name, [⟨plain "by", name, none⟩]⟩] []⟩,
      ⟨"Episode", none, .enum [plain "JEDI"]⟩,
      ⟨"Filter", none, .inputObject [⟨plain "name", name, none⟩]⟩]
    roots := ⟨some "Query", none, none⟩ }

theorem Schema.wellFormed_of_parse_stray :
    Schema.parse (strayDocument.toJson .bare).text = .ok straySchema ∧
      straySchema.WellFormed ∧
        ∀ name, straySchema.RefersTo name → straySchema.Knows name := by
  have written :=
    Json.isText_text (strayDocument.numberFree_toJson .bare)
  have read := Json.readPrefix_of_isText written (by decide)
  have document := strayDocument.ofJson?_toJson .bare (by
    simp only [strayDocument, List.forall_mem_cons]
    refine ⟨?_, ?_, ?_, ?_, by simp⟩ <;> constructor <;> decide)
  have parsed :
      Schema.parse (strayDocument.toJson .bare).text = .ok straySchema := by
    rw [Schema.parse, Document.read, read]
    simp only [document]
    decide
  exact ⟨parsed, Schema.wellFormed_of_parse parsed⟩

end TypedGraphQL
