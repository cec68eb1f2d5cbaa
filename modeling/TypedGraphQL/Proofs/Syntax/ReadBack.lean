import TypedGraphQL.Proofs.Number.Shortest
import TypedGraphQL.Proofs.Syntax.Value

namespace TypedGraphQL

namespace Syntax

def value? (text : List Char) : Option (Literal × List Char) := do
  let (tree, rest) ← tree? text
  return (← tree.literal?, rest)

end Syntax

namespace Literal

open Syntax

mutual
def Legible : Literal → Prop
  | null => True
  | boolean _ => True
  | int _ => True
  | float _ => True
  | string _ => True
  | enum name => isName name = true ∧ name ∉ ["null", "true", "false"]
  | list items => ItemsLegible items
  | object fields => FieldsLegible fields

def ItemsLegible : List Literal → Prop
  | [] => True
  | item :: rest => item.Legible ∧ ItemsLegible rest

def FieldsLegible : List (String × Literal) → Prop
  | [] => True
  | (name, value) :: rest =>
    isName name = true ∧ value.Legible ∧ FieldsLegible rest
end

mutual
theorem Legible.writable : ∀ {value : Literal}, value.Legible → value.Writable
  | null, _ => trivial
  | boolean _, _ => trivial
  | int _, _ => trivial
  | float _, _ => Binary64.number?_text
  | string _, _ => trivial
  | enum _, legible => legible
  | list _, legible => ItemsLegible.writable legible
  | object _, legible => FieldsLegible.writable legible

theorem ItemsLegible.writable :
    ∀ {items : List Literal}, ItemsLegible items → ItemsWritable items
  | [], _ => trivial
  | _ :: _, legible => ⟨legible.1.writable, ItemsLegible.writable legible.2⟩

theorem FieldsLegible.writable :
    ∀ {fields : List (String × Literal)}, FieldsLegible fields →
      FieldsWritable fields
  | [], _ => trivial
  | (_, _) :: _, legible =>
      ⟨legible.1, legible.2.1.writable, FieldsLegible.writable legible.2.2⟩
end

theorem value?_text {value : Literal} (legible : value.Legible) {rest : List Char}
    (boundary : Boundary rest) :
    value? (value.text.toList ++ rest) = some (value.asWritten, rest) := by
  have reads := (readsAsTree_text value legible.writable).tree? boundary
  have literal := literal?_tree value legible.writable
  rw [value?, reads]
  simp only [Option.bind_eq_bind, Option.bind_some, literal]
  rfl

/--
A written value is read back in front of any text that does not go on with it,
and all of that text is left over.  So texts that start with values are only the
same if the values are, and end at the same place.
-/
theorem text_readBack {value : Literal} (legible : value.Legible)
    {rest : List Char} (boundary : Boundary rest) :
    value? (value.text.toList ++ rest) = some (value.asWritten, rest) ∧
      ∀ {other : Literal} {otherRest : List Char}, other.Legible →
        Boundary otherRest →
        other.text.toList ++ otherRest = value.text.toList ++ rest →
        other.asWritten = value.asWritten ∧ otherRest = rest := by
  have read := value?_text legible boundary
  refine ⟨read, ?_⟩
  intro other otherRest otherLegible otherBoundary same
  have otherRead := value?_text otherLegible otherBoundary
  rw [same, read, Option.some.injEq, Prod.mk.injEq] at otherRead
  exact ⟨otherRead.1.symm, otherRead.2.symm⟩

def quotedReview : Literal :=
  .object
    [("text", .string "\"\x7d, admin: true, note: \"\\"),
      ("codes", .list
        [.string "\x00\n\u2028", .int (-5), .float .nan, .enum "JEDI", .null]),
      ("weight", .float (Binary64.ofRatio true 1 3))]

def quotedReviewRead : Literal :=
  .object
    [("text", .string "\"\x7d, admin: true, note: \"\\"),
      ("codes", .list
        [.string "\x00\n\u2028", .int (-5), .null, .enum "JEDI", .null]),
      ("weight", .float (Binary64.ofRatio true 1 3))]

theorem quotedReview_legible : quotedReview.Legible :=
  ⟨by decide, trivial, by decide,
    ⟨trivial, trivial, trivial, ⟨by decide, by decide⟩, trivial, trivial⟩,
    by decide, trivial, trivial⟩

theorem text_readBack_quotedReview :
    quotedReview.Legible ∧ Boundary ", limit: 3".toList ∧
      value? (quotedReview.text.toList ++ ", limit: 3".toList) =
        some (quotedReviewRead, ", limit: 3".toList) := by
  have boundary : Boundary ", limit: 3".toList :=
    .cons (by decide : ',' ∈ boundaries)
  have number : Binary64.nan.isFinite = false := by decide
  have weight : (Binary64.ofRatio true 1 3).isFinite = true := by decide
  have written : quotedReview.asWritten = quotedReviewRead := by
    simp [quotedReview, quotedReviewRead, asWritten, itemsAsWritten,
      fieldsAsWritten, number, weight]
  have read := (text_readBack quotedReview_legible boundary).1
  rw [written] at read
  exact ⟨quotedReview_legible, boundary, read⟩

end Literal

end TypedGraphQL
