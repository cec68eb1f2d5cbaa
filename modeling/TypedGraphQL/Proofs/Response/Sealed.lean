import TypedGraphQL.Proofs.Response.Recording
import TypedGraphQL.Proofs.Selection.Hereditary
import TypedGraphQL.Proofs.Selection.ResponseKey

namespace TypedGraphQL

/-- The alias of a field is the one that its arguments give it. -/
def Selection.Aliased : Selection → Prop
  | .field alias? name arguments _ => alias? = arguments.alias? name
  | .fragment _ _ => True

theorem Selection.Aliased.recordingRelation :
    RecordingRelation fun selections _ =>
      Selection.Hereditary Selection.Aliased selections where
  nil := .nil
  leaf _ _ := .singleton rfl .nil
  composite _ _ _ _ nested := .singleton rfl nested
  fragment _ _ _ nested := .singleton trivial nested
  append := .append
  mergeAll := .mergeAll fun entry _ aliased => by
    cases entry <;> exact aliased

theorem SelectionSet.aliased_selections {scope : Scope} {α : Type}
    (selection : SelectionSet scope α) :
    Selection.Hereditary Selection.Aliased selection.selections :=
  selection.related_seal Selection.Aliased.recordingRelation

/--
Of two requests in one sealed list that differ in name or written arguments,
the response keys differ exactly when the requests do not clash.
-/
theorem SelectionSet.responseKeys_apart_iff {scope : Scope} {α : Type}
    (selection : SelectionSet scope α) {requests : List Selection}
    (reached : Selection.ListIn selection.selections requests)
    {alias? otherAlias? : Option String} {name other : String}
    {arguments otherArguments : Arguments}
    {nested otherNested : List Selection}
    (asked : .field alias? name arguments nested ∈ requests)
    (otherAsked :
      .field otherAlias? other otherArguments otherNested ∈ requests)
    (differ : name ≠ other ∨ arguments.text ≠ otherArguments.text) :
    Selection.responseKey? (.field alias? name arguments nested) ≠
        Selection.responseKey?
          (.field otherAlias? other otherArguments otherNested) ↔
      ¬ arguments.Clash name other otherArguments := by
  have aliased : alias? = arguments.alias? name :=
    selection.aliased_selections requests reached _ asked
  have otherAliased : otherAlias? = otherArguments.alias? other :=
    selection.aliased_selections requests reached _ otherAsked
  subst aliased otherAliased
  rw [← Arguments.responseKey_eq_iff_clash differ]
  simp [Selection.responseKey?, Arguments.responseKey]

theorem SelectionSet.responseKeys_apart_with_and_without_arguments :
    Selection.responseKey? (.request "hero" .empty []) ≠
        Selection.responseKey? (.request "hero" ⟨[("id", .int 1)]⟩ []) ↔
      ¬ Arguments.empty.Clash "hero" "hero" ⟨[("id", .int 1)]⟩ :=
  SelectionSet.responseKeys_apart_iff
    (.build (.leaf "hero" .empty .json fun _ =>
      .leaf "hero" ⟨[("id", .int 1)]⟩ .json .done :
      Builder "Query" Json)) .root
    (by simp [selections, SelectionSet.seal, Builder.record, Selection.insert,
      Selection.changeFirst?, Selection.sameRequest, Selection.request,
      Arguments.same, Arguments.empty, Literal.sameFields])
    (by simp [selections, SelectionSet.seal, Builder.record, Selection.insert,
      Selection.changeFirst?, Selection.sameRequest, Selection.request,
      Arguments.same, Arguments.empty, Literal.sameFields])
    (.inr (by decide))

/-- Two argument lists of one field with the same fingerprint. -/
theorem SelectionSet.planets_share_responseKey :
    let first : Arguments := ⟨[("id", .int 77091)]⟩
    let second : Arguments := ⟨[("id", .int 156460)]⟩
    let selection : SelectionSet (.type "Query") String :=
      .build (.leaf "planet" first .string fun _ =>
        .leaf "planet" second .string .done)
    .request "planet" first [] ∈ selection.selections ∧
      .request "planet" second [] ∈ selection.selections ∧
      first.text ≠ second.text ∧
      Selection.responseKey? (.request "planet" first []) =
        Selection.responseKey? (.request "planet" second []) := by
  refine ⟨?_, ?_, by decide +kernel, by decide +kernel⟩ <;>
    simp [selections, SelectionSet.seal, Builder.record, Selection.insert,
      Selection.changeFirst?, Selection.sameRequest, Selection.request,
      Arguments.same, Literal.sameFields, Literal.same]

end TypedGraphQL
