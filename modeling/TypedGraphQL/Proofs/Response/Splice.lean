import TypedGraphQL.Proofs.Response.Call

namespace TypedGraphQL

namespace Builder

variable {typeName : String} {α β : Type}

/-- The second builder makes the calls of included builders in their place. -/
inductive Inlines {typeName : String} :
    {α : Type} → Builder typeName α → Builder typeName α → Prop where
  | done {α : Type} (result : α) : Inlines (.done result) (.done result)
  | fail {α : Type} (error : DecodeError) :
      Inlines (.fail error : Builder typeName α) (.fail error)
  | isRecording {α : Type} {next other : Bool → Builder typeName α}
      (goesOn : ∀ mode, Inlines (next mode) (other mode)) :
      Inlines (.isRecording next) (.isRecording other)
  | make {α β : Type} (call : Call typeName β)
      {next other : Except DecodeError β → Builder typeName α}
      (goesOn : ∀ outcome, Inlines (next outcome) (other outcome)) :
      Inlines (.make call next) (.make call other)
  | spliced {α β : Type} {included spliced : Builder typeName β}
      (inner : Inlines included spliced)
      {next other : Except DecodeError β → Builder typeName α}
      (goesOn : ∀ outcome, Inlines (next outcome) (other outcome)) :
      Inlines (.make (.include (.build included)) next) (spliced.attempt other)

theorem Inlines.refl (builder : Builder typeName α) : builder.Inlines builder := by
  induction builder using call_induction with
  | done result => exact .done result
  | fail error => exact .fail error
  | isRecording next ih => exact .isRecording ih
  | make call next ih => exact .make call ih

theorem record_make_include (included : Builder typeName β)
    (next : Except DecodeError β → Builder typeName α) (before : List Selection) :
    (Builder.make (.include (.build included)) next).record before =
      (next (included.record before).outcome).record
        (included.record before).selections := by
  rw [record_eq_after included before]
  rfl

theorem Inlines.record_eq {builder inlined : Builder typeName α}
    (inlines : builder.Inlines inlined) (before : List Selection) :
    builder.record before = inlined.record before := by
  induction inlines generalizing before with
  | done result => rfl
  | fail error => rfl
  | isRecording _ ih => exact ih true before
  | make call _ ih => exact ih _ _
  | spliced _ _ ihInner ih =>
      rw [record_make_include, record_attempt, ihInner]
      exact ih _ _

theorem Inlines.decode_eq {builder inlined : Builder typeName α}
    (inlines : builder.Inlines inlined) (entries : List (String × Json)) :
    builder.decode entries = inlined.decode entries := by
  induction inlines with
  | done result => rfl
  | fail error => rfl
  | isRecording _ ih => exact ih false
  | make call _ ih => exact ih _
  | @spliced α β included spliced inner next other goesOn ihInner ih =>
      calc
        (Builder.make (.include (.build included)) next).decode entries
        _ = (next (included.decode entries)).decode entries := rfl
        _ = (other (included.decode entries)).decode entries := ih _
        _ = (other (spliced.decode entries)).decode entries := by rw [ihInner]
        _ = (spliced.attempt other).decode entries :=
          (decode_attempt spliced other entries).symm

end Builder

/-! Selections over one object -/

namespace SelectionSet

variable {typeName : String} {α β γ : Type}

theorem decode_object_congr {α : Type} :
    ∀ (selection : SelectionSet (.type typeName) α) (label other : String)
      (entries : List (String × Json)),
      selection.decode label (.object entries) =
        selection.decode other (.object entries)
  | .build _, _, _, _ => rfl
  | .map change selection, label, other, entries => by
      rw [SelectionSet.decode, SelectionSet.decode,
        decode_object_congr selection label other]
  | .merge left right combine, label, other, entries => by
      rw [SelectionSet.decode, SelectionSet.decode,
        decode_object_congr left label other,
        decode_object_congr right label other]

def shapeError (label : String) (node : Json) : DecodeError :=
  match node with
  | .null => .nullNonNullable label
  | other => .mismatch label "object" other

theorem decode_of_not_object {α : Type} :
    ∀ (selection : SelectionSet (.type typeName) α) (label : String)
      {node : Json}, (∀ entries, node ≠ .object entries) →
      selection.decode label node = .error (shapeError label node)
  | .build _, label, node, noObject => by
      cases node with
      | object entries => exact absurd rfl (noObject entries)
      | _ => rfl
  | .map change selection, label, node, noObject => by
      rw [SelectionSet.decode, decode_of_not_object selection label noObject]
      rfl
  | .merge left right combine, label, node, noObject => by
      rw [SelectionSet.decode, decode_of_not_object left label noObject]
      rfl

/-- A builder that includes two selections, one after the other. -/
def includingBoth (left : SelectionSet (.type typeName) α)
    (right : SelectionSet (.type typeName) β) (combine : α → β → γ) :
    SelectionSet (.type typeName) γ :=
  .build (.include left fun first => .include right fun second =>
    .done (combine first second))

theorem seal_includingBoth (left : SelectionSet (.type typeName) α)
    (right : SelectionSet (.type typeName) β) (combine : α → β → γ)
    (recorded : ∃ value, left.seal.outcome = .ok value) :
    (includingBoth left right combine).seal =
      (SelectionSet.merge left right combine).seal := by
  obtain ⟨value, recorded⟩ := recorded
  have ordered : Selection.mergeAll [] left.seal.selections =
      left.seal.selections :=
    Selection.nil_mergeAll left.deeplyUnrepeated_selections.unrepeated
  simp only [includingBoth, SelectionSet.seal, Builder.include, Builder.record,
    Call.recording, recorded, ordered, Builder.proceed_ok]
  rcases right.seal with ⟨requested, error | value⟩ <;> rfl

theorem decode_includingBoth (left : SelectionSet (.type typeName) α)
    (right : SelectionSet (.type typeName) β) (combine : α → β → γ)
    (label : String) (node : Json) :
    (includingBoth left right combine).decode label node =
      (SelectionSet.merge left right combine).decode label node := by
  -- The including builder labels an object by its type, merging keeps the label;
  -- a label is read only where the node is not an object.
  by_cases isObject : ∃ entries, node = .object entries
  · obtain ⟨entries, rfl⟩ := isObject
    rw [includingBoth, SelectionSet.decode, SelectionSet.decode,
      decode_object_congr left label typeName,
      decode_object_congr right label typeName]
    simp only [Builder.include, Builder.decode, Call.decode]
    cases left.decode typeName (.object entries) with
    | error error => rfl
    | ok first =>
        simp only [Builder.proceed_ok, Builder.decode, Call.decode]
        cases right.decode typeName (.object entries) <;> rfl
  · rw [not_exists] at isObject
    rw [decode_of_not_object _ label isObject,
      decode_of_not_object _ label isObject]

/--
A builder that includes selections seals, records and decodes like the one that
makes their accesses in their place, also where these fail midway.  Merging two
selections is including both in one builder, the left one first.
-/
theorem include_is_splicing :
    (∀ {typeName : String} {α : Type} {builder inlined : Builder typeName α},
      builder.Inlines inlined →
        (SelectionSet.build builder).seal = (SelectionSet.build inlined).seal ∧
        ∀ label node, (SelectionSet.build builder).decode label node =
          (SelectionSet.build inlined).decode label node) ∧
    ∀ {typeName : String} {α β γ : Type}
        (left : SelectionSet (.type typeName) α)
        (right : SelectionSet (.type typeName) β) (combine : α → β → γ),
      (∃ value, left.seal.outcome = .ok value) →
        (SelectionSet.merge left right combine).seal =
          (includingBoth left right combine).seal ∧
        ∀ label node, (SelectionSet.merge left right combine).decode label node =
          (includingBoth left right combine).decode label node := by
  constructor
  · intro typeName α builder inlined inlines
    refine ⟨inlines.record_eq [], fun label node => ?_⟩
    cases node with
    | object entries => exact inlines.decode_eq entries
    | _ => rfl
  · intro typeName α β γ left right combine recorded
    exact ⟨(seal_includingBoth left right combine recorded).symm,
      fun label node => (decode_includingBoth left right combine label node).symm⟩

theorem include_is_splicing_guarded_name :
    let id : Builder "Human" String := .leaf "id" .empty .string .done
    let name : Builder "Human" String :=
      .leaf "name" .empty .string fun text =>
        if text.isEmpty then .fail (.unknownVariant text) else .done text
    let builder := id.bind fun key =>
      .include (.build name) fun text => .done (key, text)
    let inlined := id.bind fun key => name.bind fun text => .done (key, text)
    builder.Inlines inlined ∧
      (SelectionSet.build builder).seal = (SelectionSet.build inlined).seal ∧
      (∃ value, (SelectionSet.build id).seal.outcome = .ok value) ∧
      (SelectionSet.merge (.build id) (.build name) Prod.mk).seal =
        (includingBoth (.build id) (.build name) Prod.mk).seal := by
  intro id name builder inlined
  have inlines : builder.Inlines inlined := by
    refine .make (.leaf "id" .empty .string) fun outcome => ?_
    cases outcome with
    | ok key => exact .spliced (.refl name) fun _ => .refl _
    | error error => exact .fail error
  have recorded : ∃ value, (SelectionSet.build id).seal.outcome = .ok value :=
    ⟨"", rfl⟩
  exact ⟨inlines, (include_is_splicing.1 inlines).1, recorded,
    (include_is_splicing.2 (.build id) (.build name) Prod.mk recorded).1⟩

end SelectionSet

end TypedGraphQL
