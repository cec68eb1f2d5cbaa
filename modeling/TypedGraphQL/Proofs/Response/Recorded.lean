import TypedGraphQL.Proofs.Response.Recording
import TypedGraphQL.Proofs.Selection.Unrepeated

namespace TypedGraphQL

/--
Lists of requests made by calls of builders and by merging, one after the other.
A call leaves the list that it came to also when it fails, whether or not the
run goes on.
-/
inductive Recorded : List Selection → Prop where
  | nil : Recorded []
  | request (name : String) (arguments : Arguments)
      {before nested : List Selection} (first : Recorded before)
      (second : Recorded nested) :
      Recorded (Selection.insert before (.request name arguments nested))
  | fragment (typeName : String) {before nested : List Selection}
      (first : Recorded before) (second : Recorded nested) :
      Recorded (Selection.insert before (.fragment typeName nested))
  | merge {before incoming : List Selection} (first : Recorded before)
      (second : Recorded incoming) :
      Recorded (Selection.mergeAll before incoming)

mutual
theorem Call.recorded_merge {typeName : String} {α : Type} :
    ∀ (call : Call typeName α) {before : List Selection}, Recorded before →
      Recorded (Selection.mergeAll before call.recording.selections)
  | .leaf name arguments _, before, recorded => by
      rw [Call.recording, Selection.mergeAll_cons, Selection.mergeAll_nil]
      exact recorded.request name arguments .nil
  | .composite name arguments selection, before, recorded => by
      rw [Call.recording, Selection.mergeAll_cons, Selection.mergeAll_nil]
      exact recorded.request name arguments selection.recorded_selections
  | .include selection, _, recorded =>
      recorded.merge selection.recorded_selections
  | .fragments cases, before, recorded => by
      rw [Call.recording, Selection.mergeAll_cons]
      exact cases.recorded_merge (recorded.request typenameField .empty .nil)

theorem Builder.recorded_record {typeName : String} {α : Type} :
    ∀ (builder : Builder typeName α) {before : List Selection},
      Recorded before → Recorded (builder.record before).selections
  | .done _, _, recorded => recorded
  | .fail _, _, recorded => recorded
  | .isRecording next, _, recorded => (next true).recorded_record recorded
  | .make call next, _, recorded =>
      (next call.recording.outcome).recorded_record
        (call.recorded_merge recorded)

theorem SelectionSet.recorded_selections {scope : Scope} {α : Type} :
    ∀ selection : SelectionSet scope α, Recorded selection.seal.selections
  | .build builder => builder.recorded_record .nil
  | .list element => element.recorded_selections
  | .nullable value => value.recorded_selections
  | .map _ selection => selection.recorded_selections
  | .merge left right _ =>
      left.recorded_selections.merge right.recorded_selections

theorem Cases.recorded_merge {α : Type} :
    ∀ (cases : Cases α) {before : List Selection}, Recorded before →
      Recorded (Selection.mergeAll before cases.seal.selections)
  | .nil, before, recorded => by
      rwa [Cases.seal, Selection.mergeAll_nil]
  | .cons typeName selection rest, before, recorded => by
      rw [Cases.seal, Selection.mergeAll_cons]
      exact rest.recorded_merge
        (recorded.fragment typeName selection.recorded_selections)
end

theorem Recorded.deeplyUnrepeated {selections : List Selection}
    (recorded : Recorded selections) :
    Selection.DeeplyUnrepeated selections := by
  induction recorded with
  | nil => exact .nil
  | request name arguments _ _ before nested =>
      exact before.insert_of_below nested
        fun _ held => held.mergeAll_list _ nested
  | fragment typeName _ _ before nested =>
      exact before.insert_of_below nested
        fun _ held => held.mergeAll_list _ nested
  | merge _ _ before incoming => exact before.mergeAll_list _ incoming

theorem SelectionSet.deeplyUnrepeated_selections {scope : Scope} {α : Type}
    (selection : SelectionSet scope α) :
    Selection.DeeplyUnrepeated selection.selections :=
  selection.recorded_selections.deeplyUnrepeated

theorem Cases.deeplyUnrepeated_of_mem_seal {α : Type} :
    ∀ (cases : Cases α) {entry : Selection}, entry ∈ cases.seal.selections →
      Selection.DeeplyUnrepeated entry.children
  | .nil, _, member => nomatch member
  | .cons typeName selection rest, entry, member => by
      rw [Cases.seal, List.mem_cons] at member
      rcases member with rfl | member
      · exact selection.deeplyUnrepeated_selections
      · exact rest.deeplyUnrepeated_of_mem_seal member

/--
Two fields of one alias, name and argument list, or two fragments of one type.
A NaN among the arguments is like no other.
-/
inductive Selection.AskAlike : Selection → Selection → Prop where
  | field {alias? : Option String} {name : String}
      {arguments otherArguments : Arguments} {nested otherNested : List Selection}
      (alike : arguments.same otherArguments = true) :
      AskAlike (.field alias? name arguments nested)
        (.field alias? name otherArguments otherNested)
  | fragment {typeCondition : String} {nested otherNested : List Selection} :
      AskAlike (.fragment typeCondition nested)
        (.fragment typeCondition otherNested)

theorem Selection.sameRequest_iff {first second : Selection} :
    first.sameRequest second = true ↔ first.AskAlike second := by
  constructor
  · intro same
    cases first <;> cases second <;>
      simp only [sameRequest, Bool.and_eq_true, beq_iff_eq, Bool.false_eq_true]
        at same
    · obtain ⟨⟨rfl, rfl⟩, alike⟩ := same
      exact .field alike
    · subst same
      exact .fragment
  · rintro (alike | _)
    · simp [sameRequest, alike]
    · simp [sameRequest]

/-- Two entries of one sealed list, at any depth, never ask for the same. -/
theorem SelectionSet.requests_differ {scope : Scope} {α : Type}
    (selection : SelectionSet scope α) {requests : List Selection}
    (reached : Selection.ListIn selection.selections requests)
    (first second : Fin requests.length) (apart : first ≠ second) :
    ¬ requests[first].AskAlike requests[second] := by
  have unrepeated : Selection.Unrepeated requests :=
    selection.recorded_selections.deeplyUnrepeated requests reached
  rw [Selection.Unrepeated, List.pairwise_iff_getElem] at unrepeated
  rw [← Selection.sameRequest_iff, Bool.not_eq_true]
  rcases Nat.lt_or_gt_of_ne (Fin.val_ne_of_ne apart) with before | after
  · exact unrepeated _ _ first.isLt second.isLt before
  · rw [Selection.sameRequest_comm]
    exact unrepeated _ _ second.isLt first.isLt after

theorem SelectionSet.requests_differ_hero_twice :
    let requests : List Selection :=
      [.leaf "name", .leaf "__typename",
        .fragment "Droid" [.leaf "primaryFunction"],
        .fragment "Human" [.leaf "homePlanet"]]
    let selection := SelectionSet.merge heroSelection heroSelection Prod.mk
    Selection.ListIn selection.selections requests ∧
      (⟨2, by decide⟩ : Fin requests.length) ≠ ⟨3, by decide⟩ ∧
      ¬ requests[2].AskAlike requests[3] := by
  intro requests selection
  have sealed : selection.selections =
      [.request "hero" ⟨[("episode", .enum "JEDI")]⟩ requests] := by
    have once := heroSelection_selections
    rw [SelectionSet.selections] at once
    simp [selection, requests, SelectionSet.selections, SelectionSet.seal, once,
      Selection.mergeAll_cons, Selection.mergeAll_nil, Selection.insert,
      Selection.changeFirst?, Selection.sameRequest, Selection.request,
      Selection.leaf, Selection.absorb_eq, Selection.withChildren,
      Selection.children, Arguments.same, Arguments.empty, Literal.sameFields,
      Literal.same]
  have reached : Selection.ListIn selection.selections requests := by
    rw [sealed]
    exact .nested .root (List.mem_singleton_self _)
  exact ⟨reached, by decide, selection.requests_differ reached
    ⟨2, by decide⟩ ⟨3, by decide⟩ (by decide)⟩

end TypedGraphQL
