import TypedGraphQL.Proofs.Response.Call
import TypedGraphQL.Proofs.Selection.Repetition

namespace TypedGraphQL

/--
The empty list is neutral and merging is associative.  The entries of the left
list stay where they are, whatever is joined to them below; those of the right
list that are not among them come after, in their order.
-/
theorem SelectionSet.merging_is_ordered_monoid
    {firstScope secondScope thirdScope : Scope} {α β γ : Type}
    (first : SelectionSet firstScope α) (second : SelectionSet secondScope β)
    (third : SelectionSet thirdScope γ) :
    Selection.mergeAll [] first.selections = first.selections ∧
      Selection.mergeAll first.selections [] = first.selections ∧
      Selection.mergeAll (Selection.mergeAll first.selections second.selections)
          third.selections =
        Selection.mergeAll first.selections
          (Selection.mergeAll second.selections third.selections) ∧
      Selection.mergeAll first.selections second.selections =
        first.selections.map (Selection.joined second.selections) ++
          Selection.unasked first.selections second.selections := by
  have firstApart := first.deeplyUnrepeated_selections
  have secondApart := second.deeplyUnrepeated_selections
  have thirdApart := third.deeplyUnrepeated_selections
  refine ⟨?neutralLeft, ?neutralRight, ?associative, ?ordered⟩
  case neutralLeft => exact Selection.nil_mergeAll firstApart.unrepeated
  case neutralRight => exact Selection.mergeAll_nil first.selections
  case associative =>
    exact Selection.mergeAll_assoc third.selections first.selections secondApart
      thirdApart.below
  case ordered =>
    exact Selection.mergeAll_eq_append firstApart.unrepeated
      secondApart.unrepeated

/-! Calls made twice -/

namespace Call

def register {typeName : String} {α : Type} (call : Call typeName α)
    (before : List Selection) : List Selection :=
  ((Builder.make call (Builder.proceed .done)).record before).selections

theorem register_eq_mergeAll {typeName : String} {α : Type}
    (call : Call typeName α) (before : List Selection) :
    call.register before = Selection.mergeAll before call.requests := by
  rw [register, Builder.record, requests]
  cases call.recording.outcome <;> rfl

/--
A call that is made again records nothing new exactly if no NaN is among the
arguments of its requests, at any depth; nor does a sealed list that is merged
in again.
-/
theorem repetition_is_absorbed_iff {typeName : String} {α β γ : Type}
    (call : Call typeName α) (before : List Selection)
    {firstScope secondScope : Scope} (first : SelectionSet firstScope β)
    (second : SelectionSet secondScope γ) :
    (call.register (call.register before) = call.register before ↔
      Selection.NaNFree call.requests) ∧
    (Selection.mergeAll
          (Selection.mergeAll first.selections second.selections)
          second.selections =
        Selection.mergeAll first.selections second.selections ↔
      Selection.NaNFree second.selections) := by
  constructor
  · rw [register_eq_mergeAll, register_eq_mergeAll]
    exact Selection.mergeAll_mergeAll_iff call.deeplyUnrepeated_of_mem_requests
      before
  · exact Selection.mergeAll_mergeAll_iff
      second.deeplyUnrepeated_selections.below first.selections

/-- A field with a NaN for an argument is asked for as often as it is read. -/
theorem leaf_with_nan_registers_twice :
    let call : Call "Query" Json := .leaf "f" ⟨[("x", .float .nan)]⟩ .json
    let request := Selection.request "f" ⟨[("x", .float .nan)]⟩ []
    call.register [] = [request] ∧
      call.register (call.register []) = [request, request] := by
  intro call request
  have unlike : request.sameRequest request = false := by
    rw [Selection.sameRequest_self]
    decide
  have once : call.register [] = [request] := rfl
  refine ⟨once, ?_⟩
  rw [once, register_eq_mergeAll]
  change Selection.mergeAll [request] [request] = _
  rw [Selection.mergeAll_cons, Selection.mergeAll_nil,
    Selection.insert_cons_of_other unlike, Selection.insert_nil]

end Call

end TypedGraphQL
