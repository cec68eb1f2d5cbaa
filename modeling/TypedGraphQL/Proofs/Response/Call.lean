import TypedGraphQL.Proofs.Response.Recorded
import TypedGraphQL.Proofs.Selection.Monoid

namespace TypedGraphQL

def Recording.after {α : Type} (before : List Selection)
    (recording : Recording α) : Recording α :=
  ⟨Selection.mergeAll before recording.selections, recording.outcome⟩

namespace Call

variable {typeName : String} {α : Type}

def requests (call : Call typeName α) : List Selection :=
  call.recording.selections

theorem deeplyUnrepeated_of_mem_requests (call : Call typeName α) :
    ∀ entry ∈ call.requests, Selection.DeeplyUnrepeated entry.children := by
  cases call with
  | leaf name arguments type =>
      rw [requests, recording, List.forall_mem_singleton]
      exact .nil
  | composite name arguments selection =>
      rw [requests, recording, List.forall_mem_singleton]
      exact selection.deeplyUnrepeated_selections
  | «include» selection =>
      exact selection.deeplyUnrepeated_selections.below
  | fragments cases =>
      rw [requests, recording, List.forall_mem_cons]
      exact ⟨.nil, fun _ => cases.deeplyUnrepeated_of_mem_seal⟩

end Call

namespace Builder

variable {typeName : String} {α β : Type}

/-- A builder is over, asks for its mode, or makes a call and goes on. -/
@[elab_as_elim]
theorem call_induction {motive : Builder typeName α → Prop}
    (done : ∀ result, motive (.done result))
    (fail : ∀ error, motive (.fail error))
    (isRecording : ∀ next, (∀ mode, motive (next mode)) →
      motive (.isRecording next))
    (make : ∀ {β : Type} (call : Call typeName β)
      (next : Except DecodeError β → Builder typeName α),
      (∀ outcome, motive (next outcome)) → motive (.make call next)) :
    ∀ builder, motive builder
  | .done result => done result
  | .fail error => fail error
  | .isRecording next => isRecording next fun mode =>
      call_induction done fail isRecording make (next mode)
  | .make call next => make call next fun outcome =>
      call_induction done fail isRecording make (next outcome)

theorem record_attempt (builder : Builder typeName α)
    (next : Except DecodeError α → Builder typeName β)
    (before : List Selection) :
    (builder.attempt next).record before =
      (next (builder.record before).outcome).record
        (builder.record before).selections := by
  induction builder using call_induction generalizing before with
  | done result => rfl
  | fail error => rfl
  | isRecording rest ih => exact ih true before
  | make call rest ih => exact ih _ _

theorem decode_attempt (builder : Builder typeName α)
    (next : Except DecodeError α → Builder typeName β)
    (entries : List (String × Json)) :
    (builder.attempt next).decode entries =
      (next (builder.decode entries)).decode entries := by
  induction builder using call_induction with
  | done result => rfl
  | fail error => rfl
  | isRecording rest ih => exact ih false
  | make call rest ih => exact ih _

/-- What was requested before the run does not change what the run requests. -/
theorem record_mergeAll (builder : Builder typeName α) (before : List Selection)
    {requested : List Selection}
    (unrepeated : Selection.DeeplyUnrepeated requested) :
    builder.record (Selection.mergeAll before requested) =
      (builder.record requested).after before := by
  induction builder using call_induction generalizing requested with
  | done result => rfl
  | fail error => rfl
  | isRecording next ih => exact ih true unrepeated
  | make call next ih =>
      have below := call.deeplyUnrepeated_of_mem_requests
      rw [record, ← Call.requests,
        Selection.mergeAll_assoc _ before unrepeated below]
      exact ih _ (unrepeated.mergeAll_of_below call.requests below)

theorem record_eq_after (builder : Builder typeName α)
    (before : List Selection) :
    builder.record before = (builder.record []).after before := by
  rw [← record_mergeAll builder before .nil, Selection.mergeAll_nil]

end Builder

end TypedGraphQL
