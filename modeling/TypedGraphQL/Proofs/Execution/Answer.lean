import TypedGraphQL.Proofs.Execution.Resolver

namespace TypedGraphQL

/-- The value of a node when nothing is asked of its objects. -/
def Node.bare {Object : Type} : Node Object → Json
  | .leaf value => value
  | .list items => .array (items.map Node.bare)
  | .object _ => .object []

def answerItems {Object α : Type}
    (answer : String → Node Object → Except DecodeError α)
    (label : String) (index : Nat) : List (Node Object) →
      Except DecodeError (List α)
  | [] => .ok []
  | item :: rest => do
    let value ← answer (itemLabel label index) item
    return value :: (← answerItems answer label (index + 1) rest)

section Answer

variable {Object : Type} (resolver : Resolver Object)

mutual
def Call.answer {typeName : String} {α : Type} :
    Call typeName α → Object → Except DecodeError α
  | .leaf name arguments type, object =>
    type.decode (arguments.responseKey name)
      (resolver.resolve object name arguments.text).bare
  | .composite name arguments selection, object =>
    selection.answer (arguments.responseKey name)
      (resolver.resolve object name arguments.text)
  | .include selection, object => selection.answer typeName (.object object)
  | .fragments cases, object => cases.answer object
termination_by structural call => call

def Builder.answer {typeName : String} {α : Type} :
    Builder typeName α → Object → Except DecodeError α
  | .done result, _ => .ok result
  | .fail error, _ => .error error
  | .isRecording next, object => (next false).answer object
  | .make call next, object => (next (call.answer object)).answer object
termination_by structural builder => builder

/-- A leaf that is itself an object has no fields to resolve, and is read as it is. -/
def SelectionSet.answer {scope : Scope} {α : Type} :
    SelectionSet scope α → String → Node Object → Except DecodeError α
  | .build builder, label, node =>
    match node with
    | .object object => builder.answer object
    | .leaf (.object entries) => builder.decode entries
    | .leaf .null => .error (.nullNonNullable label)
    | .leaf value => .error (.mismatch label "object" value)
    | .list _ => .error (.mismatch label "object" (.array []))
  | .list element, label, node =>
    match node with
    | .list items => answerItems element.answer label 0 items
    | .leaf (.array items) => answerItems element.answer label 0 (items.map .leaf)
    | .leaf .null => .error (.nullNonNullable label)
    | .leaf value => .error (.mismatch label "list" value)
    | .object _ => .error (.mismatch label "list" (.object []))
  | .nullable value, label, node =>
    match node with
    | .leaf .null => .ok none
    | node => (value.answer label node).map some
  | .map change selection, label, node =>
    (selection.answer label node).map change
  | .merge left right combine, label, node => do
    let value ← left.answer label node
    return combine value (← right.answer label node)
termination_by structural selection => selection

def Cases.answer {α : Type} : Cases α → Object → Except DecodeError α
  | .nil, object => .error (.unknownVariant (resolver.typeName object))
  | .cons typeName selection rest, object =>
    if typeName = resolver.typeName object then
      selection.answer typeName (.object object)
    else rest.answer object
termination_by structural cases => cases
end

theorem decodeItems_map {Object α : Type} {complete : Node Object → Json}
    {decode : String → Json → Except DecodeError α}
    {answer : String → Node Object → Except DecodeError α} (label : String) :
    ∀ (index : Nat) (items : List (Node Object)),
      (∀ item ∈ items, ∀ label,
        decode label (complete item) = answer label item) →
      decodeItems decode label index (items.map complete) =
        answerItems answer label index items
  | _, [], _ => rfl
  | index, item :: rest, agree => by
      rw [List.map_cons, decodeItems, answerItems, agree item (by simp),
        decodeItems_map label (index + 1) rest
          fun other member => agree other (by simp [member])]

/-- Where nothing is left to resolve, the answer is what decoding makes of the value. -/
theorem SelectionSet.answer_leaf {scope : Scope} {α : Type} :
    ∀ (selection : SelectionSet scope α) (label : String) (value : Json),
      selection.answer resolver label (.leaf value) = selection.decode label value
  | .build builder, label, value => by cases value <;> rfl
  | .list element, label, value => by
      cases value with
      | array items =>
          have bare : (items.map Node.leaf).map (@Node.bare Object) = items := by
            rw [List.map_map]
            exact List.map_id'' (fun item => by rw [Function.comp, Node.bare]) items
          have each : ∀ node ∈ items.map Node.leaf, ∀ label,
              element.decode label (@Node.bare Object node) =
                element.answer resolver label node :=
            List.forall_mem_map.mpr fun item _ label => by
              rw [Node.bare, element.answer_leaf label item]
          calc
            answerItems (element.answer resolver) label 0 (items.map .leaf)
            _ = decodeItems element.decode label 0
                  ((items.map Node.leaf).map Node.bare) :=
              (decodeItems_map label 0 _ each).symm
            _ = decodeItems element.decode label 0 items := by rw [bare]
      | null | bool | number | string | object => rfl
  | .nullable value, label, held => by
      have agree := congrArg (Except.map some) (value.answer_leaf label held)
      cases held with
      | null => rfl
      | bool | number | string | array | object => exact agree
  | .map change selection, label, value => by
      rw [SelectionSet.answer, SelectionSet.decode,
        selection.answer_leaf label value]
  | .merge left right combine, label, value => by
      rw [SelectionSet.answer, SelectionSet.decode, left.answer_leaf label value,
        right.answer_leaf label value]

end Answer

end TypedGraphQL
