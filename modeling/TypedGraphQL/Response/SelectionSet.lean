import TypedGraphQL.Response.LeafType
import TypedGraphQL.Selection.Merge

namespace TypedGraphQL

/-!
Typed selections.  A builder names the fields it needs and says what to make of
their values.  It is run twice: while requests are recorded, every call asks for
a field and yields a placeholder; while a response is decoded, the same call
yields the decoded value.
-/

/-- What a selection is bound to: a type of the schema, or a wrapping of one. -/
inductive Scope where
  | type (name : String)
  | list (element : Scope)
  | nullable (value : Scope)
deriving DecidableEq, Repr

mutual
/-- A call on the fields of one schema type, by what it yields. -/
inductive Call : String → Type → Type 1 where
  | leaf {typeName : String} (name : String) (arguments : Arguments)
      (type : LeafType) : Call typeName type.Value
  | composite {typeName : String} {scope : Scope} {α : Type} (name : String)
      (arguments : Arguments) (selection : SelectionSet scope α) :
      Call typeName α
  | include {typeName : String} {α : Type}
      (selection : SelectionSet (.type typeName) α) : Call typeName α
  | fragments {typeName : String} {α : Type} (cases : Cases α) : Call typeName α

/-- Calls that end in a result; each may depend on how the ones before it went. -/
inductive Builder : String → Type → Type 1 where
  | done {typeName : String} {α : Type} (result : α) : Builder typeName α
  | fail {typeName : String} {α : Type} (error : DecodeError) :
      Builder typeName α
  | isRecording {typeName : String} {α : Type}
      (next : Bool → Builder typeName α) : Builder typeName α
  | make {typeName : String} {α β : Type} (call : Call typeName β)
      (next : Except DecodeError β → Builder typeName α) : Builder typeName α

/-- Requests over a scope together with the reading of their answer. -/
inductive SelectionSet : Scope → Type → Type 1 where
  | build {typeName : String} {α : Type} (builder : Builder typeName α) :
      SelectionSet (.type typeName) α
  | list {scope : Scope} {α : Type} (element : SelectionSet scope α) :
      SelectionSet (.list scope) (List α)
  | nullable {scope : Scope} {α : Type} (value : SelectionSet scope α) :
      SelectionSet (.nullable scope) (Option α)
  | map {scope : Scope} {α β : Type} (change : α → β)
      (selection : SelectionSet scope α) : SelectionSet scope β
  | merge {scope : Scope} {α β γ : Type} (left : SelectionSet scope α)
      (right : SelectionSet scope β) (combine : α → β → γ) :
      SelectionSet scope γ

inductive Cases : Type → Type 1 where
  | nil {α : Type} : Cases α
  | cons {α : Type} (typeName : String)
      (selection : SelectionSet (.type typeName) α) (rest : Cases α) : Cases α
end

/-- The requests of a selection and what recording them came to. -/
structure Recording (α : Type) where
  selections : List Selection
  outcome : Except DecodeError α

def typenameField : String := "__typename"

namespace Builder

variable {typeName : String} {α β : Type}

/-- Goes on with what a builder comes to, be it an error. -/
def attempt : Builder typeName α → (Except DecodeError α → Builder typeName β) →
    Builder typeName β
  | .done result, next => next (.ok result)
  | .fail error, next => next (.error error)
  | .isRecording rest, next => .isRecording fun mode => (rest mode).attempt next
  | .make call rest, next => .make call fun outcome => (rest outcome).attempt next
termination_by structural builder => builder

/-- Goes on with a value and passes an error on. -/
def proceed (next : α → Builder typeName β) :
    Except DecodeError α → Builder typeName β
  | .ok value => next value
  | .error error => .fail error

protected def bind (builder : Builder typeName α)
    (next : α → Builder typeName β) : Builder typeName β :=
  builder.attempt (proceed next)

instance : Monad (Builder typeName) where
  pure := .done
  bind := Builder.bind

/-! Calls whose errors are passed on -/

def leaf (name : String) (arguments : Arguments) (type : LeafType)
    (next : type.Value → Builder typeName α) : Builder typeName α :=
  .make (.leaf name arguments type) (proceed next)

def composite {scope : Scope} (name : String) (arguments : Arguments)
    (selection : SelectionSet scope β) (next : β → Builder typeName α) :
    Builder typeName α :=
  .make (.composite name arguments selection) (proceed next)

def «include» (selection : SelectionSet (.type typeName) β)
    (next : β → Builder typeName α) : Builder typeName α :=
  .make (.include selection) (proceed next)

def fragments (cases : Cases β) (next : β → Builder typeName α) :
    Builder typeName α :=
  .make (.fragments cases) (proceed next)

def typename : Builder typeName String :=
  .leaf typenameField .empty .string .done

end Builder

/-! Recording -/

mutual
/-- What the call asks for, in order, and what it yields meanwhile. -/
def Call.recording {typeName : String} {α : Type} :
    Call typeName α → Recording α
  | .leaf name arguments type =>
    ⟨[.request name arguments []], .ok type.placeholder⟩
  | .composite name arguments selection =>
    let nested := selection.seal
    ⟨[.request name arguments nested.selections], nested.outcome⟩
  | .include selection => selection.seal
  | .fragments cases =>
    let nested := cases.seal
    ⟨.leaf typenameField :: nested.selections, nested.outcome⟩
termination_by structural call => call

/-- The requests after those made `before`, and the outcome of the run. -/
def Builder.record {typeName : String} {α : Type} :
    Builder typeName α → List Selection → Recording α
  | .done result, before => ⟨before, .ok result⟩
  | .fail error, before => ⟨before, .error error⟩
  | .isRecording next, before => (next true).record before
  | .make call next, before =>
    let made := call.recording
    (next made.outcome).record (Selection.mergeAll before made.selections)
termination_by structural builder => builder

/-- The requests of a selection, with the placeholder for its result. -/
def SelectionSet.seal {scope : Scope} {α : Type} :
    SelectionSet scope α → Recording α
  | .build builder => builder.record []
  | .list element => ⟨element.seal.selections, .ok []⟩
  | .nullable value => ⟨value.seal.selections, .ok none⟩
  | .map change selection =>
    let sealed := selection.seal
    ⟨sealed.selections, sealed.outcome.map change⟩
  | .merge left right combine =>
    let sealedLeft := left.seal
    let sealedRight := right.seal
    ⟨Selection.mergeAll sealedLeft.selections sealedRight.selections, do
      let value ← sealedLeft.outcome
      return combine value (← sealedRight.outcome)⟩
termination_by structural selection => selection

/-- A fragment for each case; the first case gives the placeholder. -/
def Cases.seal {α : Type} : Cases α → Recording α
  | .nil => ⟨[], .error (.unknownVariant "")⟩
  | .cons typeName selection rest =>
    let sealed := selection.seal
    ⟨.fragment typeName sealed.selections :: rest.seal.selections,
      sealed.outcome⟩
termination_by structural cases => cases
end

/-! Decoding -/

def fieldNode (entries : List (String × Json)) (key : String) :
    Except DecodeError Json :=
  match Json.entry? entries key with
  | some node => .ok node
  | none => .error (.missingField key)

def itemLabel (label : String) (index : Nat) : String :=
  label ++ "[" ++ toString index ++ "]"

def decodeItems {α : Type} (decode : String → Json → Except DecodeError α)
    (label : String) (index : Nat) : List Json → Except DecodeError (List α)
  | [] => .ok []
  | item :: rest => do
    let value ← decode (itemLabel label index) item
    return value :: (← decodeItems decode label (index + 1) rest)

mutual
def Call.decode {typeName : String} {α : Type} :
    Call typeName α → List (String × Json) → Except DecodeError α
  | .leaf name arguments type, entries =>
    let key := arguments.responseKey name
    fieldNode entries key >>= type.decode key
  | .composite name arguments selection, entries =>
    let key := arguments.responseKey name
    fieldNode entries key >>= selection.decode key
  | .include selection, entries => selection.decode typeName (.object entries)
  | .fragments cases, entries => do
    let concrete ←
      fieldNode entries typenameField >>= LeafType.string.decode typenameField
    cases.decode concrete (.object entries)
termination_by structural call => call

def Builder.decode {typeName : String} {α : Type} :
    Builder typeName α → List (String × Json) → Except DecodeError α
  | .done result, _ => .ok result
  | .fail error, _ => .error error
  | .isRecording next, entries => (next false).decode entries
  | .make call next, entries => (next (call.decode entries)).decode entries
termination_by structural builder => builder

/-- `label` names the node in errors. -/
def SelectionSet.decode {scope : Scope} {α : Type} :
    SelectionSet scope α → String → Json → Except DecodeError α
  | .build builder, label, node =>
    match node with
    | .object entries => builder.decode entries
    | .null => .error (.nullNonNullable label)
    | other => .error (.mismatch label "object" other)
  | .list element, label, node =>
    match node with
    | .array items => decodeItems element.decode label 0 items
    | .null => .error (.nullNonNullable label)
    | other => .error (.mismatch label "list" other)
  | .nullable value, label, node =>
    match node with
    | .null => .ok none
    | node => (value.decode label node).map some
  | .map change selection, label, node =>
    (selection.decode label node).map change
  | .merge left right combine, label, node => do
    let value ← left.decode label node
    return combine value (← right.decode label node)
termination_by structural selection => selection

def Cases.decode {α : Type} : Cases α → String → Json → Except DecodeError α
  | .nil, concrete, _ => .error (.unknownVariant concrete)
  | .cons typeName selection rest, concrete, node =>
    if typeName = concrete then selection.decode typeName node
    else rest.decode concrete node
termination_by structural cases => cases
end

namespace SelectionSet

def selections {scope : Scope} {α : Type} (selection : SelectionSet scope α) :
    List Selection :=
  selection.seal.selections

def build? {typeName : String} {α : Type} (builder : Builder typeName α) :
    Except DecodeError (SelectionSet (.type typeName) α) :=
  (builder.record []).outcome.map fun _ => .build builder

def rootLabel : String := "$"

def decodeRoot {scope : Scope} {α : Type} (selection : SelectionSet scope α)
    (node : Json) : Except DecodeError α :=
  selection.decode rootLabel node

end SelectionSet

end TypedGraphQL
