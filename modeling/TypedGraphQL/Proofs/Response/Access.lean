import TypedGraphQL.Response.SelectionSet

namespace TypedGraphQL

/-- One access of a builder to the object that it is run on. -/
inductive Access where
  | leaf (name : String) (arguments : Arguments)
  | composite (name : String) (arguments : Arguments) (nested : List Access)
  | fragment (typeName : String) (accesses : List Access)

mutual
def Call.accesses {typeName : String} {α : Type} : Call typeName α → List Access
  | .leaf name arguments _ => [.leaf name arguments]
  | .composite name arguments selection =>
    [.composite name arguments selection.accesses]
  | .include selection => selection.accesses
  | .fragments cases => .leaf typenameField .empty :: cases.accesses
termination_by structural call => call

/-- The accesses of a recording run; those of an included selection stand in its place. -/
def Builder.accesses {typeName : String} {α : Type} :
    Builder typeName α → List Access
  | .done _ => []
  | .fail _ => []
  | .isRecording next => (next true).accesses
  | .make call next => call.accesses ++ (next call.recording.outcome).accesses
termination_by structural builder => builder

def SelectionSet.accesses {scope : Scope} {α : Type} :
    SelectionSet scope α → List Access
  | .build builder => builder.accesses
  | .list element => element.accesses
  | .nullable value => value.accesses
  | .map _ selection => selection.accesses
  | .merge left right _ => left.accesses ++ right.accesses
termination_by structural selection => selection

def Cases.accesses {α : Type} : Cases α → List Access
  | .nil => []
  | .cons typeName selection rest =>
    .fragment typeName selection.accesses :: rest.accesses
termination_by structural cases => cases
end

/-! The same accesses in both modes -/

section Uniform

variable (raises : DecodeError → Prop)

mutual
def Call.Uniform {typeName : String} {α : Type} : Call typeName α → Prop
  | .leaf .. => True
  | .composite _ _ selection => selection.Uniform
  | .include selection => selection.Uniform
  | .fragments cases => cases.Uniform
termination_by structural call => call

/--
While decoding, the builder makes the given accesses one after the other,
whatever its calls come to; it may stop early with a result, with an error that
is `allowed`, or with one that a call has come to.
-/
def Builder.Follows {typeName : String} {α : Type} :
    Builder typeName α → (DecodeError → Prop) → List Access → Prop
  | .done _, _, _ => True
  | .fail error, allowed, _ => allowed error
  | .isRecording next, allowed, accesses =>
    (next false).Follows allowed accesses
  | .make call next, allowed, accesses =>
    ∃ rest, accesses = call.accesses ++ rest ∧ call.Uniform ∧
      ∀ entries, (next (call.decode entries)).Follows
        (fun error => allowed error ∨ call.decode entries = .error error) rest
termination_by structural builder => builder

/--
Every builder in the selection makes the same accesses in both modes, and raises
no errors of its own but those that `raises` allows.
-/
def SelectionSet.Uniform {scope : Scope} {α : Type} :
    SelectionSet scope α → Prop
  | .build builder => builder.Follows raises builder.accesses
  | .list element => element.Uniform
  | .nullable value => value.Uniform
  | .map _ selection => selection.Uniform
  | .merge left right _ => left.Uniform ∧ right.Uniform
termination_by structural selection => selection

def Cases.Uniform {α : Type} : Cases α → Prop
  | .nil => True
  | .cons _ selection rest => selection.Uniform ∧ rest.Uniform
termination_by structural cases => cases
end

end Uniform

theorem Builder.Follows.proceed {raises : DecodeError → Prop} {typeName : String}
    {α β : Type} {next : β → Builder typeName α} {outcome : Except DecodeError β}
    {allowed : DecodeError → Prop} {accesses : List Access}
    (goesOn : ∀ value, outcome = .ok value →
      (next value).Follows raises
        (fun error => allowed error ∨ outcome = .error error) accesses) :
    (Builder.proceed next outcome).Follows raises
      (fun error => allowed error ∨ outcome = .error error) accesses := by
  cases outcome with
  | ok value => exact goesOn value rfl
  | error error => exact .inr rfl

/-! Recording without an error of the builder's own -/

def Cases.isEmpty {α : Type} : Cases α → Bool
  | .nil => true
  | .cons .. => false

mutual
def Call.Records {typeName : String} {α : Type} : Call typeName α → Prop
  | .leaf .. => True
  | .composite _ _ selection => selection.Records
  | .include selection => selection.Records
  | .fragments cases => cases.isEmpty = false ∧ cases.Records
termination_by structural call => call

/-- A recording run ends with no error but one that it has `met`. -/
def Builder.RecordsAfter {typeName : String} {α : Type} :
    Builder typeName α → (DecodeError → Prop) → Prop
  | .done _, _ => True
  | .fail error, met => met error
  | .isRecording next, met => (next true).RecordsAfter met
  | .make call next, met =>
    call.Records ∧ (next call.recording.outcome).RecordsAfter
      fun error => met error ∨ call.recording.outcome = .error error
termination_by structural builder => builder

/-- No builder in the selection raises an error of its own while recording. -/
def SelectionSet.Records {scope : Scope} {α : Type} :
    SelectionSet scope α → Prop
  | .build builder => builder.RecordsAfter fun _ => False
  | .list element => element.Records
  | .nullable value => value.Records
  | .map _ selection => selection.Records
  | .merge left right _ => left.Records ∧ right.Records
termination_by structural selection => selection

def Cases.Records {α : Type} : Cases α → Prop
  | .nil => True
  | .cons _ selection rest => selection.Records ∧ rest.Records
termination_by structural cases => cases
end

mutual
theorem Call.recording_outcome {typeName : String} {α : Type} :
    ∀ call : Call typeName α,
      call.Records → ∃ value, call.recording.outcome = .ok value
  | .leaf _ _ type, _ => ⟨type.placeholder, rfl⟩
  | .composite _ _ selection, records => selection.seal_outcome records
  | .include selection, records => selection.seal_outcome records
  | .fragments cases, records => cases.seal_outcome records.1 records.2

theorem Builder.record_outcome {typeName : String} {α : Type} :
    ∀ (builder : Builder typeName α) (before : List Selection)
      {met : DecodeError → Prop}, (∀ error, ¬ met error) →
      builder.RecordsAfter met →
        ∃ value, (builder.record before).outcome = .ok value
  | .done result, _, _, _, _ => ⟨result, rfl⟩
  | .fail error, _, _, unmet, records => absurd records (unmet error)
  | .isRecording next, before, _, unmet, records =>
      (next true).record_outcome before unmet records
  | .make call next, before, _, unmet, records => by
      obtain ⟨value, recorded⟩ := call.recording_outcome records.1
      refine (next call.recording.outcome).record_outcome _ ?_ records.2
      rintro error (met | raised)
      · exact unmet error met
      · rw [recorded] at raised
        contradiction

theorem SelectionSet.seal_outcome {scope : Scope} {α : Type} :
    ∀ selection : SelectionSet scope α,
      selection.Records → ∃ value, selection.seal.outcome = .ok value
  | .build builder, records => builder.record_outcome [] (fun _ => id) records
  | .list _, _ => ⟨[], rfl⟩
  | .nullable _, _ => ⟨none, rfl⟩
  | .map change selection, records => by
      obtain ⟨value, sealed⟩ := selection.seal_outcome records
      exact ⟨change value, by simp [SelectionSet.seal, sealed, Except.map]⟩
  | .merge left right combine, records => by
      obtain ⟨first, sealedLeft⟩ := left.seal_outcome records.1
      obtain ⟨second, sealedRight⟩ := right.seal_outcome records.2
      exact ⟨combine first second, by
        simp only [SelectionSet.seal, sealedLeft, sealedRight]
        rfl⟩

theorem Cases.seal_outcome {α : Type} :
    ∀ cases : Cases α, cases.isEmpty = false → cases.Records →
      ∃ value, cases.seal.outcome = .ok value
  | .nil, nonempty, _ => by simp [Cases.isEmpty] at nonempty
  | .cons _ selection _, _, records => selection.seal_outcome records.1
end

end TypedGraphQL
