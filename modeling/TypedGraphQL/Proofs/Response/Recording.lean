import TypedGraphQL.Proofs.Response.Access
import TypedGraphQL.Proofs.Selection.Merge

namespace TypedGraphQL

/-- A relation between requests and accesses that every step of a recording keeps. -/
structure RecordingRelation
    (Relation : List Selection → List Access → Prop) : Prop where
  nil : Relation [] []
  leaf : ∀ name arguments,
    Relation [.request name arguments []] [.leaf name arguments]
  composite : ∀ name arguments {selections accesses},
    Relation selections accesses →
    Relation [.request name arguments selections]
      [.composite name arguments accesses]
  fragment : ∀ typeName {selections accesses},
    Relation selections accesses →
    Relation [.fragment typeName selections] [.fragment typeName accesses]
  append : ∀ {first second firstAccesses secondAccesses},
    Relation first firstAccesses → Relation second secondAccesses →
    Relation (first ++ second) (firstAccesses ++ secondAccesses)
  mergeAll : ∀ {first second firstAccesses secondAccesses},
    Relation first firstAccesses → Relation second secondAccesses →
    Relation (Selection.mergeAll first second) (firstAccesses ++ secondAccesses)

section Relation

variable {Relation : List Selection → List Access → Prop}
variable (kept : RecordingRelation Relation)

include kept

mutual
theorem Call.related_recording {typeName : String} {α : Type} :
    ∀ call : Call typeName α, Relation call.recording.selections call.accesses
  | .leaf name arguments _ => kept.leaf name arguments
  | .composite name arguments selection =>
      kept.composite name arguments selection.related_seal
  | .include selection => selection.related_seal
  | .fragments cases =>
      kept.append (kept.leaf typenameField .empty) cases.related_seal

theorem Builder.related_record {typeName : String} {α : Type} :
    ∀ (builder : Builder typeName α) (before : List Selection)
      (accesses : List Access), Relation before accesses →
      Relation (builder.record before).selections
        (accesses ++ builder.accesses)
  | .done _, _, _, related => by
      simpa [Builder.record, Builder.accesses] using related
  | .fail _, _, _, related => by
      simpa [Builder.record, Builder.accesses] using related
  | .isRecording next, before, accesses, related =>
      (next true).related_record before accesses related
  | .make call next, before, accesses, related => by
      have merged := kept.mergeAll related call.related_recording
      rw [Builder.record, Builder.accesses, ← List.append_assoc]
      exact (next call.recording.outcome).related_record _ _ merged

theorem SelectionSet.related_seal {scope : Scope} {α : Type} :
    ∀ selection : SelectionSet scope α,
      Relation selection.seal.selections selection.accesses
  | .build builder => builder.related_record [] [] kept.nil
  | .list element => element.related_seal
  | .nullable value => value.related_seal
  | .map _ selection => selection.related_seal
  | .merge left right _ => kept.mergeAll left.related_seal right.related_seal

theorem Cases.related_seal {α : Type} :
    ∀ cases : Cases α, Relation cases.seal.selections cases.accesses
  | .nil => kept.nil
  | .cons typeName selection rest =>
      kept.append (kept.fragment typeName selection.related_seal)
        rest.related_seal
end

end Relation

/-! Recording of single calls -/

namespace Builder

variable {typeName : String} {α β : Type}

@[simp] theorem proceed_ok (next : α → Builder typeName β) (value : α) :
    proceed next (.ok value) = next value :=
  rfl

@[simp] theorem proceed_error (next : α → Builder typeName β)
    (error : DecodeError) : proceed next (.error error) = .fail error :=
  rfl

@[simp] theorem record_leaf (name : String) (arguments : Arguments)
    (type : LeafType) (next : type.Value → Builder typeName α)
    (before : List Selection) :
    (Builder.leaf name arguments type next).record before =
      (next type.placeholder).record
        (Selection.insert before (.request name arguments [])) := by
  rw [leaf, record, Call.recording, Selection.mergeAll_cons,
    Selection.mergeAll_nil]
  rfl

@[simp] theorem record_composite {scope : Scope} (name : String)
    (arguments : Arguments) (selection : SelectionSet scope β)
    (next : β → Builder typeName α) (before : List Selection) :
    (Builder.composite name arguments selection next).record before =
      (proceed next selection.seal.outcome).record
        (Selection.insert before
          (.request name arguments selection.seal.selections)) := by
  rw [composite, record, Call.recording, Selection.mergeAll_cons,
    Selection.mergeAll_nil]

@[simp] theorem record_fragments (cases : Cases β)
    (next : β → Builder typeName α) (before : List Selection) :
    (Builder.fragments cases next).record before =
      (proceed next cases.seal.outcome).record
        (Selection.mergeAll (Selection.insert before (.leaf typenameField))
          cases.seal.selections) := by
  rw [fragments, record, Call.recording, Selection.mergeAll_cons]

end Builder

def heroFields : Builder "Character" (String × String) :=
  .leaf "name" .empty .string fun name =>
    .fragments
      (.cons "Droid" (.build (.leaf "primaryFunction" .empty .string .done))
        (.cons "Human" (.build (.leaf "homePlanet" .empty .string .done)) .nil))
      fun told => .done (name, told)

def heroSelection : SelectionSet (.type "Query") (Option (String × String)) :=
  .build (.composite "hero" ⟨[("episode", .enum "JEDI")]⟩
    (.nullable (.build heroFields)) .done)

theorem heroSelection_records : heroSelection.Records := by
  have leaf {typeName name : String} :
      (.build (.leaf name .empty .string .done) :
        SelectionSet (.type typeName) String).Records := ⟨trivial, trivial⟩
  exact ⟨⟨trivial, ⟨rfl, leaf, leaf, trivial⟩, trivial⟩, trivial⟩

theorem heroSelection_uniform (raises : DecodeError → Prop) :
    heroSelection.Uniform raises := by
  have droid : (.build (.leaf "primaryFunction" .empty .string .done) :
      SelectionSet (.type "Droid") String).Uniform raises :=
    ⟨[], rfl, trivial, fun _ => .proceed fun _ _ => trivial⟩
  have human : (.build (.leaf "homePlanet" .empty .string .done) :
      SelectionSet (.type "Human") String).Uniform raises :=
    ⟨[], rfl, trivial, fun _ => .proceed fun _ _ => trivial⟩
  have fields : heroFields.Follows raises raises heroFields.accesses :=
    ⟨_, rfl, trivial, fun _ => .proceed fun _ _ =>
      ⟨[], rfl, ⟨droid, human, trivial⟩, fun _ =>
        .proceed fun _ _ => trivial⟩⟩
  exact ⟨[], rfl, fields, fun _ => .proceed fun _ _ => trivial⟩

theorem heroSelection_accesses :
    heroSelection.accesses =
      [.composite "hero" ⟨[("episode", .enum "JEDI")]⟩
        ([.leaf "name" .empty] ++ ([.leaf typenameField .empty] ++
          ([.fragment "Droid" [.leaf "primaryFunction" .empty]] ++
            [.fragment "Human" [.leaf "homePlanet" .empty]])))] :=
  rfl

theorem heroSelection_selections :
    heroSelection.selections =
      [.request "hero" ⟨[("episode", .enum "JEDI")]⟩
        [.leaf "name", .leaf "__typename",
          .fragment "Droid" [.leaf "primaryFunction"],
          .fragment "Human" [.leaf "homePlanet"]]] := by
  simp [heroSelection, heroFields, SelectionSet.selections, SelectionSet.seal,
    Cases.seal, Builder.record, Selection.mergeAll_cons, Selection.mergeAll_nil,
    Selection.insert, Selection.changeFirst?, Selection.sameRequest,
    Selection.request, Selection.leaf, Arguments.alias?, Arguments.isEmpty,
    Arguments.empty, typenameField]

end TypedGraphQL
