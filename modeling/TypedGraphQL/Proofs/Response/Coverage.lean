import TypedGraphQL.Proofs.Response.Recording

namespace TypedGraphQL

mutual
def Json.objects : Json → List (List (String × Json))
  | .object entries => [entries]
  | .array items => objectsOf items
  | .null => []
  | .bool _ => []
  | .number _ => []
  | .string _ => []

def Json.objectsOf : List Json → List (List (String × Json))
  | [] => []
  | item :: rest => item.objects ++ objectsOf rest
end

theorem Json.mem_objectsOf {items : List Json} {item : Json}
    {entries : List (String × Json)} (member : item ∈ items)
    (reached : entries ∈ item.objects) : entries ∈ objectsOf items := by
  induction items with
  | nil => simp at member
  | cons first rest ih =>
      rw [objectsOf, List.mem_append]
      rcases List.mem_cons.mp member with rfl | inRest
      · exact .inl reached
      · exact .inr (ih inRest)

namespace Selection

mutual
/--
The object has an entry for the request, and so has every object in that entry
for every nested request; requests of a fragment count where the object says it
is of the fragment's type.
-/
def CoveredBy (entries : List (String × Json)) : Selection → Prop
  | field alias? name _ selections =>
    ∃ value, Json.entry? entries (alias?.getD name) = some value ∧
      ∀ object ∈ value.objects, AllCoveredBy object selections
  | fragment typeCondition selections =>
    Json.entry? entries typenameField = some (.string typeCondition) →
      AllCoveredBy entries selections

def AllCoveredBy (entries : List (String × Json)) : List Selection → Prop
  | [] => True
  | entry :: rest => entry.CoveredBy entries ∧ AllCoveredBy entries rest
end

/-- Every object reached in the node has entries for all requests. -/
def Covered (selections : List Selection) (node : Json) : Prop :=
  ∀ object ∈ node.objects, AllCoveredBy object selections

theorem allCoveredBy_iff {entries : List (String × Json)}
    {selections : List Selection} :
    AllCoveredBy entries selections ↔
      ∀ entry ∈ selections, entry.CoveredBy entries := by
  induction selections with
  | nil => simp [AllCoveredBy]
  | cons entry rest ih => simp [AllCoveredBy, ih]

@[simp] theorem allCoveredBy_append {entries : List (String × Json)}
    {first second : List Selection} :
    AllCoveredBy entries (first ++ second) ↔
      AllCoveredBy entries first ∧ AllCoveredBy entries second := by
  simp only [allCoveredBy_iff, List.mem_append]
  exact ⟨fun covered => ⟨fun entry member => covered entry (.inl member),
      fun entry member => covered entry (.inr member)⟩,
    fun covered entry => Or.rec (covered.1 entry) (covered.2 entry)⟩

theorem allCoveredBy_of_mergeAll {entries : List (String × Json)}
    {into selections : List Selection}
    (covered : AllCoveredBy entries (mergeAll into selections)) :
    AllCoveredBy entries into ∧ AllCoveredBy entries selections := by
  rw [allCoveredBy_iff] at covered
  rw [allCoveredBy_iff, allCoveredBy_iff]
  refine forall_of_forall_mergeAll ?_ covered
  intro held incoming same below entries absorbed
  simp only [← allCoveredBy_iff] at below
  obtain ⟨alias?, name, _, _, nested, others, rfl, rfl, -, absorbs⟩ |
    ⟨typeCondition, nested, others, rfl, rfl, absorbs⟩ := absorb_cases same
  · rw [absorbs] at absorbed
    obtain ⟨value, present, covered⟩ := absorbed
    exact ⟨⟨value, present, fun object member =>
        (below object (covered object member)).1⟩,
      value, present, fun object member =>
        (below object (covered object member)).2⟩
  · rw [absorbs] at absorbed
    exact ⟨fun applies => (below entries (absorbed applies)).1,
      fun applies => (below entries (absorbed applies)).2⟩

end Selection

namespace Access

mutual
def toSelection : Access → Selection
  | leaf name arguments => .request name arguments []
  | composite name arguments nested =>
    .request name arguments (toSelections nested)
  | fragment typeName accesses => .fragment typeName (toSelections accesses)

def toSelections : List Access → List Selection
  | [] => []
  | access :: rest => access.toSelection :: toSelections rest
end

@[simp] theorem toSelections_append (first second : List Access) :
    toSelections (first ++ second) =
      toSelections first ++ toSelections second := by
  induction first with
  | nil => rfl
  | cons access rest ih => simp [toSelections, ih]

end Access

theorem Selection.AllCoveredBy.recordingRelation :
    RecordingRelation fun selections accesses => ∀ entries,
      Selection.AllCoveredBy entries selections →
      Selection.AllCoveredBy entries (Access.toSelections accesses) where
  nil _ _ := trivial
  leaf _ _ _ covered := covered
  composite _ _ _ _ nested entries covered := by
    obtain ⟨⟨value, present, below⟩, -⟩ := covered
    exact ⟨⟨value, present, fun object member =>
      nested object (below object member)⟩, trivial⟩
  fragment _ _ _ nested entries covered :=
    ⟨fun applies => nested entries (covered.1 applies), trivial⟩
  append first second entries covered := by
    rw [Selection.allCoveredBy_append] at covered
    rw [Access.toSelections_append, Selection.allCoveredBy_append]
    exact ⟨first entries covered.1, second entries covered.2⟩
  mergeAll first second entries covered := by
    obtain ⟨left, right⟩ := Selection.allCoveredBy_of_mergeAll covered
    rw [Access.toSelections_append, Selection.allCoveredBy_append]
    exact ⟨first entries left, second entries right⟩

/-! Decoding what is covered -/

def LacksNoField {α : Type} (result : Except DecodeError α) : Prop :=
  ∀ key, result ≠ .error (.missingField key)

theorem LacksNoField.ok {α : Type} (value : α) :
    LacksNoField (.ok value) := by
  intro key equal
  cases equal

theorem LacksNoField.error {α β : Type} {error : DecodeError}
    (lacksNone : LacksNoField (.error error : Except DecodeError α)) :
    LacksNoField (.error error : Except DecodeError β) := by
  intro key equal
  cases equal
  exact lacksNone key rfl

theorem LacksNoField.bind {α β : Type} {result : Except DecodeError α}
    {next : α → Except DecodeError β} (lacksNone : LacksNoField result)
    (goesOn : ∀ value, LacksNoField (next value)) :
    LacksNoField (result >>= next) := by
  cases result with
  | ok value => exact goesOn value
  | error error => exact lacksNone.error

theorem LacksNoField.map {α β : Type} {result : Except DecodeError α}
    (lacksNone : LacksNoField result) (change : α → β) :
    LacksNoField (result.map change) := by
  cases result with
  | ok value => exact .ok _
  | error error => exact lacksNone.error

theorem LeafType.decode_lacksNoField (type : LeafType) (key : String)
    (node : Json) : LacksNoField (type.decode key node) := by
  intro missing equal
  rw [LeafType.decode] at equal
  split at equal
  · cases equal
  · split at equal <;> cases equal

theorem fieldNode_bind {α : Type} {entries : List (String × Json)}
    {key : String} {node : Json}
    (present : Json.entry? entries key = some node)
    (read : Json → Except DecodeError α) :
    fieldNode entries key >>= read = read node := by
  rw [fieldNode, present]
  rfl

theorem LeafType.eq_string_of_decode {key text : String} {node : Json}
    (read : LeafType.string.decode key node = .ok text) :
    node = .string text := by
  cases node with
  | string other =>
      injection read with equal
      rw [equal]
  | null | bool | number | array | object => cases read

theorem decodeItems_lacksNoField {α : Type}
    {decode : String → Json → Except DecodeError α} (label : String) :
    ∀ (index : Nat) (items : List Json),
      (∀ item ∈ items, ∀ label, LacksNoField (decode label item)) →
      LacksNoField (decodeItems decode label index items)
  | _, [], _ => .ok []
  | index, item :: rest, lacksNone => by
      rw [decodeItems]
      refine (lacksNone item (by simp) _).bind fun value => ?_
      refine LacksNoField.bind ?_ fun values => .ok _
      exact decodeItems_lacksNoField label (index + 1) rest
        fun other member => lacksNone other (by simp [member])

mutual
theorem Call.decode_lacksNoField {typeName : String} {α : Type}
    {entries : List (String × Json)} :
    ∀ call : Call typeName α, call.Uniform (fun _ => False) →
      Selection.AllCoveredBy entries (Access.toSelections call.accesses) →
      LacksNoField (call.decode entries)
  | .leaf name arguments type, _, covered => by
      obtain ⟨⟨node, present, -⟩, -⟩ := covered
      have present :
        Json.entry? entries (arguments.responseKey name) = some node := present
      rw [Call.decode, fieldNode_bind present]
      exact type.decode_lacksNoField (arguments.responseKey name) node
  | .composite name arguments selection, uniform, covered => by
      obtain ⟨⟨node, present, below⟩, -⟩ := covered
      have present :
        Json.entry? entries (arguments.responseKey name) = some node := present
      rw [Call.decode, fieldNode_bind present]
      exact selection.decode_lacksNoField (arguments.responseKey name) node uniform
        below
  | .include selection, uniform, covered =>
      selection.decode_lacksNoField typeName (.object entries) uniform
        (by simpa [Selection.Covered, Json.objects, Call.accesses] using covered)
  | .fragments cases, uniform, covered => by
      obtain ⟨⟨node, present, -⟩, casesCovered⟩ := covered
      have present : Json.entry? entries typenameField = some node := present
      rw [Call.decode, fieldNode_bind present]
      have lacksNone := LeafType.string.decode_lacksNoField typenameField node
      cases read : LeafType.string.decode typenameField node with
      | ok concrete =>
          have named : node = .string concrete :=
            LeafType.eq_string_of_decode read
          exact cases.decode_lacksNoField concrete (named ▸ present) uniform
            casesCovered
      | error error => exact (read ▸ lacksNone).error

theorem Builder.decode_lacksNoField {typeName : String} {α : Type}
    {entries : List (String × Json)} :
    ∀ (builder : Builder typeName α) {allowed : DecodeError → Prop}
      (accesses : List Access), (∀ key, ¬ allowed (.missingField key)) →
      builder.Follows (fun _ => False) allowed accesses →
      Selection.AllCoveredBy entries (Access.toSelections accesses) →
      LacksNoField (builder.decode entries)
  | .done result, _, _, _, _, _ => .ok result
  | .fail error, _, _, lacksNone, allows, _ => by
      rintro key equal
      obtain rfl := Except.error.inj equal
      exact lacksNone key allows
  | .isRecording next, _, accesses, lacksNone, follows, covered =>
      (next false).decode_lacksNoField accesses lacksNone follows covered
  | .make call next, _, _, lacksNone, follows, covered => by
      obtain ⟨rest, rfl, uniform, follows⟩ := follows
      rw [Access.toSelections_append, Selection.allCoveredBy_append] at covered
      have callLacksNone := call.decode_lacksNoField uniform covered.1
      refine (next (call.decode entries)).decode_lacksNoField rest ?_
        (follows entries) covered.2
      rintro key (allows | missing)
      · exact lacksNone key allows
      · exact callLacksNone key missing

theorem SelectionSet.decode_lacksNoField {scope : Scope} {α : Type} :
    ∀ (selection : SelectionSet scope α) (label : String) (node : Json),
      selection.Uniform (fun _ => False) →
      Selection.Covered (Access.toSelections selection.accesses) node →
      LacksNoField (selection.decode label node)
  | .build builder, label, node, follows, covered => by
      cases node with
      | object entries =>
          exact builder.decode_lacksNoField _ (fun _ => id) follows
            (covered entries (by simp [Json.objects]))
      | null | bool | number | string | array =>
          intro key equal
          cases equal
  | .list element, label, node, uniform, covered => by
      cases node with
      | array items =>
          apply decodeItems_lacksNoField
          intro item member label
          exact element.decode_lacksNoField label item uniform
            fun object reached => covered object
              (Json.mem_objectsOf member reached)
      | null | bool | number | string | object =>
          intro key equal
          cases equal
  | .nullable value, label, node, uniform, covered => by
      have inner := (value.decode_lacksNoField label node uniform covered).map
        some
      cases node with
      | null => exact .ok none
      | bool | number | string | array | object => exact inner
  | .map change selection, label, node, uniform, covered =>
      (selection.decode_lacksNoField label node uniform covered).map change
  | .merge left right combine, label, node, uniform, covered => by
      have split : ∀ object ∈ node.objects, _ := fun object reached => by
        have both := covered object reached
        rw [SelectionSet.accesses, Access.toSelections_append,
          Selection.allCoveredBy_append] at both
        exact both
      refine (left.decode_lacksNoField label node uniform.1 fun object reached =>
        (split object reached).1).bind fun first => ?_
      refine (right.decode_lacksNoField label node uniform.2
        fun object reached => (split object reached).2).bind fun second => ?_
      exact .ok _

theorem Cases.decode_lacksNoField {α : Type} {entries : List (String × Json)} :
    ∀ (cases : Cases α) (concrete : String),
      Json.entry? entries typenameField = some (.string concrete) →
      cases.Uniform (fun _ => False) →
      Selection.AllCoveredBy entries (Access.toSelections cases.accesses) →
      LacksNoField (cases.decode concrete (.object entries))
  | .nil, _, _, _, _ => by
      intro key equal
      cases equal
  | .cons typeName selection rest, concrete, named, uniform, covered => by
      rw [Cases.decode]
      split
      next same =>
        subst same
        apply selection.decode_lacksNoField _ _ uniform.1
        simpa [Selection.Covered, Json.objects] using covered.1 named
      next =>
        exact rest.decode_lacksNoField concrete named uniform.2 covered.2
end

/--
Recording what makes the same accesses in both modes never fails, and decoding
a node that covers the sealed requests never misses a field.
-/
theorem SelectionSet.requests_cover_decoding {scope : Scope} {α : Type}
    (selection : SelectionSet scope α) (records : selection.Records)
    (uniform : selection.Uniform fun _ => False) :
    (∃ value, selection.seal.outcome = .ok value) ∧
      (∀ {typeName : String} (builder : Builder typeName α),
        (SelectionSet.build builder).Records →
          build? builder = .ok (.build builder)) ∧
      ∀ label node, Selection.Covered selection.selections node →
        ∀ key, selection.decode label node ≠ .error (.missingField key) := by
  refine ⟨selection.seal_outcome records, ?_, ?_⟩
  · intro typeName builder builderRecords
    obtain ⟨value, recorded⟩ := (SelectionSet.build builder).seal_outcome
      builderRecords
    rw [SelectionSet.seal] at recorded
    simp [build?, recorded, Except.map]
  · intro label node covered
    apply selection.decode_lacksNoField label node uniform
    intro object reached
    exact selection.related_seal Selection.AllCoveredBy.recordingRelation object
      (covered object reached)

theorem SelectionSet.requests_cover_mistyped_hero :
    let key := Arguments.responseKey ⟨[("episode", .enum "JEDI")]⟩ "hero"
    let node : Json := .object [(key, .object [("name", .null),
      ("__typename", .string "Droid"), ("primaryFunction", .bool true)])]
    heroSelection.Records ∧ heroSelection.Uniform (fun _ => False) ∧
      Selection.Covered heroSelection.selections node ∧
      ∀ missing, heroSelection.decode rootLabel node ≠
        .error (.missingField missing) := by
  intro key node
  have covered : Selection.Covered heroSelection.selections node := by
    rw [heroSelection_selections]
    simp [Selection.Covered, Selection.AllCoveredBy, Selection.CoveredBy, node,
      key, Json.objects, Json.entry?, Selection.request, Selection.leaf,
      Arguments.responseKey, typenameField, List.lookup_cons]
  have uniform := heroSelection_uniform fun _ => False
  exact ⟨heroSelection_records, uniform, covered,
    (heroSelection.requests_cover_decoding heroSelection_records uniform).2.2
      rootLabel node covered⟩

end TypedGraphQL
