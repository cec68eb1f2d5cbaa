import TypedGraphQL.Proofs.Execution.Answer
import TypedGraphQL.Proofs.Execution.Reading
import TypedGraphQL.Proofs.Response.Coverage

namespace TypedGraphQL

/-! What is asked of one object, and what is read from it and below it. -/

/--
The requests ask for all that is read and mean the same by it; at no position
are two different things read, and nothing is read below a leaf.
-/
structure Served (selections : List Selection)
    (reads : Position → String → String → Bool → Prop) : Prop where
  asked : ∀ {step rest name text isLeaf},
    reads (step :: rest) name text isLeaf →
    Selection.AsksFor selections (step :: rest)
  meant : ∀ {position name text},
    Selection.Asks selections position name text →
    ∃ isLeaf, reads position name text isLeaf
  consistent : ∀ {position name other text otherText isLeaf otherIsLeaf},
    reads position name text isLeaf →
    reads position other otherText otherIsLeaf →
    name = other ∧ text = otherText ∧ isLeaf = otherIsLeaf
  enclosed : ∀ {front step next rest name text isLeaf},
    reads (front ++ step :: next :: rest) name text isLeaf →
    ∃ outer outerText, reads (front ++ [step]) outer outerText false

theorem SelectionSet.served {scope : Scope} {α : Type}
    (selection : SelectionSet scope α)
    (consistent : Access.Consistent selection.accesses) :
    Served selection.selections (Access.Reads selection.accesses) := by
  have serves : Selection.Serves selection.selections selection.accesses :=
    selection.related_seal Selection.Serves.recordingRelation
  exact
    { asked := serves.asked
      meant := serves.meant
      consistent := consistent _ _ _ _ _ _ _
      enclosed := Access.Reads.enclosed }

namespace Served

variable {selections : List Selection}
variable {reads : Position → String → String → Bool → Prop}

theorem below (served : Served selections reads) (typeName key : String) :
    Served (FieldRequest.nested key (Selection.collect typeName selections))
      fun position => reads ((typeName, key) :: position) where
  asked read := by
    obtain ⟨name, text, asked⟩ := served.asked read
    exact ⟨name, text, Selection.asks_nested_collect_iff.mpr asked⟩
  meant {position name text} asked := by
    cases position with
    | nil => exact absurd asked Selection.not_asks_nil
    | cons step rest =>
        exact served.meant (Selection.asks_nested_collect_iff.mp asked)
  consistent := served.consistent
  enclosed {front _ _ _ _ _ _} read :=
    @Served.enclosed _ _ served ((typeName, key) :: front) _ _ _ _ _ _ read

variable {Object : Type} (resolver : Resolver Object)

theorem entry?_entries (served : Served selections reads) {object : Object}
    {key name text : String} {isLeaf : Bool}
    (read : reads [(resolver.typeName object, key)] name text isLeaf) :
    Json.entry? (resolver.entries selections object) key =
      some (resolver.complete
        (FieldRequest.nested key
          (Selection.collect (resolver.typeName object) selections))
        (resolver.resolve object name text)) := by
  obtain ⟨_, _, asked⟩ := served.asked read
  obtain ⟨request, collected, sameKey, -⟩ := Selection.asks_cons_iff.mp asked
  rw [resolver.entry?_entries]
  cases found : (Selection.collect (resolver.typeName object) selections).find?
      (·.key == key) with
  | none =>
      have absent := List.find?_eq_none.mp found request collected
      simp [sameKey] at absent
  | some first =>
      have firstKey : first.key = key := by
        simpa using List.find?_some found
      obtain ⟨otherIsLeaf, firstRead⟩ := served.meant
        (Selection.asks_cons_iff.mpr ⟨first, List.mem_of_find?_eq_some found,
          firstKey, .inl ⟨rfl, rfl, rfl⟩⟩)
      obtain ⟨rfl, rfl, -⟩ := served.consistent read firstRead
      rfl

theorem asks_nothing_below (served : Served selections reads)
    {typeName key name text : String}
    (read : reads [(typeName, key)] name text true) (position : Position)
    (other otherText : String) :
    ¬ Selection.Asks
      (FieldRequest.nested key (Selection.collect typeName selections))
      position other otherText := by
  intro asked
  cases position with
  | nil => exact Selection.not_asks_nil asked
  | cons step rest =>
      obtain ⟨isLeaf, readBelow⟩ :=
        served.meant (Selection.asks_nested_collect_iff.mp asked)
      obtain ⟨_, _, readThrough⟩ := @Served.enclosed _ _ served [] _ _ _ _ _ _
        readBelow
      obtain ⟨-, -, impossible⟩ := served.consistent read readThrough
      simp at impossible

end Served

namespace Resolver

variable {Object : Type} (resolver : Resolver Object)

theorem complete_eq_bare {selections : List Selection}
    (nothing : ∀ position name text,
      ¬ Selection.Asks selections position name text) :
    ∀ node : Node Object, resolver.complete selections node = node.bare
  | .leaf value => by rw [complete_leaf, Node.bare]
  | .list items => by
      rw [complete_list, Node.bare]
      congr 1
      exact List.map_congr_left fun item member =>
        complete_eq_bare nothing item
  | .object object => by
      have uncollected :
          Selection.collect (resolver.typeName object) selections = [] := by
        rw [List.eq_nil_iff_forall_not_mem]
        intro request collected
        exact nothing _ _ _ (Selection.asks_cons_iff.mpr
          ⟨request, collected, rfl, .inl ⟨rfl, rfl, rfl⟩⟩)
      rw [complete_object, Node.bare, entries, uncollected]
      rfl
termination_by node => sizeOf node
decreasing_by
  have := List.sizeOf_lt_of_mem member
  simp
  omega

theorem resolve_typenameField (object : Object) (arguments : String) :
    resolver.resolve object typenameField arguments =
      .leaf (.string (resolver.typeName object)) := by
  rw [resolve, if_pos rfl]

end Resolver

/-! The run of a builder on a response and its run on the resolver. -/

/-- The objects of a node, with those of its items. -/
inductive Node.Reaches {Object : Type} : Node Object → Object → Prop where
  | object (object : Object) : Reaches (.object object) object
  | item {items : List (Node Object)} {item : Node Object} {object : Object}
      (member : item ∈ items) (reached : Reaches item object) :
      Reaches (.list items) object

/-- What the accesses read from objects of a type is among `reads`. -/
def Access.Within (accesses : List Access) (typeName : String)
    (reads : Position → String → String → Bool → Prop) : Prop :=
  ∀ key rest name text isLeaf,
    Access.Reads accesses ((typeName, key) :: rest) name text isLeaf →
    reads ((typeName, key) :: rest) name text isLeaf

theorem Access.Within.of_append {first second : List Access}
    {typeName : String} {reads : Position → String → String → Bool → Prop}
    (within : Access.Within (first ++ second) typeName reads) :
    Access.Within first typeName reads ∧
      Access.Within second typeName reads :=
  ⟨fun _ _ _ _ _ read => within _ _ _ _ _ (Access.reads_append.mpr (.inl read)),
    fun _ _ _ _ _ read => within _ _ _ _ _ (Access.reads_append.mpr (.inr read))⟩

theorem Access.Within.of_cons {access : Access} {rest : List Access}
    {typeName : String} {reads : Position → String → String → Bool → Prop}
    (within : Access.Within (access :: rest) typeName reads) :
    Access.Within [access] typeName reads ∧
      Access.Within rest typeName reads :=
  Access.Within.of_append within

section Agreement

variable {Object : Type} (resolver : Resolver Object)
variable {raises : DecodeError → Prop}

mutual
theorem Call.decode_eq_answer {typeName : String} {α : Type}
    {selections : List Selection}
    {reads : Position → String → String → Bool → Prop}
    (served : Served selections reads) {object : Object} :
    ∀ call : Call typeName α, call.Uniform raises →
      Access.Within call.accesses (resolver.typeName object) reads →
      call.decode (resolver.entries selections object) =
        call.answer resolver object
  | .leaf name arguments type, _, here => by
      have read := here _ _ _ _ _ (.leaf _ (List.mem_singleton_self _))
      have present := served.entry?_entries resolver read
      rw [resolver.complete_eq_bare (served.asks_nothing_below read)] at present
      rw [Call.decode, Call.answer, fieldNode_bind present]
  | .composite name arguments selection, uniform, here => by
      have present := served.entry?_entries resolver
        (here _ _ _ _ _ (.composite _ (List.mem_singleton_self _)))
      rw [Call.decode, Call.answer, fieldNode_bind present]
      -- Below the key stand the requests of every access to it, merged; they
      -- still serve this one, which is why `selections` is not fixed.
      exact selection.decode_eq_answer
        (served.below (resolver.typeName object) (arguments.responseKey name))
        (arguments.responseKey name)
        (resolver.resolve object name arguments.text) uniform
        fun _ _ _ _ _ _ _ read =>
          here _ _ _ _ _ (.nested _ (List.mem_singleton_self _) read)
  | .include selection, uniform, here => by
      have agree := selection.decode_eq_answer served typeName (.object object)
        uniform fun _ reached => by
          cases reached
          exact here
      rwa [resolver.complete_object] at agree
  | .fragments cases, uniform, within => by
      obtain ⟨here, casesWithin⟩ := within.of_cons
      have present := served.entry?_entries resolver
        (here _ _ _ _ _ (.leaf _ (List.mem_singleton_self _)))
      rw [resolver.resolve_typenameField, resolver.complete_leaf] at present
      have present : Json.entry? (resolver.entries selections object)
          typenameField = some (.string (resolver.typeName object)) := present
      rw [Call.decode, Call.answer, fieldNode_bind present]
      exact cases.decode_eq_answer served uniform casesWithin

theorem Builder.decode_eq_answer {typeName : String} {α : Type}
    {selections : List Selection}
    {reads : Position → String → String → Bool → Prop}
    (served : Served selections reads) {object : Object} :
    ∀ (builder : Builder typeName α) {allowed : DecodeError → Prop}
      (accesses : List Access), builder.Follows raises allowed accesses →
      Access.Within accesses (resolver.typeName object) reads →
      builder.decode (resolver.entries selections object) =
        builder.answer resolver object
  | .done _, _, _, _, _ => rfl
  | .fail _, _, _, _, _ => rfl
  | .isRecording next, _, accesses, follows, within =>
      (next false).decode_eq_answer served accesses follows within
  | .make call next, _, _, follows, within => by
      obtain ⟨rest, rfl, uniform, follows⟩ := follows
      obtain ⟨here, restWithin⟩ := within.of_append
      have follows := follows (resolver.entries selections object)
      rw [Builder.decode, Builder.answer,
        ← call.decode_eq_answer served uniform here]
      exact (next _).decode_eq_answer served rest follows restWithin

theorem SelectionSet.decode_eq_answer {scope : Scope} {α : Type}
    {selections : List Selection}
    {reads : Position → String → String → Bool → Prop}
    (served : Served selections reads) :
    ∀ (selection : SelectionSet scope α) (label : String) (node : Node Object),
      selection.Uniform raises →
      (∀ object, node.Reaches object →
        Access.Within selection.accesses (resolver.typeName object) reads) →
      selection.decode label (resolver.complete selections node) =
        selection.answer resolver label node
  | .build builder, label, node, follows, within => by
      cases node with
      | leaf value =>
          rw [resolver.complete_leaf, SelectionSet.answer_leaf]
      | list items => rw [resolver.complete_list]; rfl
      | object object =>
          rw [resolver.complete_object, SelectionSet.answer]
          exact builder.decode_eq_answer served _ follows
            (within object (.object object))
  | .list element, label, node, uniform, within => by
      cases node with
      | leaf value =>
          rw [resolver.complete_leaf, SelectionSet.answer_leaf]
      | list items =>
          rw [resolver.complete_list, SelectionSet.answer]
          apply decodeItems_map
          intro item member label
          exact element.decode_eq_answer served label item uniform
            fun object reached => within object (.item member reached)
      | object object => rw [resolver.complete_object]; rfl
  | .nullable value, label, node, uniform, within => by
      have agree := value.decode_eq_answer served label node uniform within
      cases node with
      | leaf held =>
          rw [resolver.complete_leaf] at agree ⊢
          cases held with
          | null => rfl
          | bool | number | string | array | object =>
              exact congrArg (Except.map some) agree
      | list items =>
          rw [resolver.complete_list] at agree ⊢
          exact congrArg (Except.map some) agree
      | object object =>
          rw [resolver.complete_object] at agree ⊢
          exact congrArg (Except.map some) agree
  | .map change selection, label, node, uniform, within => by
      rw [SelectionSet.decode, SelectionSet.answer,
        selection.decode_eq_answer served label node uniform within]
  | .merge left right combine, label, node, uniform, within => by
      have leftAgree := left.decode_eq_answer served label node uniform.1
        fun object reached => (within object reached).of_append.1
      have rightAgree := right.decode_eq_answer served label node uniform.2
        fun object reached => (within object reached).of_append.2
      rw [SelectionSet.decode, SelectionSet.answer, leftAgree, rightAgree]

theorem Cases.decode_eq_answer {α : Type} {selections : List Selection}
    {reads : Position → String → String → Bool → Prop}
    (served : Served selections reads) {object : Object} :
    ∀ cases : Cases α, cases.Uniform raises →
      Access.Within cases.accesses (resolver.typeName object) reads →
      cases.decode (resolver.typeName object)
          (.object (resolver.entries selections object)) =
        cases.answer resolver object
  | .nil, _, _ => rfl
  | .cons typeName selection rest, uniform, within => by
      obtain ⟨here, restWithin⟩ := within.of_cons
      rw [Cases.decode, Cases.answer]
      split
      next same =>
        have agree := selection.decode_eq_answer served typeName
          (.object object) uniform.1 fun _ reached => by
            cases reached
            intro key rest name text isLeaf read
            exact here _ _ _ _ _
              (Access.reads_fragment.mpr ⟨⟨key, rest, by rw [same]⟩, read⟩)
        rwa [resolver.complete_object] at agree
      next => exact rest.decode_eq_answer served uniform.2 restWithin
end

end Agreement

/--
Decoding the response of the sealed requests is the same as running the builders
with the resolver at hand.
-/
theorem SelectionSet.decode_complete {scope : Scope} {α : Type}
    (selection : SelectionSet scope α)
    (uniform : selection.Uniform fun _ => True)
    (consistent : Access.Consistent selection.accesses) {Object : Type}
    (resolver : Resolver Object) (label : String) (node : Node Object) :
    selection.decode label (resolver.complete selection.selections node) =
      selection.answer resolver label node :=
  selection.decode_eq_answer resolver (selection.served consistent) label node
    uniform fun _ _ _ _ _ _ _ => id

theorem heroSelection_consistent :
    Access.Consistent heroSelection.accesses := by
  have read_once {position name text isLeaf}
      (read : Access.Reads heroSelection.accesses position name text isLeaf) :
      (∃ typeName key, position = [(typeName, key)] ∧ name = "hero" ∧
          text = Arguments.text ⟨[("episode", .enum "JEDI")]⟩ ∧
          isLeaf = false) ∨
        ∃ step typeName, position = [step, (typeName, name)] ∧ text = "" ∧
          isLeaf = true := by
    rw [heroSelection_accesses, Access.reads_composite] at read
    obtain ⟨typeName, rest, rfl, ⟨rfl, rfl, rfl, rfl⟩ | read⟩ := read
    · exact .inl ⟨typeName, _, rfl, rfl, rfl, rfl⟩
    · right
      have leaf {label : String}
          (read : Access.Reads [.leaf label .empty] rest name text isLeaf) :
          ∃ step other,
            (typeName, Arguments.responseKey ⟨[("episode", .enum "JEDI")]⟩
              "hero") :: rest = [step, (other, name)] ∧ text = "" ∧
              isLeaf = true := by
        obtain ⟨other, rfl, rfl, rfl, rfl⟩ := Access.reads_leaf.mp read
        exact ⟨_, other, rfl, rfl, rfl⟩
      simp only [Access.reads_append, Access.reads_fragment] at read
      rcases read with read | read | ⟨-, read⟩ | ⟨-, read⟩
      · exact leaf read
      · exact leaf read
      · exact leaf read
      · exact leaf read
  intro position name other text otherText isLeaf otherIsLeaf first second
  rcases read_once first with
    ⟨_, _, rfl, rfl, rfl, rfl⟩ | ⟨_, _, rfl, rfl, rfl⟩ <;>
    rcases read_once second with
      ⟨_, _, same, rfl, rfl, rfl⟩ | ⟨_, _, same, rfl, rfl⟩ <;>
    cases same
  · exact ⟨rfl, rfl, rfl⟩
  · exact ⟨rfl, rfl, rfl⟩

def droidResolver : Resolver Bool where
  typeName isHero := if isHero then "Droid" else "Query"
  field isHero name _ :=
    if isHero then .leaf (.string (name ++ " of R2-D2")) else .object true

theorem SelectionSet.decode_complete_hero :
    heroSelection.Uniform (fun _ => True) ∧
      Access.Consistent heroSelection.accesses ∧
      heroSelection.decode rootLabel
          (droidResolver.complete heroSelection.selections (.object false)) =
        heroSelection.answer droidResolver rootLabel (.object false) ∧
      heroSelection.answer droidResolver rootLabel (.object false) =
        .ok (some ("name of R2-D2", "primaryFunction of R2-D2")) := by
  have uniform := heroSelection_uniform fun _ => True
  refine ⟨uniform, heroSelection_consistent, ?_, ?_⟩
  · exact heroSelection.decode_complete uniform heroSelection_consistent
      droidResolver rootLabel (.object false)
  · simp [heroSelection, heroFields, answer, Builder.composite, Builder.leaf,
      Builder.fragments, Builder.proceed, Builder.answer, Call.answer,
      Cases.answer, droidResolver, Resolver.resolve, typenameField, Node.bare,
      LeafType.decode, LeafType.decode?, Json.isNull, Except.map]

end TypedGraphQL
