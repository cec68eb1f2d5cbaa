import TypedGraphQL.Proofs.Response.Coverage
import TypedGraphQL.Proofs.Response.Place

namespace TypedGraphQL

abbrev ObjectRelation :=
  List (String × Json) → List (String × Json) → Prop

mutual
/-- Nodes of one shape with equal scalars, whose objects are related pairwise. -/
inductive Json.Agree (Related : ObjectRelation) : Json → Json → Prop where
  | null : Agree Related .null .null
  | bool (value : Bool) : Agree Related (.bool value) (.bool value)
  | number (value : Number) : Agree Related (.number value) (.number value)
  | string (text : String) : Agree Related (.string text) (.string text)
  | array {left right : List Json} (items : AgreeAll Related left right) :
      Agree Related (.array left) (.array right)
  | object {left right : List (String × Json)} (related : Related left right) :
      Agree Related (.object left) (.object right)

inductive Json.AgreeAll (Related : ObjectRelation) :
    List Json → List Json → Prop where
  | nil : AgreeAll Related [] []
  | cons {left right : Json} {lefts rights : List Json}
      (first : Agree Related left right) (rest : AgreeAll Related lefts rights) :
      AgreeAll Related (left :: lefts) (right :: rights)
end

namespace Json

variable {Related Other : ObjectRelation}

mutual
theorem Agree.mono (weaker : ∀ left right, Related left right → Other left right) :
    ∀ {left right : Json}, Agree Related left right → Agree Other left right
  | _, _, .null => .null
  | _, _, .bool value => .bool value
  | _, _, .number value => .number value
  | _, _, .string text => .string text
  | _, _, .array items => .array (AgreeAll.mono weaker items)
  | _, _, .object related => .object (weaker _ _ related)

theorem AgreeAll.mono
    (weaker : ∀ left right, Related left right → Other left right) :
    ∀ {left right : List Json}, AgreeAll Related left right →
      AgreeAll Other left right
  | _, _, .nil => .nil
  | _, _, .cons first rest => .cons (Agree.mono weaker first) (AgreeAll.mono weaker rest)
end

mutual
theorem Agree.refl (related : ∀ entries, Related entries entries) :
    ∀ node : Json, Agree Related node node
  | .null => .null
  | .bool value => .bool value
  | .number value => .number value
  | .string text => .string text
  | .array items => .array (AgreeAll.refl related items)
  | .object entries => .object (related entries)

theorem AgreeAll.refl (related : ∀ entries, Related entries entries) :
    ∀ items : List Json, AgreeAll Related items items
  | [] => .nil
  | item :: rest => .cons (Agree.refl related item) (AgreeAll.refl related rest)
end

end Json

namespace Selection

mutual
/--
Two objects agree on a field if both lack it, or both have it with agreeing
values, which are equal unless something is requested below.  They agree on a
fragment if they agree on its requests or are not both of its type.
-/
def AgreedBy (left right : List (String × Json)) : Selection → Prop
  | field alias? name _ nested =>
    Option.Rel
      (fun first second =>
        if nested.isEmpty then first = second
        else Json.Agree (fun left right => AllAgreedBy left right nested)
          first second)
      (Json.entry? left (alias?.getD name)) (Json.entry? right (alias?.getD name))
  | fragment typeCondition nested =>
    Json.entry? left typenameField = some (.string typeCondition) →
    Json.entry? right typenameField = some (.string typeCondition) →
      AllAgreedBy left right nested

def AllAgreedBy (left right : List (String × Json)) : List Selection → Prop
  | [] => True
  | entry :: rest => entry.AgreedBy left right ∧ AllAgreedBy left right rest
end

def Agreed (selections : List Selection) : Json → Json → Prop :=
  Json.Agree fun left right => AllAgreedBy left right selections

theorem AllAgreedBy.of_mem {left right : List (String × Json)}
    {selections : List Selection} (agreed : AllAgreedBy left right selections)
    {entry : Selection} (member : entry ∈ selections) :
    entry.AgreedBy left right := by
  induction selections with
  | nil => simp at member
  | cons first rest ih =>
      rcases List.mem_cons.mp member with rfl | inRest
      · exact agreed.1
      · exact ih agreed.2 inRest

end Selection

namespace Access

mutual
/-- No field that the access reads straight has requests nested in it. -/
def LeavesBareIn (requests : List Selection) : Access → Prop
  | leaf name arguments =>
    ∀ otherArguments nested,
      .field (arguments.alias? name) name otherArguments nested ∈ requests →
        nested = []
  | composite name arguments accesses =>
    ∀ otherArguments nested,
      .field (arguments.alias? name) name otherArguments nested ∈ requests →
        AllLeavesBareIn nested accesses
  | fragment typeName accesses =>
    ∀ nested, .fragment typeName nested ∈ requests →
      AllLeavesBareIn nested accesses

def AllLeavesBareIn (requests : List Selection) : List Access → Prop
  | [] => True
  | access :: rest => access.LeavesBareIn requests ∧ AllLeavesBareIn requests rest
end

mutual
/-- Two objects agree on what the access reads of them and below them. -/
def AgreedBy (left right : List (String × Json)) : Access → Prop
  | leaf name arguments =>
    Json.entry? left (arguments.responseKey name) =
      Json.entry? right (arguments.responseKey name)
  | composite name arguments accesses =>
    Option.Rel (Json.Agree fun left right => AllAgreedBy left right accesses)
      (Json.entry? left (arguments.responseKey name))
      (Json.entry? right (arguments.responseKey name))
  | fragment typeName accesses =>
    Json.entry? left typenameField = some (.string typeName) →
    Json.entry? right typenameField = some (.string typeName) →
      AllAgreedBy left right accesses

def AllAgreedBy (left right : List (String × Json)) : List Access → Prop
  | [] => True
  | access :: rest => access.AgreedBy left right ∧ AllAgreedBy left right rest
end

theorem allAgreedBy_append {left right : List (String × Json)}
    {first second : List Access} :
    AllAgreedBy left right (first ++ second) ↔
      AllAgreedBy left right first ∧ AllAgreedBy left right second := by
  induction first with
  | nil => simp [AllAgreedBy]
  | cons access rest ih => simp [AllAgreedBy, ih, and_assoc]

mutual
theorem AgreedBy.refl : ∀ (access : Access) (entries : List (String × Json)),
    access.AgreedBy entries entries
  | leaf _ _, _ => rfl
  | composite name arguments accesses, entries => by
      rw [AgreedBy]
      cases Json.entry? entries (arguments.responseKey name) with
      | none => exact .none
      | some node => exact .some (.refl (AllAgreedBy.refl accesses) node)
  | fragment _ accesses, entries => fun _ _ => AllAgreedBy.refl accesses entries

theorem AllAgreedBy.refl :
    ∀ (accesses : List Access) (entries : List (String × Json)),
      AllAgreedBy entries entries accesses
  | [], _ => trivial
  | access :: rest, entries =>
      ⟨AgreedBy.refl access entries, AllAgreedBy.refl rest entries⟩
end

mutual
theorem PlacedIn.agreedBy {left right : List (String × Json)} :
    ∀ {access : Access} {requests : List Selection},
      access.PlacedIn requests → access.LeavesBareIn requests →
      Selection.AllAgreedBy left right requests → access.AgreedBy left right
  | leaf name arguments, requests, placed, bare, agreed => by
      obtain ⟨otherArguments, nested, member⟩ := placed
      have nothing := bare otherArguments nested member
      have agreed := agreed.of_mem member
      simp only [Selection.AgreedBy, nothing, List.isEmpty_nil, if_true]
        at agreed
      rw [AgreedBy, Arguments.responseKey]
      generalize Json.entry? left ((arguments.alias? name).getD name) = first,
        Json.entry? right ((arguments.alias? name).getD name) = second
        at agreed ⊢
      cases agreed with
      | none => rfl
      | some equal => rw [equal]
  | composite name arguments accesses, requests, placed, bare, agreed => by
      obtain ⟨otherArguments, nested, member, below⟩ := placed
      have bareBelow := bare otherArguments nested member
      have agreed := agreed.of_mem member
      rw [Selection.AgreedBy] at agreed
      rw [AgreedBy, Arguments.responseKey]
      generalize Json.entry? left ((arguments.alias? name).getD name) = first,
        Json.entry? right ((arguments.alias? name).getD name) = second
        at agreed ⊢
      cases agreed with
      | none => exact .none
      | some agree =>
          refine .some ?_
          split at agree
          · subst agree
            exact .refl (AllAgreedBy.refl accesses) _
          · exact agree.mono fun _ _ nestedAgreed =>
              AllPlacedIn.agreedBy below bareBelow nestedAgreed
  | fragment typeName accesses, requests, placed, bare, agreed => by
      obtain ⟨nested, member, below⟩ := placed
      intro leftNamed rightNamed
      exact AllPlacedIn.agreedBy below (bare nested member)
        (agreed.of_mem member leftNamed rightNamed)

theorem AllPlacedIn.agreedBy {left right : List (String × Json)} :
    ∀ {accesses : List Access} {requests : List Selection},
      AllPlacedIn requests accesses → AllLeavesBareIn requests accesses →
      Selection.AllAgreedBy left right requests →
      AllAgreedBy left right accesses
  | [], _, _, _, _ => trivial
  | _ :: _, _, placed, bare, agreed =>
      ⟨placed.1.agreedBy bare.1 agreed,
        AllPlacedIn.agreedBy placed.2 bare.2 agreed⟩
end

end Access

/-! Decoding nodes that agree -/

theorem decodeItems_congr {α : Type} {Related : ObjectRelation}
    {decode : String → Json → Except DecodeError α}
    (same : ∀ left right label, Json.Agree Related left right →
      decode label left = decode label right) (label : String) (index : Nat)
    {left right : List Json} (agree : Json.AgreeAll Related left right) :
    decodeItems decode label index left =
      decodeItems decode label index right := by
  induction left generalizing index right with
  | nil =>
      cases agree
      rfl
  | cons item left ih =>
      cases agree with
      | cons first rest =>
          rw [decodeItems, decodeItems, same _ _ _ first, ih (index + 1) rest]

theorem fieldNode_bind_congr {α : Type} {left right : List (String × Json)}
    {key : String} {Related : Json → Json → Prop}
    {read : Json → Except DecodeError α}
    (related : Option.Rel Related (Json.entry? left key) (Json.entry? right key))
    (same : ∀ first second, Related first second → read first = read second) :
    fieldNode left key >>= read = fieldNode right key >>= read := by
  rw [fieldNode, fieldNode]
  generalize Json.entry? left key = first, Json.entry? right key = second
    at related ⊢
  cases related with
  | none => rfl
  | some holds => exact same _ _ holds

theorem exists_of_fieldNode_bind {α : Type} {entries : List (String × Json)}
    {key : String} {read : Json → Except DecodeError α} {value : α}
    (decoded : fieldNode entries key >>= read = .ok value) :
    ∃ node, Json.entry? entries key = some node ∧ read node = .ok value := by
  cases present : Json.entry? entries key with
  | none =>
      rw [fieldNode, present] at decoded
      cases decoded
  | some node =>
      rw [fieldNode_bind present] at decoded
      exact ⟨node, rfl, decoded⟩

section Agreed

variable {raises : DecodeError → Prop}

mutual
theorem Call.decode_congr {typeName : String} {α : Type}
    {left right : List (String × Json)} :
    ∀ call : Call typeName α, call.Uniform raises →
      Access.AllAgreedBy left right call.accesses →
      call.decode left = call.decode right
  | .leaf name arguments type, _, agreed => by
      have same : Json.entry? left (arguments.responseKey name) =
          Json.entry? right (arguments.responseKey name) := agreed.1
      rw [Call.decode, Call.decode, fieldNode, fieldNode, same]
  | .composite name arguments selection, uniform, agreed => by
      obtain ⟨here, -⟩ := agreed
      rw [Access.AgreedBy] at here
      exact fieldNode_bind_congr here
        fun _ _ => selection.decode_congr (arguments.responseKey name) uniform
  | .include selection, uniform, agreed =>
      selection.decode_congr typeName uniform (.object agreed)
  | .fragments cases, uniform, agreed => by
      obtain ⟨named, casesAgreed⟩ := agreed
      have named : Json.entry? left typenameField =
        Json.entry? right typenameField := named
      have same : fieldNode left typenameField =
          fieldNode right typenameField := by
        rw [fieldNode, fieldNode, named]
      rw [Call.decode, Call.decode, same]
      cases decoded : fieldNode right typenameField >>=
          LeafType.string.decode typenameField with
      | error error => rfl
      | ok concrete =>
          obtain ⟨node, present, read⟩ := exists_of_fieldNode_bind decoded
          rw [LeafType.eq_string_of_decode read] at present
          exact cases.decode_congr concrete (named.trans present) present uniform
            casesAgreed

theorem Builder.decode_congr {typeName : String} {α : Type}
    {left right : List (String × Json)} :
    ∀ (builder : Builder typeName α) {allowed : DecodeError → Prop}
      (accesses : List Access), builder.Follows raises allowed accesses →
      Access.AllAgreedBy left right accesses →
      builder.decode left = builder.decode right
  | .done _, _, _, _, _ => rfl
  | .fail _, _, _, _, _ => rfl
  | .isRecording next, _, accesses, follows, agreed =>
      (next false).decode_congr accesses follows agreed
  | .make call next, _, _, follows, agreed => by
      obtain ⟨rest, rfl, uniform, follows⟩ := follows
      obtain ⟨here, restAgreed⟩ := Access.allAgreedBy_append.mp agreed
      rw [Builder.decode, Builder.decode, call.decode_congr uniform here]
      exact (next (call.decode right)).decode_congr rest (follows right) restAgreed

theorem SelectionSet.decode_congr {scope : Scope} {α : Type} :
    ∀ (selection : SelectionSet scope α) (label : String),
      selection.Uniform raises → ∀ {left right : Json},
      Json.Agree
        (fun left right => Access.AllAgreedBy left right selection.accesses)
        left right →
      selection.decode label left = selection.decode label right
  | .build builder, label, follows, left, right, agree => by
      cases agree with
      | object agreed => exact builder.decode_congr _ follows agreed
      | null | bool | number | string | array => rfl
  | .list element, label, uniform, left, right, agree => by
      cases agree with
      | array items =>
          exact decodeItems_congr
            (fun _ _ label => element.decode_congr label uniform) label 0 items
      | null | bool | number | string | object => rfl
  | .nullable value, label, uniform, left, right, agree => by
      have inner := congrArg (Except.map some)
        (value.decode_congr label uniform agree)
      cases agree with
      | null => rfl
      | bool | number | string | array | object => exact inner
  | .map change selection, label, uniform, left, right, agree => by
      rw [SelectionSet.decode, SelectionSet.decode,
        selection.decode_congr label uniform agree]
  | .merge first second combine, label, uniform, left, right, agree => by
      have firstAgree := agree.mono fun _ _ agreed =>
        (Access.allAgreedBy_append.mp agreed).1
      have secondAgree := agree.mono fun _ _ agreed =>
        (Access.allAgreedBy_append.mp agreed).2
      rw [SelectionSet.decode, SelectionSet.decode,
        first.decode_congr label uniform.1 firstAgree,
        second.decode_congr label uniform.2 secondAgree]

theorem Cases.decode_congr {α : Type} {left right : List (String × Json)} :
    ∀ (cases : Cases α) (concrete : String),
      Json.entry? left typenameField = some (.string concrete) →
      Json.entry? right typenameField = some (.string concrete) →
      cases.Uniform raises → Access.AllAgreedBy left right cases.accesses →
      cases.decode concrete (.object left) = cases.decode concrete (.object right)
  | .nil, _, _, _, _, _ => rfl
  | .cons typeName selection rest, concrete, leftNamed, rightNamed, uniform,
      agreed => by
      rw [Cases.decode, Cases.decode]
      split
      next same =>
        subst same
        exact selection.decode_congr typeName uniform.1
          (.object (agreed.1 leftNamed rightNamed))
      next =>
        exact rest.decode_congr concrete leftNamed rightNamed uniform.2 agreed.2
end

end Agreed

/--
Nodes that agree on the sealed requests are decoded alike: to the same value or
to the same error.
-/
theorem SelectionSet.decode_eq_of_agreed {scope : Scope} {α : Type}
    (selection : SelectionSet scope α)
    (uniform : selection.Uniform fun _ => True)
    (bare : Access.AllLeavesBareIn selection.selections selection.accesses)
    {left right : Json} (agreed : Selection.Agreed selection.selections left right)
    (label : String) :
    selection.decode label left = selection.decode label right := by
  have placed : Access.AllPlacedIn selection.selections selection.accesses :=
    selection.related_seal Access.AllPlacedIn.recordingRelation
  exact selection.decode_congr label uniform
    (agreed.mono fun _ _ => placed.agreedBy bare)

theorem heroSelection_leavesBare :
    Access.AllLeavesBareIn heroSelection.selections heroSelection.accesses := by
  rw [heroSelection_selections, heroSelection_accesses]
  simp [Access.AllLeavesBareIn, Access.LeavesBareIn, Selection.request,
    Selection.leaf, typenameField]

theorem SelectionSet.decode_eq_of_agreed_droid :
    let key := Arguments.responseKey ⟨[("episode", .enum "JEDI")]⟩ "hero"
    let left : Json := .object [(key, .object [("name", .string "R2-D2"),
      ("__typename", .string "Droid"), ("primaryFunction", .null),
      ("homePlanet", .string "Naboo")])]
    let right : Json := .object [(key, .object [("primaryFunction", .null),
      ("name", .string "R2-D2"), ("__typename", .string "Droid")]),
      ("villain", .bool true)]
    heroSelection.Uniform (fun _ => True) ∧
      Access.AllLeavesBareIn heroSelection.selections heroSelection.accesses ∧
      Selection.Agreed heroSelection.selections left right ∧
      heroSelection.decode rootLabel left =
        heroSelection.decode rootLabel right := by
  intro key left right
  have agreed : Selection.Agreed heroSelection.selections left right := by
    rw [heroSelection_selections]
    refine .object ⟨?_, trivial⟩
    simp only [Selection.request, Selection.AgreedBy, Json.entry?,
      Arguments.responseKey, List.lookup_cons_self, key]
    refine .some (.object ⟨?_, ?_, ?_, ?_, trivial⟩)
    · exact .some rfl
    · exact .some rfl
    · exact fun _ _ => ⟨.some rfl, trivial⟩
    · intro isHuman
      simp [Json.entry?, typenameField, List.lookup_cons] at isHuman
  have uniform := heroSelection_uniform fun _ => True
  exact ⟨uniform, heroSelection_leavesBare, agreed,
    heroSelection.decode_eq_of_agreed uniform heroSelection_leavesBare agreed
      rootLabel⟩

end TypedGraphQL
