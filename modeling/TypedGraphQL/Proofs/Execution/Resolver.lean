import TypedGraphQL.Response.SelectionSet

namespace TypedGraphQL

/-- The requests of one response key on one object, with what they ask below it. -/
structure FieldRequest where
  key : String
  name : String
  arguments : String
  selections : List Selection

namespace Selection

mutual
def fields (typeName : String) : Selection → List FieldRequest
  | field alias? name arguments selections =>
    [⟨alias?.getD name, name, arguments.text, selections⟩]
  | fragment typeCondition selections =>
    if typeCondition = typeName then collect typeName selections else []

def collect (typeName : String) : List Selection → List FieldRequest
  | [] => []
  | entry :: rest => entry.fields typeName ++ collect typeName rest
end

mutual
def height : Selection → Nat
  | field _ _ _ selections => heightAll selections + 1
  | fragment _ selections => heightAll selections

def heightAll : List Selection → Nat
  | [] => 0
  | entry :: rest => max entry.height (heightAll rest)
end

theorem heightAll_append (first second : List Selection) :
    heightAll (first ++ second) = max (heightAll first) (heightAll second) := by
  induction first with
  | nil => simp [heightAll]
  | cons entry rest ih => simp [heightAll, ih, Nat.max_assoc]

mutual
theorem heightAll_lt_of_mem_fields {typeName : String} {request : FieldRequest} :
    ∀ {entry : Selection}, request ∈ entry.fields typeName →
      heightAll request.selections < entry.height
  | .field alias? name arguments selections, member => by
      rw [fields, List.mem_singleton] at member
      subst member
      exact Nat.lt_succ_self _
  | .fragment typeCondition selections, member => by
      rw [fields] at member
      split at member
      · exact heightAll_lt_of_mem_collect member
      · simp at member

theorem heightAll_lt_of_mem_collect {typeName : String}
    {request : FieldRequest} :
    ∀ {selections : List Selection}, request ∈ collect typeName selections →
      heightAll request.selections < heightAll selections
  | [], member => by simp [collect] at member
  | entry :: rest, member => by
      rw [collect, List.mem_append] at member
      rw [heightAll]
      rcases member with inEntry | inRest
      · have := heightAll_lt_of_mem_fields inEntry
        omega
      · have := heightAll_lt_of_mem_collect inRest
        omega
end

end Selection

namespace FieldRequest

def nested (key : String) : List FieldRequest → List Selection
  | [] => []
  | request :: rest =>
    if request.key = key then request.selections ++ nested key rest
    else nested key rest

/-- One request for each key, in the order in which the keys first occur. -/
def grouped : List FieldRequest → List FieldRequest
  | [] => []
  | request :: rest =>
    { request with
      selections := request.selections ++ nested request.key rest } ::
      (grouped rest).filter (·.key ≠ request.key)

theorem heightAll_nested_lt {key : String} {bound : Nat}
    (positive : 0 < bound) :
    ∀ {requests : List FieldRequest},
      (∀ request ∈ requests, Selection.heightAll request.selections < bound) →
      Selection.heightAll (nested key requests) < bound
  | [], _ => positive
  | request :: rest, below => by
      have restBelow : Selection.heightAll (nested key rest) < bound :=
        heightAll_nested_lt positive fun other member =>
          below other (by simp [member])
      rw [nested]
      split
      · rw [Selection.heightAll_append]
        exact Nat.max_lt.mpr ⟨below request (by simp), restBelow⟩
      · exact restBelow

theorem heightAll_lt_of_mem_grouped {bound : Nat} {request : FieldRequest} :
    ∀ {requests : List FieldRequest},
      (∀ request ∈ requests, Selection.heightAll request.selections < bound) →
      request ∈ grouped requests →
      Selection.heightAll request.selections < bound
  | [], _, member => by simp [grouped] at member
  | first :: rest, below, member => by
      have firstBelow := below first (by simp)
      have restBelow : ∀ other ∈ rest,
          Selection.heightAll other.selections < bound :=
        fun other member => below other (by simp [member])
      rw [grouped, List.mem_cons] at member
      rcases member with rfl | inRest
      · rw [Selection.heightAll_append]
        exact Nat.max_lt.mpr
          ⟨firstBelow, heightAll_nested_lt (by omega) restBelow⟩
      · exact heightAll_lt_of_mem_grouped restBelow (List.mem_filter.mp inRest).1

theorem find?_grouped (key : String) (requests : List FieldRequest) :
    (grouped requests).find? (·.key == key) =
      (requests.find? (·.key == key)).map fun first =>
        { first with selections := nested key requests } := by
  induction requests with
  | nil => rfl
  | cons request rest ih =>
      by_cases same : request.key = key
      · subst same
        simp [grouped, nested]
      · have kept : (fun other : FieldRequest =>
            decide (decide (other.key ≠ request.key) = true ∧
              (other.key == key) = true)) = fun other => other.key == key := by
          funext other
          by_cases found : other.key = key
          · simp [found, Ne.symm same]
          · simp [found]
        simp only [grouped, nested, if_neg same, List.find?_cons,
          beq_eq_false_iff_ne.mpr same, List.find?_filter, kept]
        exact ih

theorem entry?_map {value : FieldRequest → Json} (key : String)
    (requests : List FieldRequest) :
    Json.entry? (requests.map fun request => (request.key, value request)) key =
      (requests.find? (·.key == key)).map value := by
  induction requests with
  | nil => rfl
  | cons request rest ih =>
      rw [Json.entry?] at ih ⊢
      rw [List.map_cons, List.lookup_cons, List.find?_cons, ih, BEq.comm]
      cases request.key == key <;> rfl

end FieldRequest

/-- What a field resolves to; null is a leaf. -/
inductive Node (Object : Type) where
  | leaf (value : Json)
  | list (items : List (Node Object))
  | object (object : Object)

/-- The types of objects, and their fields by name and written arguments. -/
structure Resolver (Object : Type) where
  typeName : Object → String
  field : Object → String → String → Node Object

namespace Resolver

variable {Object : Type}

/-- Every object has a field with the name of its type. -/
def resolve (resolver : Resolver Object) (object : Object)
    (name arguments : String) : Node Object :=
  if name = typenameField then .leaf (.string (resolver.typeName object))
  else resolver.field object name arguments

def complete (resolver : Resolver Object) (selections : List Selection) :
    Node Object → Json
  | .leaf value => value
  | .list items =>
    .array (items.map fun item => resolver.complete selections item)
  | .object object =>
    .object
      ((FieldRequest.grouped
        (Selection.collect (resolver.typeName object) selections)).attach.map
          fun request =>
            (request.val.key, resolver.complete request.val.selections
              (resolver.resolve object request.val.name request.val.arguments)))
-- Items of a list are smaller nodes; what is asked below a field is less high.
termination_by node => (Selection.heightAll selections, sizeOf node)
decreasing_by
  · right
    have := List.sizeOf_lt_of_mem ‹_›
    simp
    omega
  · left
    exact FieldRequest.heightAll_lt_of_mem_grouped
      (fun _ => Selection.heightAll_lt_of_mem_collect) request.property

theorem complete_leaf (resolver : Resolver Object)
    (selections : List Selection) (value : Json) :
    resolver.complete selections (.leaf value) = value := by
  rw [complete]

theorem complete_list (resolver : Resolver Object)
    (selections : List Selection) (items : List (Node Object)) :
    resolver.complete selections (.list items) =
      .array (items.map (resolver.complete selections)) := by
  rw [complete]

def entries (resolver : Resolver Object) (selections : List Selection)
    (object : Object) : List (String × Json) :=
  (FieldRequest.grouped
    (Selection.collect (resolver.typeName object) selections)).map
      fun request =>
        (request.key, resolver.complete request.selections
          (resolver.resolve object request.name request.arguments))

theorem complete_object (resolver : Resolver Object)
    (selections : List Selection) (object : Object) :
    resolver.complete selections (.object object) =
      .object (resolver.entries selections object) := by
  rw [complete, entries]
  simp only [List.map_attach_eq_pmap, List.pmap_eq_map]

theorem entry?_entries (resolver : Resolver Object)
    (selections : List Selection) (object : Object) (key : String) :
    Json.entry? (resolver.entries selections object) key =
      ((Selection.collect (resolver.typeName object) selections).find?
        (·.key == key)).map fun first =>
          resolver.complete
            (FieldRequest.nested key
              (Selection.collect (resolver.typeName object) selections))
            (resolver.resolve object first.name first.arguments) := by
  rw [entries, FieldRequest.entry?_map, FieldRequest.find?_grouped, Option.map_map]
  rfl

end Resolver

end TypedGraphQL
