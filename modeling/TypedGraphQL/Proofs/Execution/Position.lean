import TypedGraphQL.Proofs.Execution.Resolver
import TypedGraphQL.Proofs.Response.Recording

namespace TypedGraphQL

/-- The objects' types and the keys in them that lead to a value, outermost first. -/
abbrev Position := List (String × String)

namespace Selection

/-- The requests ask for a field of a name with written arguments at a position. -/
inductive Asks : List Selection → Position → String → String → Prop where
  | field {selections : List Selection} {alias? : Option String}
      {name : String} {arguments : Arguments} {nested : List Selection}
      (typeName : String)
      (member : .field alias? name arguments nested ∈ selections) :
      Asks selections [(typeName, alias?.getD name)] name arguments.text
  | nested {selections : List Selection} {alias? : Option String}
      {name : String} {arguments : Arguments} {nested : List Selection}
      {position : Position} {other text : String} (typeName : String)
      (member : .field alias? name arguments nested ∈ selections)
      (asked : Asks nested position other text) :
      Asks selections ((typeName, alias?.getD name) :: position) other text
  | fragment {selections : List Selection} {typeName : String}
      {nested : List Selection} {key : String} {position : Position}
      {name text : String} (member : .fragment typeName nested ∈ selections)
      (asked : Asks nested ((typeName, key) :: position) name text) :
      Asks selections ((typeName, key) :: position) name text

theorem Asks.mono {first second : List Selection} {position : Position}
    {name text : String} (asked : Asks first position name text)
    (subset : ∀ entry ∈ first, entry ∈ second) :
    Asks second position name text := by
  cases asked with
  | field typeName member => exact .field typeName (subset _ member)
  | nested typeName member asked => exact .nested typeName (subset _ member) asked
  | fragment member asked => exact .fragment (subset _ member) asked

theorem asks_iff_exists {selections : List Selection} {position : Position}
    {name text : String} :
    Asks selections position name text ↔
      ∃ entry ∈ selections, Asks [entry] position name text := by
  constructor
  · intro asked
    cases asked with
    | field typeName member =>
        exact ⟨_, member, .field typeName (List.mem_singleton_self _)⟩
    | nested typeName member asked =>
        exact ⟨_, member, .nested typeName (List.mem_singleton_self _) asked⟩
    | fragment member asked =>
        exact ⟨_, member, .fragment (List.mem_singleton_self _) asked⟩
  · rintro ⟨entry, member, asked⟩
    apply asked.mono
    simpa using member

theorem asks_append {first second : List Selection} {position : Position}
    {name text : String} :
    Asks (first ++ second) position name text ↔
      Asks first position name text ∨ Asks second position name text := by
  rw [asks_iff_exists, asks_iff_exists, asks_iff_exists]
  constructor
  · rintro ⟨entry, member, asked⟩
    rcases List.mem_append.mp member with inFirst | inSecond
    · exact .inl ⟨entry, inFirst, asked⟩
    · exact .inr ⟨entry, inSecond, asked⟩
  · rintro (⟨entry, member, asked⟩ | ⟨entry, member, asked⟩)
    · exact ⟨entry, List.mem_append_left _ member, asked⟩
    · exact ⟨entry, List.mem_append_right _ member, asked⟩

theorem asks_field {alias? : Option String} {label : String}
    {arguments : Arguments} {selections : List Selection}
    {position : Position} {name text : String} :
    Asks [.field alias? label arguments selections] position name text ↔
      ∃ typeName rest, position = (typeName, alias?.getD label) :: rest ∧
        ((rest = [] ∧ label = name ∧ arguments.text = text) ∨
          Asks selections rest name text) := by
  constructor
  · intro asked
    cases asked with
    | field typeName member =>
        cases List.mem_singleton.mp member
        exact ⟨typeName, [], rfl, .inl ⟨rfl, rfl, rfl⟩⟩
    | nested typeName member asked =>
        cases List.mem_singleton.mp member
        exact ⟨typeName, _, rfl, .inr asked⟩
    | fragment member => simp at member
  · rintro ⟨typeName, rest, rfl, ⟨rfl, rfl, rfl⟩ | asked⟩
    · exact .field typeName (List.mem_singleton_self _)
    · exact .nested typeName (List.mem_singleton_self _) asked

theorem asks_fragment {typeCondition : String} {selections : List Selection}
    {position : Position} {name text : String} :
    Asks [.fragment typeCondition selections] position name text ↔
      (∃ key rest, position = (typeCondition, key) :: rest) ∧
        Asks selections position name text := by
  constructor
  · intro asked
    cases asked with
    | field typeName member => simp at member
    | nested typeName member => simp at member
    | fragment member asked =>
        cases List.mem_singleton.mp member
        exact ⟨⟨_, _, rfl⟩, asked⟩
  · rintro ⟨⟨key, rest, rfl⟩, asked⟩
    exact .fragment (List.mem_singleton_self _) asked

def AsksFor (selections : List Selection) (position : Position) : Prop :=
  ∃ name text, Asks selections position name text

theorem asksFor_iff_exists {selections : List Selection}
    {position : Position} :
    AsksFor selections position ↔
      ∃ entry ∈ selections, AsksFor [entry] position := by
  constructor
  · rintro ⟨name, text, asked⟩
    obtain ⟨entry, member, asked⟩ := asks_iff_exists.mp asked
    exact ⟨entry, member, name, text, asked⟩
  · rintro ⟨entry, member, name, text, asked⟩
    exact ⟨name, text, asks_iff_exists.mpr ⟨entry, member, asked⟩⟩

theorem asksFor_field {alias? : Option String} {label : String}
    {arguments : Arguments} {selections : List Selection}
    {position : Position} :
    AsksFor [.field alias? label arguments selections] position ↔
      ∃ typeName rest, position = (typeName, alias?.getD label) :: rest ∧
        (rest = [] ∨ AsksFor selections rest) := by
  simp only [AsksFor, asks_field]
  constructor
  · rintro ⟨name, text, typeName, rest, rfl, ⟨rfl, -, -⟩ | asked⟩
    · exact ⟨typeName, [], rfl, .inl rfl⟩
    · exact ⟨typeName, rest, rfl, .inr ⟨name, text, asked⟩⟩
  · rintro ⟨typeName, rest, rfl, rfl | ⟨name, text, asked⟩⟩
    · exact ⟨label, arguments.text, typeName, [], rfl, .inl ⟨rfl, rfl, rfl⟩⟩
    · exact ⟨name, text, typeName, rest, rfl, .inr asked⟩

theorem asksFor_fragment {typeCondition : String}
    {selections : List Selection} {position : Position} :
    AsksFor [.fragment typeCondition selections] position ↔
      (∃ key rest, position = (typeCondition, key) :: rest) ∧
        AsksFor selections position := by
  simp only [AsksFor, asks_fragment]
  constructor
  · rintro ⟨name, text, applies, asked⟩
    exact ⟨applies, name, text, asked⟩
  · rintro ⟨applies, name, text, asked⟩
    exact ⟨name, text, applies, asked⟩

/-- A merged list asks for nothing that neither part asks for. -/
theorem asks_of_asks_mergeAll {into selections : List Selection}
    {position : Position} {name text : String}
    (asked : Asks (mergeAll into selections) position name text) :
    Asks into position name text ∨ Asks selections position name text := by
  rw [asks_iff_exists] at asked
  rw [@asks_iff_exists into, @asks_iff_exists selections]
  refine @exists_of_exists_mergeAll (Position × String × String)
    (fun ⟨position, name, text⟩ entry => Asks [entry] position name text) ?_
    selections into (position, name, text) asked
  rintro held incoming same below ⟨position, name, text⟩ absorbed
  have below (position : Position) (name text : String)
      (merged : Asks (mergeAll held.children incoming.children) position name
        text) :
      Asks held.children position name text ∨
        Asks incoming.children position name text := by
    rw [asks_iff_exists] at merged
    rw [@asks_iff_exists held.children, @asks_iff_exists incoming.children]
    exact below (position, name, text) merged
  obtain ⟨alias?, label, _, _, nested, others, rfl, rfl, -, absorbs⟩ |
    ⟨typeCondition, nested, others, rfl, rfl, absorbs⟩ := absorb_cases same
  · simp only [absorbs, children, asks_field] at absorbed below ⊢
    obtain ⟨typeName, rest, rfl, here | merged⟩ := absorbed
    · exact .inl ⟨typeName, rest, rfl, .inl here⟩
    · rcases below rest name text merged with asked | asked
      · exact .inl ⟨typeName, rest, rfl, .inr asked⟩
      · exact .inr ⟨typeName, rest, rfl, .inr asked⟩
  · simp only [absorbs, children, asks_fragment] at absorbed below ⊢
    rcases below position name text absorbed.2 with asked | asked
    · exact .inl ⟨absorbed.1, asked⟩
    · exact .inr ⟨absorbed.1, asked⟩

theorem asksFor_mergeAll {into selections : List Selection}
    {position : Position}
    (asked : AsksFor into position ∨ AsksFor selections position) :
    AsksFor (mergeAll into selections) position := by
  rw [asksFor_iff_exists] at asked ⊢
  rw [asksFor_iff_exists] at asked
  refine @exists_mergeAll Position
    (fun position entry => AsksFor [entry] position) ?_ selections into position
    asked
  intro held incoming same below position either
  simp only [← asksFor_iff_exists] at below
  obtain ⟨alias?, label, _, _, nested, others, rfl, rfl, -, absorbs⟩ |
    ⟨typeCondition, nested, others, rfl, rfl, absorbs⟩ := absorb_cases same
  · simp only [absorbs, children, asksFor_field] at either below ⊢
    rcases either with ⟨typeName, rest, rfl, here | asked⟩ |
      ⟨typeName, rest, rfl, here | asked⟩
    · exact ⟨typeName, rest, rfl, .inl here⟩
    · exact ⟨typeName, rest, rfl, .inr (below rest (.inl asked))⟩
    · exact ⟨typeName, rest, rfl, .inl here⟩
    · exact ⟨typeName, rest, rfl, .inr (below rest (.inr asked))⟩
  · simp only [absorbs, children, asksFor_fragment] at either below ⊢
    rcases either with ⟨applies, asked⟩ | ⟨applies, asked⟩
    · exact ⟨applies, below position (.inl asked)⟩
    · exact ⟨applies, below position (.inr asked)⟩

theorem mem_collect {typeName : String} {request : FieldRequest}
    {selections : List Selection} :
    request ∈ collect typeName selections ↔
      ∃ entry ∈ selections, request ∈ entry.fields typeName := by
  induction selections with
  | nil => simp [collect]
  | cons entry rest ih => simp [collect, ih]

/-- What is asked at a position, in terms of the collected fields of its object. -/
def FieldAsks (request : FieldRequest) (rest : Position)
    (name text : String) : Prop :=
  (rest = [] ∧ request.name = name ∧ request.arguments = text) ∨
    Asks request.selections rest name text

mutual
theorem asks_of_mem_fields {typeName : String} {request : FieldRequest}
    {rest : Position} {name text : String}
    (asked : FieldAsks request rest name text) :
    ∀ {entry : Selection}, request ∈ entry.fields typeName →
      Asks [entry] ((typeName, request.key) :: rest) name text
  | .field alias? label arguments selections, member => by
      rw [fields, List.mem_singleton] at member
      subst member
      exact asks_field.mpr ⟨typeName, rest, rfl, asked⟩
  | .fragment typeCondition selections, member => by
      rw [fields] at member
      split at member
      next same =>
        subst same
        exact asks_fragment.mpr ⟨⟨_, _, rfl⟩, asks_of_mem_collect asked member⟩
      next => simp at member

theorem asks_of_mem_collect {typeName : String} {request : FieldRequest}
    {rest : Position} {name text : String}
    (asked : FieldAsks request rest name text) :
    ∀ {selections : List Selection}, request ∈ collect typeName selections →
      Asks selections ((typeName, request.key) :: rest) name text
  | [], member => by simp [collect] at member
  | entry :: others, member => by
      rw [collect, List.mem_append] at member
      rw [← List.singleton_append, asks_append]
      rcases member with inEntry | inOthers
      · exact .inl (asks_of_mem_fields asked inEntry)
      · exact .inr (asks_of_mem_collect asked inOthers)
end

theorem Asks.exists_mem_collect {selections : List Selection}
    {position : Position} {name text : String}
    (asked : Asks selections position name text) :
    ∃ typeName rest, ∃ request ∈ collect typeName selections,
      position = (typeName, request.key) :: rest ∧
        FieldAsks request rest name text := by
  induction asked with
  | field typeName member =>
      exact ⟨typeName, [], _,
        mem_collect.mpr ⟨_, member, List.mem_singleton_self _⟩, rfl,
        .inl ⟨rfl, rfl, rfl⟩⟩
  | nested typeName member asked =>
      exact ⟨typeName, _, _,
        mem_collect.mpr ⟨_, member, List.mem_singleton_self _⟩, rfl,
        .inr asked⟩
  | fragment member _ ih =>
      obtain ⟨typeName, rest, request, collected, same, asks⟩ := ih
      cases same
      refine ⟨_, _, request, mem_collect.mpr ⟨_, member, ?_⟩, rfl, asks⟩
      rwa [fields, if_pos rfl]

theorem asks_cons_iff {selections : List Selection} {typeName key : String}
    {rest : Position} {name text : String} :
    Asks selections ((typeName, key) :: rest) name text ↔
      ∃ request ∈ collect typeName selections, request.key = key ∧
        FieldAsks request rest name text := by
  constructor
  · intro asked
    obtain ⟨_, _, request, collected, same, asks⟩ := asked.exists_mem_collect
    cases same
    exact ⟨request, collected, rfl, asks⟩
  · rintro ⟨request, collected, rfl, asks⟩
    exact asks_of_mem_collect asks collected

theorem not_asks_nil {selections : List Selection} {name text : String} :
    ¬ Asks selections [] name text := by
  intro asked
  cases asked

theorem asks_nested_iff {requests : List FieldRequest} {key : String}
    {position : Position} {name text : String} :
    Asks (FieldRequest.nested key requests) position name text ↔
      ∃ request ∈ requests, request.key = key ∧
        Asks request.selections position name text := by
  induction requests with
  | nil =>
      simp only [FieldRequest.nested, List.not_mem_nil, false_and, exists_false,
        iff_false]
      intro asked
      obtain ⟨entry, member, -⟩ := asks_iff_exists.mp asked
      simp at member
  | cons request rest ih =>
      rw [FieldRequest.nested]
      split
      next same => simp [asks_append, ih, same]
      next differ => simp [ih, differ]

theorem asks_nested_collect_iff {selections : List Selection}
    {typeName key : String} {step : String × String} {rest : Position}
    {name text : String} :
    Asks (FieldRequest.nested key (collect typeName selections))
        (step :: rest) name text ↔
      Asks selections ((typeName, key) :: step :: rest) name text := by
  rw [asks_nested_iff, asks_cons_iff]
  simp [FieldAsks]

end Selection

end TypedGraphQL
