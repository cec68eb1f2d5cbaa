import TypedGraphQL.Introspection.Document

namespace TypedGraphQL.Introspection

namespace Reference

def keys : List String :=
  ["kind", "name", "ofType"]

def inner? : Option Json → Option (Option Reference)
  | none => some none
  | some node => optional? node

def only? {α : Type} (read : Json → Option α) (found : Option α) :
    List (String × Json) → Option (Option α)
  | [] => some found
  | (_, value) :: rest =>
    if found.isSome then none
    else (read value).bind fun value => only? read (some value) rest

section Only

variable {α : Type} {read : Json → Option α}

theorem only?_cons {found : Option α} {entry : String × Json}
    {entries : List (String × Json)} :
    only? read found (entry :: entries) =
      if found.isSome then none
      else (read entry.2).bind fun value => only? read (some value) entries :=
  rfl

theorem only?_filter {key : String} {entries : List (String × Json)} :
    only? read none (entries.filter (·.1 == key)) =
      (member? entries key).bind (Option.mapM read) := by
  rw [member?]
  cases entries.filter (·.1 == key) with
  | nil => rfl
  | cons entry rest =>
      rw [only?_cons]
      cases rest with
      | nil => cases found : read entry.2 <;> simp [found, only?]
      | cons other rest => cases read entry.2 <;> simp [only?]

end Only

theorem ofEntries?_eq (kind : Option Kind) (name : Option (Option String))
    (ofType : Option (Option Reference)) (entries : List (String × Json)) :
    ofEntries? kind name ofType entries = (do
      let kind ← only? Kind.ofJson? kind (entries.filter (·.1 == "kind"))
      let name ← only? (optionalText? ∘ some) name
        (entries.filter (·.1 == "name"))
      let ofType ← only? optional? ofType (entries.filter (·.1 == "ofType"))
      kind.map fun kind => ofMembers kind name.join ofType.join) := by
  induction entries generalizing kind name ofType with
  | nil => simp [ofEntries?, only?]
  | cons entry entries ih =>
      obtain ⟨key, value⟩ := entry
      rw [ofEntries?]
      split
      next isKind =>
        subst isKind
        simp only [List.filter_cons, String.reduceBEq, beq_self_eq_true,
          reduceIte, Bool.false_eq_true, only?_cons]
        split
        · rfl
        · cases Kind.ofJson? value <;> simp [ih]
      next notKind =>
        split
        next isName =>
          subst isName
          simp only [List.filter_cons, String.reduceBEq, beq_self_eq_true,
          reduceIte, Bool.false_eq_true, only?_cons, Function.comp_apply]
          split
          · simp
          · cases optionalText? (some value) <;> simp [ih]
        next notName =>
          split
          next isOfType =>
            subst isOfType
            simp only [List.filter_cons, String.reduceBEq, beq_self_eq_true,
          reduceIte, Bool.false_eq_true, only?_cons]
            split
            · simp
            · cases optional? value <;> simp [ih]
          next notOfType => simp [ih, notKind, notName, notOfType]

theorem ofJson?_eq (node : Json) :
    ofJson? node = (do
      match ← members? keys node with
      | [kind, name, ofType] =>
        return ofMembers (← kind.bind Kind.ofJson?) (← optionalText? name)
          (← inner? ofType)
      | _ => none) := by
  have noText : optionalText? none = some none := rfl
  cases node with
  | object entries =>
      rw [ofJson?, ofEntries?_eq]
      simp only [only?_filter, members?, keys, List.mapM_cons, List.mapM_nil]
      cases member? entries "kind" with
      | none => rfl
      | some kind =>
          cases member? entries "name" with
          | none => simp
          | some name =>
              cases member? entries "ofType" with
              | none => simp
              | some ofType =>
                  cases kind <;> cases name <;> cases ofType <;>
                    simp [noText, inner?, Option.bind_map, Function.comp_def]
  | array items =>
      rcases items with _ | ⟨kind, _ | ⟨name, _ | ⟨ofType, _ | ⟨next, items⟩⟩⟩⟩ <;>
        simp [ofJson?, members?, keys, inner?]
  | null | bool | number | string => simp [ofJson?, members?]

theorem ofJson?_eq_some_iff {node : Json} {reference : Reference} :
    ofJson? node = some reference ↔
      ∃ kind name ofType foundKind foundName found,
        members? keys node = some [some kind, name, ofType] ∧
          Kind.ofJson? kind = some foundKind ∧
          optionalText? name = some foundName ∧ inner? ofType = some found ∧
          ofMembers foundKind foundName found = reference := by
  rw [ofJson?_eq]
  constructor
  · intro read
    obtain ⟨values, members, read⟩ := Option.bind_eq_some_iff.mp read
    split at read
    next kind name ofType =>
      obtain ⟨foundKind, kindRead, read⟩ := Option.bind_eq_some_iff.mp read
      obtain ⟨foundName, nameRead, read⟩ := Option.bind_eq_some_iff.mp read
      obtain ⟨found, innerRead, made⟩ := Option.bind_eq_some_iff.mp read
      obtain ⟨kind, rfl, kindRead⟩ := Option.bind_eq_some_iff.mp kindRead
      exact ⟨kind, name, ofType, foundKind, foundName, found, members, kindRead,
        nameRead, innerRead, Option.some.inj made⟩
    next => cases read
  · rintro ⟨kind, name, ofType, foundKind, foundName, found, members, kindRead,
      nameRead, innerRead, rfl⟩
    simp [members, kindRead, nameRead, innerRead]

theorem optional?_eq_some_iff {node : Json} {found : Option Reference} :
    optional? node = some found ↔
      node = .null ∧ found = none ∨
        ∃ reference, ofJson? node = some reference ∧ some reference = found := by
  cases node with
  | null => simp [optional?, ofJson?, eq_comm]
  | bool | number | string => simp [optional?, ofJson?]
  | array | object => simp [optional?]

end Reference

end TypedGraphQL.Introspection
