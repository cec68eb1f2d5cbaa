import TypedGraphQL.Proofs.Response.Recording

namespace TypedGraphQL

namespace Access

mutual
/-- The requests have an entry for the access, with entries for those nested in it. -/
def PlacedIn (requests : List Selection) : Access → Prop
  | leaf name arguments =>
    ∃ otherArguments nested,
      .field (arguments.alias? name) name otherArguments nested ∈ requests
  | composite name arguments accesses =>
    ∃ otherArguments nested,
      .field (arguments.alias? name) name otherArguments nested ∈ requests ∧
        AllPlacedIn nested accesses
  | fragment typeName accesses =>
    ∃ nested, .fragment typeName nested ∈ requests ∧ AllPlacedIn nested accesses

def AllPlacedIn (requests : List Selection) : List Access → Prop
  | [] => True
  | access :: rest => access.PlacedIn requests ∧ AllPlacedIn requests rest
end

theorem PlacedIn.mono {first second : List Selection} {access : Access}
    (placed : access.PlacedIn first)
    (subset : ∀ entry ∈ first, entry ∈ second) : access.PlacedIn second := by
  cases access with
  | leaf name arguments =>
      obtain ⟨otherArguments, nested, member⟩ := placed
      exact ⟨otherArguments, nested, subset _ member⟩
  | composite name arguments accesses =>
      obtain ⟨otherArguments, nested, member, below⟩ := placed
      exact ⟨otherArguments, nested, subset _ member, below⟩
  | fragment typeName accesses =>
      obtain ⟨nested, member, below⟩ := placed
      exact ⟨nested, subset _ member, below⟩

theorem placedIn_iff_exists {requests : List Selection} {access : Access} :
    access.PlacedIn requests ↔ ∃ entry ∈ requests, access.PlacedIn [entry] := by
  constructor
  · intro placed
    cases access with
    | leaf name arguments =>
        obtain ⟨otherArguments, nested, member⟩ := placed
        exact ⟨_, member, otherArguments, nested, List.mem_singleton_self _⟩
    | composite name arguments accesses =>
        obtain ⟨otherArguments, nested, member, below⟩ := placed
        exact ⟨_, member, otherArguments, nested, List.mem_singleton_self _, below⟩
    | fragment typeName accesses =>
        obtain ⟨nested, member, below⟩ := placed
        exact ⟨_, member, nested, List.mem_singleton_self _, below⟩
  · rintro ⟨entry, member, placed⟩
    exact placed.mono (by simpa using member)

theorem allPlacedIn_iff {requests : List Selection} {accesses : List Access} :
    AllPlacedIn requests accesses ↔
      ∀ access ∈ accesses, access.PlacedIn requests := by
  induction accesses with
  | nil => simp [AllPlacedIn]
  | cons access rest ih => simp [AllPlacedIn, ih]

theorem PlacedIn.mergeAll {into selections : List Selection} {access : Access}
    (placed : access.PlacedIn into ∨ access.PlacedIn selections) :
    access.PlacedIn (Selection.mergeAll into selections) := by
  rw [placedIn_iff_exists, @placedIn_iff_exists selections] at placed
  rw [placedIn_iff_exists]
  refine @Selection.exists_mergeAll Access
    (fun access entry => access.PlacedIn [entry]) ?_ selections into access placed
  intro held incoming same below access either
  simp only [← placedIn_iff_exists] at below
  have nestedBelow (accesses : List Access)
      (either : AllPlacedIn held.children accesses ∨
        AllPlacedIn incoming.children accesses) :
      AllPlacedIn (Selection.mergeAll held.children incoming.children)
        accesses := by
    rw [allPlacedIn_iff, @allPlacedIn_iff incoming.children] at either
    rw [allPlacedIn_iff]
    intro access member
    exact below access (either.imp (· access member) (· access member))
  obtain ⟨alias?, name, _, _, nested, others, rfl, rfl, -, absorbs⟩ |
    ⟨typeCondition, nested, others, rfl, rfl, absorbs⟩ :=
      Selection.absorb_cases same
  · rw [absorbs]
    cases access with
    | leaf name arguments => simpa [PlacedIn] using either
    | composite name arguments accesses =>
        simp only [PlacedIn, List.mem_singleton, Selection.field.injEq] at either ⊢
        rcases either with ⟨_, _, ⟨rfl, rfl, rfl, rfl⟩, placed⟩ |
          ⟨_, _, ⟨rfl, rfl, rfl, rfl⟩, placed⟩
        · exact ⟨_, _, ⟨rfl, rfl, rfl, rfl⟩, nestedBelow _ (.inl placed)⟩
        · exact ⟨_, _, ⟨rfl, rfl, rfl, rfl⟩, nestedBelow _ (.inr placed)⟩
    | fragment typeName accesses => simp [PlacedIn] at either
  · rw [absorbs]
    cases access with
    | leaf name arguments => simp [PlacedIn] at either
    | composite name arguments accesses => simp [PlacedIn] at either
    | fragment typeName accesses =>
        simp only [PlacedIn, List.mem_singleton, Selection.fragment.injEq]
          at either ⊢
        rcases either with ⟨_, ⟨rfl, rfl⟩, placed⟩ | ⟨_, ⟨rfl, rfl⟩, placed⟩
        · exact ⟨_, ⟨rfl, rfl⟩, nestedBelow _ (.inl placed)⟩
        · exact ⟨_, ⟨rfl, rfl⟩, nestedBelow _ (.inr placed)⟩

theorem AllPlacedIn.recordingRelation : RecordingRelation AllPlacedIn where
  nil := trivial
  leaf _ _ := ⟨⟨_, _, List.mem_singleton_self _⟩, trivial⟩
  composite _ _ _ _ nested :=
    ⟨⟨_, _, List.mem_singleton_self _, nested⟩, trivial⟩
  fragment _ _ _ nested := ⟨⟨_, List.mem_singleton_self _, nested⟩, trivial⟩
  append first second := by
    rw [allPlacedIn_iff] at *
    intro access member
    rcases List.mem_append.mp member with inFirst | inSecond
    · exact (first access inFirst).mono fun entry => List.mem_append_left _
    · exact (second access inSecond).mono fun entry => List.mem_append_right _
  mergeAll first second := by
    rw [allPlacedIn_iff] at *
    intro access member
    rcases List.mem_append.mp member with inFirst | inSecond
    · exact .mergeAll (.inl (first access inFirst))
    · exact .mergeAll (.inr (second access inSecond))

end Access

end TypedGraphQL
