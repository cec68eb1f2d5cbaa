import TypedGraphQL.Proofs.Selection.Merge

namespace TypedGraphQL.Selection

/-- The lists of requests at every depth of `root`. -/
inductive ListIn (root : List Selection) : List Selection → Prop where
  | root : ListIn root root
  | nested {selections : List Selection} {entry : Selection} :
      ListIn root selections → entry ∈ selections →
      ListIn root entry.children

/-- The property holds of the entries at every depth. -/
def Hereditary (P : Selection → Prop) (root : List Selection) : Prop :=
  ∀ selections, ListIn root selections → ∀ entry ∈ selections, P entry

theorem ListIn.trans {first second third : List Selection}
    (outer : ListIn first second) (inner : ListIn second third) :
    ListIn first third := by
  induction inner with
  | root => exact outer
  | nested _ member ih => exact .nested ih member

theorem ListIn.cases_root {root selections : List Selection}
    (reached : ListIn root selections) :
    selections = root ∨ ∃ entry ∈ root, ListIn entry.children selections := by
  induction reached with
  | root => exact .inl rfl
  | nested _ member ih =>
      rcases ih with rfl | ⟨first, inRoot, inner⟩
      · exact .inr ⟨_, member, .root⟩
      · exact .inr ⟨first, inRoot, .nested inner member⟩

theorem hereditary_iff {P : Selection → Prop} {root : List Selection} :
    Hereditary P root ↔
      ∀ entry ∈ root, P entry ∧ Hereditary P entry.children := by
  constructor
  · intro holds entry member
    exact ⟨holds root .root entry member, fun selections reached =>
      holds selections (.trans (.nested .root member) reached)⟩
  · intro holds selections reached entry member
    rcases reached.cases_root with rfl | ⟨first, inRoot, inner⟩
    · exact (holds entry member).1
    · exact (holds first inRoot).2 selections inner entry member

theorem hereditary_cons {P : Selection → Prop} {entry : Selection}
    {rest : List Selection} :
    Hereditary P (entry :: rest) ↔
      (P entry ∧ Hereditary P entry.children) ∧ Hereditary P rest := by
  rw [hereditary_iff, List.forall_mem_cons, ← hereditary_iff]

theorem Hereditary.append {P : Selection → Prop}
    {first second : List Selection} (firstHolds : Hereditary P first)
    (secondHolds : Hereditary P second) : Hereditary P (first ++ second) := by
  rw [hereditary_iff] at *
  intro entry member
  rcases List.mem_append.mp member with inFirst | inSecond
  · exact firstHolds entry inFirst
  · exact secondHolds entry inSecond

theorem Hereditary.nil {P : Selection → Prop} : Hereditary P [] :=
  hereditary_iff.mpr (by simp)

theorem Hereditary.singleton {P : Selection → Prop} {entry : Selection}
    (holds : P entry) (below : Hereditary P entry.children) :
    Hereditary P [entry] :=
  hereditary_iff.mpr (by simpa using ⟨holds, below⟩)

@[simp] theorem children_withChildren (selections : List Selection)
    (entry : Selection) : (entry.withChildren selections).children = selections := by
  cases entry <;> rfl

/-- Merging keeps a property that does not depend on the entries below. -/
theorem Hereditary.mergeAll {P : Selection → Prop}
    (stable : ∀ entry selections, P entry → P (entry.withChildren selections))
    {into incoming : List Selection} (intoHolds : Hereditary P into)
    (incomingHolds : Hereditary P incoming) :
    Hereditary P (mergeAll into incoming) := by
  rw [hereditary_iff] at *
  apply @forall_mergeAll Unit
    (fun _ entry => P entry ∧ Hereditary P entry.children) _ into incoming ()
    intoHolds incomingHolds
  intro held other _ below _ heldHolds otherHolds
  rw [absorb_eq, children_withChildren]
  exact ⟨stable held _ heldHolds.1, hereditary_iff.mpr
    (below () (hereditary_iff.mp heldHolds.2) (hereditary_iff.mp otherHolds.2))⟩

end TypedGraphQL.Selection
