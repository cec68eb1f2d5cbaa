import TypedGraphQL.Proofs.Selection.Sameness

namespace TypedGraphQL

/--
Arguments that match when a request is looked for, floats being compared as
numbers; arguments with a NaN match themselves as well.
-/
def Arguments.Alike (arguments other : Arguments) : Prop :=
  arguments = other ∨ arguments.same other = true

theorem Arguments.alike_congr {first second : Arguments}
    (same : first.same second = true) (arguments : Arguments) :
    arguments.Alike first ↔ arguments.Alike second := by
  have reversed : second.same first = true := by
    rw [Arguments.same, Literal.sameFields_comm]
    exact same
  constructor
  · rintro (rfl | alike)
    · exact .inr same
    · exact .inr ((Literal.sameFields_congr _ _ alike _).trans same)
  · rintro (rfl | alike)
    · exact .inr reversed
    · exact .inr ((Literal.sameFields_congr _ _ alike _).trans reversed)

namespace Selection

/-- What an entry asks for, the requests nested in it aside. -/
inductive Step where
  | field (alias? : Option String) (name : String) (arguments : Arguments)
  | fragment (typeCondition : String)

def step : Selection → Step
  | field alias? name arguments _ => .field alias? name arguments
  | fragment typeCondition _ => .fragment typeCondition

def Step.Alike : Step → Step → Prop
  | field alias? name arguments, field otherAlias? other otherArguments =>
    alias? = otherAlias? ∧ name = other ∧ arguments.Alike otherArguments
  | fragment typeCondition, fragment otherCondition =>
    typeCondition = otherCondition
  | _, _ => False

/-- The path leads down the list, with an entry like each of its steps. -/
def Occurs : List Step → List Selection → Prop
  | [], _ => True
  | step :: rest, selections =>
    ∃ entry ∈ selections, step.Alike entry.step ∧ Occurs rest entry.children

theorem Step.alike_congr {held incoming : Selection}
    (same : held.sameRequest incoming = true) (step : Step) :
    step.Alike held.step ↔ step.Alike incoming.step := by
  obtain ⟨alias?, name, arguments, otherArguments, selections, others, rfl, rfl,
      sameArguments, -⟩ | ⟨typeCondition, selections, others, rfl, rfl, -⟩ :=
    absorb_cases same
  · cases step with
    | field ownAlias? ownName ownArguments =>
        simp only [Selection.step, Step.Alike,
          Arguments.alike_congr sameArguments]
    | fragment typeCondition => rfl
  · rfl

theorem step_withChildren (selections : List Selection) (entry : Selection) :
    (entry.withChildren selections).step = entry.step := by
  cases entry <;> rfl

/-! Merging -/

def Leads (path : Step × List Step) (entry : Selection) : Prop :=
  path.1.Alike entry.step ∧ Occurs path.2 entry.children

theorem leads_absorb_iff (held incoming : Selection) (step : Step)
    (rest : List Step) :
    Leads (step, rest) (absorb held incoming) ↔
      step.Alike held.step ∧
        Occurs rest (mergeAll held.children incoming.children) := by
  rw [Leads, absorb_eq, step_withChildren, children_withChildren]

theorem occurs_of_mergeAll {path : List Step} {into selections : List Selection}
    (occurs : Occurs path (mergeAll into selections)) :
    Occurs path into ∨ Occurs path selections := by
  cases path with
  | nil => exact .inl trivial
  | cons step rest =>
      refine @exists_of_exists_mergeAll _ Leads ?_ selections into (step, rest)
        occurs
      rintro held incoming same below ⟨step, rest⟩ leads
      obtain ⟨alike, occurs⟩ := (leads_absorb_iff held incoming step rest).mp leads
      have alikeIncoming := (Step.alike_congr same step).mp alike
      cases rest with
      | nil => exact .inl ⟨alike, trivial⟩
      | cons next others =>
          rcases below (next, others) occurs with inHeld | inIncoming
          · exact .inl ⟨alike, inHeld⟩
          · exact .inr ⟨alikeIncoming, inIncoming⟩

theorem occurs_mergeAll {path : List Step} {into selections : List Selection}
    (occurs : Occurs path into ∨ Occurs path selections) :
    Occurs path (mergeAll into selections) := by
  cases path with
  | nil => trivial
  | cons step rest =>
      refine @exists_mergeAll _ Leads ?_ selections into (step, rest) occurs
      rintro held incoming same below ⟨step, rest⟩ either
      have alike : step.Alike held.step :=
        either.elim And.left fun leads =>
          (Step.alike_congr same step).mpr leads.1
      refine (leads_absorb_iff held incoming step rest).mpr ⟨alike, ?_⟩
      cases rest with
      | nil => trivial
      | cons next others =>
          exact below (next, others) (either.imp And.right And.right)

/--
Merging requests the union: a path occurs in the merged list exactly if it
occurs in one of the two, whichever is merged into the other.
-/
theorem merging_requests_union (into selections : List Selection)
    (path : List Step) :
    (Occurs path (mergeAll into selections) ↔
        Occurs path into ∨ Occurs path selections) ∧
      (Occurs path (mergeAll into selections) ↔
        Occurs path (mergeAll selections into)) := by
  have union (first second : List Selection) :
      Occurs path (mergeAll first second) ↔
        Occurs path first ∨ Occurs path second :=
    ⟨occurs_of_mergeAll, occurs_mergeAll⟩
  exact ⟨union into selections, by rw [union, union, or_comm]⟩

end Selection

end TypedGraphQL
