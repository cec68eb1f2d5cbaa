import TypedGraphQL.Proofs.Selection.Hereditary

namespace TypedGraphQL

theorem Binary64.sameNumber_comm (x y : Binary64) :
    x.sameNumber y = y.sameNumber x := by
  rw [sameNumber, sameNumber, Bool.and_comm (!x.isNaN), Bool.beq_comm,
    Bool.and_comm (x.magnitude == 0)]

namespace Literal

mutual
theorem same_comm : ∀ first second : Literal, first.same second = second.same first
  | null, second => by cases second <;> rfl
  | boolean x, second => by
      cases second <;> simp only [same]
      exact Bool.beq_comm
  | int x, second => by
      cases second <;> simp only [same]
      exact Bool.beq_comm
  | float x, second => by
      cases second <;> simp only [same]
      exact Binary64.sameNumber_comm _ _
  | string x, second => by
      cases second <;> simp only [same]
      exact Bool.beq_comm
  | enum x, second => by
      cases second <;> simp only [same]
      exact Bool.beq_comm
  | list xs, second => by
      cases second <;> simp only [same]
      exact sameItems_comm xs _
  | object xs, second => by
      cases second <;> simp only [same]
      exact sameFields_comm xs _

theorem sameItems_comm :
    ∀ first second : List Literal, sameItems first second = sameItems second first
  | [], [] | [], _ :: _ | _ :: _, [] => rfl
  | x :: xs, y :: ys => by
      rw [sameItems, sameItems, same_comm x y, sameItems_comm xs ys]

theorem sameFields_comm :
    ∀ first second : List (String × Literal),
      sameFields first second = sameFields second first
  | [], [] | [], _ :: _ | _ :: _, [] => rfl
  | (name, x) :: xs, (other, y) :: ys => by
      rw [sameFields, sameFields, same_comm x y, sameFields_comm xs ys,
        Bool.beq_comm]
end

end Literal

namespace Selection

theorem sameRequest_comm (first second : Selection) :
    first.sameRequest second = second.sameRequest first := by
  cases first with
  | field alias? name arguments selections =>
      cases second with
      | field otherAlias? other otherArguments others =>
          rw [sameRequest, sameRequest, Arguments.same, Arguments.same,
            Literal.sameFields_comm, Bool.beq_comm (a := alias?),
            Bool.beq_comm (a := name)]
      | fragment typeCondition others => rfl
  | fragment typeCondition selections =>
      cases second with
      | field alias? name arguments others => rfl
      | fragment otherCondition others => exact Bool.beq_comm

theorem sameRequest_withChildren (selections : List Selection)
    (entry other : Selection) :
    (entry.withChildren selections).sameRequest other =
      entry.sameRequest other := by
  cases entry <;> cases other <;> rfl

/-- No two entries ask for the same. -/
def Unrepeated (selections : List Selection) : Prop :=
  selections.Pairwise fun held other => held.sameRequest other = false

/-- No list of requests at any depth asks for the same twice. -/
def DeeplyUnrepeated (root : List Selection) : Prop :=
  ∀ selections, ListIn root selections → Unrepeated selections

theorem deeplyUnrepeated_iff {root : List Selection} :
    DeeplyUnrepeated root ↔
      Unrepeated root ∧ ∀ entry ∈ root, DeeplyUnrepeated entry.children := by
  constructor
  · intro unrepeated
    refine ⟨unrepeated root .root, ?_⟩
    intro entry member selections reached
    exact unrepeated selections (.trans (.nested .root member) reached)
  · rintro ⟨unrepeated, below⟩ selections reached
    rcases reached.cases_root with rfl | ⟨entry, member, inner⟩
    · exact unrepeated
    · exact below entry member selections inner

theorem DeeplyUnrepeated.unrepeated {root : List Selection}
    (deeply : DeeplyUnrepeated root) : Unrepeated root :=
  (deeplyUnrepeated_iff.mp deeply).1

theorem DeeplyUnrepeated.below {root : List Selection}
    (deeply : DeeplyUnrepeated root) :
    ∀ entry ∈ root, DeeplyUnrepeated entry.children :=
  (deeplyUnrepeated_iff.mp deeply).2

theorem DeeplyUnrepeated.nil : DeeplyUnrepeated [] :=
  deeplyUnrepeated_iff.mpr ⟨.nil, by simp⟩

theorem Unrepeated.append_singleton {selections : List Selection}
    {entry : Selection} (unrepeated : Unrepeated selections)
    (differs : ∀ held ∈ selections, held.sameRequest entry = false) :
    Unrepeated (selections ++ [entry]) := by
  rw [Unrepeated, List.pairwise_append]
  refine ⟨unrepeated, List.pairwise_singleton _ _, ?_⟩
  intro held member other inSingle
  rw [List.mem_singleton.mp inSingle]
  exact differs held member

theorem Unrepeated.withChildren {before after : List Selection}
    {held : Selection} (unrepeated : Unrepeated (before ++ held :: after))
    (selections : List Selection) :
    Unrepeated (before ++ held.withChildren selections :: after) := by
  rw [Unrepeated, List.pairwise_append, List.pairwise_cons] at *
  obtain ⟨front, ⟨apart, back⟩, across⟩ := unrepeated
  refine ⟨front, ⟨?_, back⟩, ?_⟩
  · intro other member
    rw [sameRequest_withChildren]
    exact apart other member
  · intro other inBefore entry member
    rcases List.mem_cons.mp member with rfl | inAfter
    · rw [sameRequest_comm, sameRequest_withChildren, sameRequest_comm]
      exact across other inBefore held (List.mem_cons_self ..)
    · exact across other inBefore entry (List.mem_cons_of_mem _ inAfter)

theorem Unrepeated.insert {into : List Selection} (unrepeated : Unrepeated into)
    (incoming : Selection) : Unrepeated (insert into incoming) := by
  rcases insert_cases into incoming with
    ⟨differs, pushed⟩ | ⟨before, held, after, rfl, -, -, replaced⟩
  · rw [pushed]
    exact unrepeated.append_singleton differs
  · rw [replaced, absorb_eq]
    exact unrepeated.withChildren _

theorem DeeplyUnrepeated.insert_of_below {into : List Selection}
    {incoming : Selection} (unrepeated : DeeplyUnrepeated into)
    (below : DeeplyUnrepeated incoming.children)
    (merged : ∀ held, DeeplyUnrepeated held →
      DeeplyUnrepeated (mergeAll held incoming.children)) :
    DeeplyUnrepeated (insert into incoming) := by
  obtain ⟨apart, nested⟩ := deeplyUnrepeated_iff.mp unrepeated
  refine deeplyUnrepeated_iff.mpr ⟨apart.insert incoming, ?_⟩
  intro entry member
  rcases insert_cases into incoming with
    ⟨-, pushed⟩ | ⟨before, held, after, rfl, -, -, replaced⟩
  · rw [pushed] at member
    rcases List.mem_append.mp member with inInto | isIncoming
    · exact nested entry inInto
    · rw [List.mem_singleton.mp isIncoming]
      exact below
  · rw [replaced, absorb_eq, List.mem_append, List.mem_cons] at member
    rcases member with inBefore | rfl | inAfter
    · exact nested entry (by simp [inBefore])
    · rw [children_withChildren]
      exact merged _ (nested held (by simp))
    · exact nested entry (by simp [inAfter])

mutual
theorem DeeplyUnrepeated.mergeAll_children :
    ∀ (incoming : Selection) {into : List Selection}, DeeplyUnrepeated into →
      DeeplyUnrepeated incoming.children →
      DeeplyUnrepeated (mergeAll into incoming.children)
  | .field _ _ _ selections, _, unrepeated, below =>
      unrepeated.mergeAll_of_below selections below.below
  | .fragment _ selections, _, unrepeated, below =>
      unrepeated.mergeAll_of_below selections below.below

/-- What is merged in may repeat itself, if not below. -/
theorem DeeplyUnrepeated.mergeAll_of_below :
    ∀ (selections : List Selection) {into : List Selection},
      DeeplyUnrepeated into →
      (∀ entry ∈ selections, DeeplyUnrepeated entry.children) →
      DeeplyUnrepeated (mergeAll into selections)
  | [], into, unrepeated, _ => by rwa [mergeAll_nil]
  | incoming :: rest, into, unrepeated, below => by
      rw [List.forall_mem_cons] at below
      rw [mergeAll_cons]
      apply DeeplyUnrepeated.mergeAll_of_below rest _ below.2
      apply unrepeated.insert_of_below below.1
      intro held heldUnrepeated
      exact heldUnrepeated.mergeAll_children incoming below.1
end

theorem DeeplyUnrepeated.mergeAll_list (selections : List Selection)
    {into : List Selection} (unrepeated : DeeplyUnrepeated into)
    (others : DeeplyUnrepeated selections) :
    DeeplyUnrepeated (mergeAll into selections) :=
  unrepeated.mergeAll_of_below selections others.below

end Selection

end TypedGraphQL
