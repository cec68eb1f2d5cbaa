import TypedGraphQL.Selection.Merge

namespace TypedGraphQL.Selection

theorem absorb_eq (held incoming : Selection) :
    absorb held incoming =
      held.withChildren (mergeAll held.children incoming.children) := by
  cases incoming <;> rw [absorb] <;> rfl

theorem absorb_cases {held incoming : Selection}
    (same : held.sameRequest incoming = true) :
    (∃ alias? name arguments otherArguments selections others,
      held = .field alias? name arguments selections ∧
      incoming = .field alias? name otherArguments others ∧
      arguments.same otherArguments = true ∧
      absorb held incoming =
        .field alias? name arguments (mergeAll selections others)) ∨
    ∃ typeCondition selections others,
      held = .fragment typeCondition selections ∧
      incoming = .fragment typeCondition others ∧
      absorb held incoming =
        .fragment typeCondition (mergeAll selections others) := by
  cases held with
  | field alias? name arguments selections =>
      cases incoming with
      | field otherAlias? other otherArguments others =>
          simp only [sameRequest, Bool.and_eq_true, beq_iff_eq] at same
          obtain ⟨⟨rfl, rfl⟩, sameArguments⟩ := same
          exact .inl ⟨alias?, name, arguments, otherArguments, selections,
            others, rfl, rfl, sameArguments, absorb_eq _ _⟩
      | fragment typeCondition others => simp [sameRequest] at same
  | fragment typeCondition selections =>
      cases incoming with
      | field alias? name arguments others => simp [sameRequest] at same
      | fragment otherCondition others =>
          simp only [sameRequest, beq_iff_eq] at same
          subst same
          exact .inr ⟨typeCondition, selections, others, rfl, rfl,
            absorb_eq _ _⟩

theorem changeFirst?_eq_none {found : Selection → Bool}
    {change : Selection → Selection} :
    ∀ {selections : List Selection},
      changeFirst? found change selections = none →
      ∀ held ∈ selections, found held = false
  | [], _, _, member => by simp at member
  | first :: rest, unchanged, held, member => by
      cases isFound : found first with
      | true => simp [changeFirst?, isFound] at unchanged
      | false =>
          rcases List.mem_cons.mp member with rfl | inRest
          · exact isFound
          · exact changeFirst?_eq_none
              (by simpa [changeFirst?, isFound] using unchanged) held inRest

theorem changeFirst?_eq_some {found : Selection → Bool}
    {change : Selection → Selection} :
    ∀ {selections changed : List Selection},
      changeFirst? found change selections = some changed →
      ∃ before held after,
        selections = before ++ held :: after ∧
        (∀ other ∈ before, found other = false) ∧ found held = true ∧
        changed = before ++ change held :: after
  | [], _, equation => by simp [changeFirst?] at equation
  | first :: rest, changed, equation => by
      cases isFound : found first with
      | true =>
          simp only [changeFirst?, isFound, if_true, Option.some.injEq]
            at equation
          exact ⟨[], first, rest, rfl, by simp, isFound, equation.symm⟩
      | false =>
          simp only [changeFirst?, isFound, Bool.false_eq_true, if_false,
            Option.map_eq_some_iff] at equation
          obtain ⟨changedRest, restChanged, rfl⟩ := equation
          obtain ⟨before, held, after, rfl, unfound, heldFound, rfl⟩ :=
            changeFirst?_eq_some restChanged
          refine ⟨first :: before, held, after, rfl, ?_, heldFound, rfl⟩
          intro other member
          rcases List.mem_cons.mp member with rfl | inBefore
          · exact isFound
          · exact unfound other inBefore

/-- The two ways an entry is taken into a list. -/
theorem insert_cases (into : List Selection) (incoming : Selection) :
    ((∀ held ∈ into, held.sameRequest incoming = false) ∧
      insert into incoming = into ++ [incoming]) ∨
    ∃ before held after,
      into = before ++ held :: after ∧
      (∀ other ∈ before, other.sameRequest incoming = false) ∧
      held.sameRequest incoming = true ∧
      insert into incoming = before ++ absorb held incoming :: after := by
  cases changes :
      changeFirst? (·.sameRequest incoming) (absorb · incoming) into with
  | none =>
      left
      exact ⟨changeFirst?_eq_none changes, by simp [insert, changes]⟩
  | some changed =>
      right
      obtain ⟨before, held, after, rfl, unfound, heldFound, rfl⟩ :=
        changeFirst?_eq_some changes
      exact ⟨before, held, after, rfl, unfound, heldFound,
        by simp [insert, changes]⟩

/-! Entries of a certain kind, before and after merging. -/

section Exists

variable {ι : Type} {Found : ι → Selection → Prop}

theorem exists_of_exists_insert {P : Selection → Prop}
    {into : List Selection} {incoming : Selection}
    (absorbed : ∀ held, held.sameRequest incoming = true →
      P (absorb held incoming) → P held ∨ P incoming)
    (found : ∃ entry ∈ insert into incoming, P entry) :
    (∃ entry ∈ into, P entry) ∨ P incoming := by
  obtain ⟨entry, member, holds⟩ := found
  rcases insert_cases into incoming with
    ⟨-, pushed⟩ | ⟨before, held, after, rfl, -, same, replaced⟩
  · rw [pushed, List.mem_append, List.mem_singleton] at member
    rcases member with inInto | rfl
    · exact .inl ⟨entry, inInto, holds⟩
    · exact .inr holds
  · simp only [replaced, List.mem_append, List.mem_cons] at member
    rcases member with inBefore | rfl | inAfter
    · exact .inl ⟨entry, by simp [inBefore], holds⟩
    · rcases absorbed held same holds with heldHolds | incomingHolds
      · exact .inl ⟨held, by simp, heldHolds⟩
      · exact .inr incomingHolds
    · exact .inl ⟨entry, by simp [inAfter], holds⟩

theorem exists_insert {P : Selection → Prop}
    {into : List Selection} {incoming : Selection}
    (absorbed : ∀ held, held.sameRequest incoming = true →
      P held ∨ P incoming → P (absorb held incoming))
    (found : (∃ entry ∈ into, P entry) ∨ P incoming) :
    ∃ entry ∈ insert into incoming, P entry := by
  rcases insert_cases into incoming with
    ⟨-, pushed⟩ | ⟨before, held, after, rfl, -, same, replaced⟩
  · rw [pushed]
    rcases found with ⟨entry, member, holds⟩ | holds
    · exact ⟨entry, by simp [member], holds⟩
    · exact ⟨incoming, by simp, holds⟩
  · rw [replaced]
    rcases found with ⟨entry, member, holds⟩ | holds
    · simp only [List.mem_append, List.mem_cons] at member
      rcases member with inBefore | rfl | inAfter
      · exact ⟨entry, by simp [inBefore], holds⟩
      · exact ⟨_, by simp, absorbed entry same (.inl holds)⟩
      · exact ⟨entry, by simp [inAfter], holds⟩
    · exact ⟨_, by simp, absorbed held same (.inr holds)⟩

mutual
theorem found_of_found_absorb
    (lift : ∀ held incoming : Selection, held.sameRequest incoming = true →
      (∀ i, (∃ entry ∈ mergeAll held.children incoming.children, Found i entry) →
        (∃ entry ∈ held.children, Found i entry) ∨
          ∃ entry ∈ incoming.children, Found i entry) →
      ∀ i, Found i (absorb held incoming) → Found i held ∨ Found i incoming) :
    ∀ (incoming held : Selection), held.sameRequest incoming = true →
      ∀ i, Found i (absorb held incoming) → Found i held ∨ Found i incoming
  | .field alias? name arguments selections, held, same =>
      lift held (.field alias? name arguments selections) same fun i =>
        exists_of_exists_mergeAll lift selections held.children i
  | .fragment typeCondition selections, held, same =>
      lift held (.fragment typeCondition selections) same fun i =>
        exists_of_exists_mergeAll lift selections held.children i

theorem exists_of_exists_mergeAll
    (lift : ∀ held incoming : Selection, held.sameRequest incoming = true →
      (∀ i, (∃ entry ∈ mergeAll held.children incoming.children, Found i entry) →
        (∃ entry ∈ held.children, Found i entry) ∨
          ∃ entry ∈ incoming.children, Found i entry) →
      ∀ i, Found i (absorb held incoming) → Found i held ∨ Found i incoming) :
    ∀ (selections into : List Selection) (i : ι),
      (∃ entry ∈ mergeAll into selections, Found i entry) →
      (∃ entry ∈ into, Found i entry) ∨ ∃ entry ∈ selections, Found i entry
  | [], into, i, found => .inl (by simpa [mergeAll_nil] using found)
  | incoming :: rest, into, i, found => by
      rw [mergeAll_cons] at found
      -- The induction is on the incoming entries; `into` has `incoming` by then.
      rcases exists_of_exists_mergeAll lift rest (insert into incoming) i found
        with inserted | ⟨entry, member, holds⟩
      · rcases exists_of_exists_insert
          (fun held same => found_of_found_absorb lift incoming held same i)
          inserted with before | holds
        · exact .inl before
        · exact .inr ⟨incoming, by simp, holds⟩
      · exact .inr ⟨entry, by simp [member], holds⟩
end

mutual
theorem found_absorb
    (lift : ∀ held incoming : Selection, held.sameRequest incoming = true →
      (∀ i, (∃ entry ∈ held.children, Found i entry) ∨
          (∃ entry ∈ incoming.children, Found i entry) →
        ∃ entry ∈ mergeAll held.children incoming.children, Found i entry) →
      ∀ i, Found i held ∨ Found i incoming → Found i (absorb held incoming)) :
    ∀ (incoming held : Selection), held.sameRequest incoming = true →
      ∀ i, Found i held ∨ Found i incoming → Found i (absorb held incoming)
  | .field alias? name arguments selections, held, same =>
      lift held (.field alias? name arguments selections) same fun i =>
        exists_mergeAll lift selections held.children i
  | .fragment typeCondition selections, held, same =>
      lift held (.fragment typeCondition selections) same fun i =>
        exists_mergeAll lift selections held.children i

theorem exists_mergeAll
    (lift : ∀ held incoming : Selection, held.sameRequest incoming = true →
      (∀ i, (∃ entry ∈ held.children, Found i entry) ∨
          (∃ entry ∈ incoming.children, Found i entry) →
        ∃ entry ∈ mergeAll held.children incoming.children, Found i entry) →
      ∀ i, Found i held ∨ Found i incoming → Found i (absorb held incoming)) :
    ∀ (selections into : List Selection) (i : ι),
      (∃ entry ∈ into, Found i entry) ∨ (∃ entry ∈ selections, Found i entry) →
      ∃ entry ∈ mergeAll into selections, Found i entry
  | [], into, i, found => by simpa [mergeAll_nil] using found
  | incoming :: rest, into, i, found => by
      rw [mergeAll_cons]
      apply exists_mergeAll lift rest (insert into incoming) i
      have inserted :
          (∃ entry ∈ into, Found i entry) ∨ Found i incoming →
            ∃ entry ∈ insert into incoming, Found i entry :=
        exists_insert fun held same => found_absorb lift incoming held same i
      rcases found with before | ⟨entry, member, holds⟩
      · exact .inl (inserted (.inl before))
      · rcases List.mem_cons.mp member with rfl | inRest
        · exact .inl (inserted (.inr holds))
        · exact .inr ⟨entry, inRest, holds⟩
end

end Exists

section Forall

variable {ι : Type} {Holds : ι → Selection → Prop}

theorem forall_mem_iff_not_exists {P : Selection → Prop}
    {selections : List Selection} :
    (∀ entry ∈ selections, P entry) ↔ ¬ ∃ entry ∈ selections, ¬ P entry := by
  simp

theorem forall_mergeAll
    (lift : ∀ held incoming : Selection, held.sameRequest incoming = true →
      (∀ i, (∀ entry ∈ held.children, Holds i entry) →
        (∀ entry ∈ incoming.children, Holds i entry) →
        ∀ entry ∈ mergeAll held.children incoming.children, Holds i entry) →
      ∀ i, Holds i held → Holds i incoming → Holds i (absorb held incoming))
    (into selections : List Selection) (i : ι)
    (intoHolds : ∀ entry ∈ into, Holds i entry)
    (incomingHolds : ∀ entry ∈ selections, Holds i entry) :
    ∀ entry ∈ mergeAll into selections, Holds i entry := by
  simp only [forall_mem_iff_not_exists] at lift intoHolds incomingHolds ⊢
  intro found
  have origin := @exists_of_exists_mergeAll ι (fun i entry => ¬ Holds i entry)
    ?_ selections into i found
  · exact origin.elim intoHolds incomingHolds
  · intro held incoming same below i
    rw [← Classical.not_and_iff_not_or_not]
    apply mt
    rintro ⟨heldHolds, incomingHolds⟩
    refine lift held incoming same ?_ i heldHolds incomingHolds
    intro i heldBelow incomingBelow found
    exact (below i found).elim heldBelow incomingBelow

theorem forall_of_forall_mergeAll
    (lift : ∀ held incoming : Selection, held.sameRequest incoming = true →
      (∀ i, (∀ entry ∈ mergeAll held.children incoming.children, Holds i entry) →
        (∀ entry ∈ held.children, Holds i entry) ∧
          ∀ entry ∈ incoming.children, Holds i entry) →
      ∀ i, Holds i (absorb held incoming) → Holds i held ∧ Holds i incoming)
    {into selections : List Selection} {i : ι}
    (merged : ∀ entry ∈ mergeAll into selections, Holds i entry) :
    (∀ entry ∈ into, Holds i entry) ∧ ∀ entry ∈ selections, Holds i entry := by
  simp only [forall_mem_iff_not_exists] at lift merged ⊢
  rw [← not_or]
  intro found
  apply merged
  refine @exists_mergeAll ι (fun i entry => ¬ Holds i entry) ?_ selections into
    i found
  intro held incoming same below i
  rw [← Classical.not_and_iff_not_or_not]
  apply mt
  refine lift held incoming same ?_ i
  intro i mergedBelow
  rw [← not_or]
  exact fun found => mergedBelow (below i found)

end Forall

end TypedGraphQL.Selection
