import TypedGraphQL.Proofs.Selection.Sameness

namespace TypedGraphQL.Selection

@[simp] theorem insert_nil (incoming : Selection) :
    insert [] incoming = [incoming] := rfl

theorem insert_cons_of_same {held incoming : Selection}
    (same : held.sameRequest incoming = true) (rest : List Selection) :
    insert (held :: rest) incoming = absorb held incoming :: rest := by
  simp [insert, changeFirst?, same]

theorem insert_cons_of_other {held incoming : Selection}
    (other : held.sameRequest incoming = false) (rest : List Selection) :
    insert (held :: rest) incoming = held :: insert rest incoming := by
  cases changes :
      changeFirst? (·.sameRequest incoming) (absorb · incoming) rest with
  | none => simp [insert, changeFirst?, other, changes]
  | some changed => simp [insert, changeFirst?, other, changes]

theorem sameRequest_absorb (held incoming other : Selection) :
    (absorb held incoming).sameRequest other = held.sameRequest other := by
  rw [absorb_eq, sameRequest_withChildren]

theorem withChildren_withChildren (selections others : List Selection)
    (entry : Selection) :
    (entry.withChildren selections).withChildren others =
      entry.withChildren others := by
  cases entry <;> rfl

theorem withChildren_children (entry : Selection) :
    entry.withChildren entry.children = entry := by
  cases entry <;> rfl

@[simp] theorem children_absorb (held incoming : Selection) :
    (absorb held incoming).children =
      mergeAll held.children incoming.children := by
  rw [absorb_eq, children_withChildren]

theorem absorb_absorb {first second third : Selection}
    (below : mergeAll (mergeAll first.children second.children) third.children =
      mergeAll first.children (mergeAll second.children third.children)) :
    absorb (absorb first second) third =
      absorb first (absorb second third) := by
  rw [absorb_eq (absorb first second), absorb_eq first (absorb second third),
    children_absorb, children_absorb, below, absorb_eq first second,
    withChildren_withChildren]

def Asked (incoming : Selection) (selections : List Selection) : Prop :=
  ∃ held ∈ selections, held.sameRequest incoming = true

theorem Asked.of_cons {held incoming : Selection} {rest : List Selection}
    (asked : Asked incoming (held :: rest))
    (other : held.sameRequest incoming = false) : Asked incoming rest := by
  obtain ⟨entry, member, same⟩ := asked
  rcases List.mem_cons.mp member with rfl | inRest
  · rw [other] at same
    cases same
  · exact ⟨entry, inRest, same⟩

theorem Asked.insert {incoming : Selection} {selections : List Selection}
    (other : Selection)
    (asked : Asked incoming selections ∨ other.sameRequest incoming = true) :
    Asked incoming (insert selections other) := by
  refine exists_insert (fun held same either => ?_) asked
  rw [sameRequest_absorb]
  rcases either with heldSame | otherSame
  · exact heldSame
  · rw [sameRequest_congr same]
    exact otherSame

/-- Different requests may be taken in either order, once one of them is there. -/
theorem insert_insert_comm {incoming other : Selection}
    (apart : incoming.sameRequest other = false) {into : List Selection}
    (asked : Asked incoming into) :
    insert (insert into other) incoming =
      insert (insert into incoming) other := by
  induction into with
  | nil => simp [Asked] at asked
  | cons held rest ih =>
      cases same : held.sameRequest incoming with
      | true =>
          have heldApart : held.sameRequest other = false := by
            rw [sameRequest_congr same, apart]
          have absorbedApart :
              (absorb held incoming).sameRequest other = false := by
            rw [sameRequest_absorb, heldApart]
          rw [insert_cons_of_other heldApart, insert_cons_of_same same,
            insert_cons_of_same same, insert_cons_of_other absorbedApart]
      | false =>
          cases takes : held.sameRequest other with
          | true =>
              have absorbedApart :
                  (absorb held other).sameRequest incoming = false := by
                rw [sameRequest_absorb, same]
              rw [insert_cons_of_same takes, insert_cons_of_other absorbedApart,
                insert_cons_of_other same, insert_cons_of_same takes]
          | false =>
              rw [insert_cons_of_other takes, insert_cons_of_other same,
                insert_cons_of_other same, insert_cons_of_other takes,
                ih (asked.of_cons same)]

theorem insert_mergeAll_comm {incoming : Selection} {selections : List Selection}
    (apart : ∀ other ∈ selections, incoming.sameRequest other = false)
    {into : List Selection} (asked : Asked incoming into) :
    insert (mergeAll into selections) incoming =
      mergeAll (insert into incoming) selections := by
  induction selections generalizing into with
  | nil => rw [mergeAll_nil, mergeAll_nil]
  | cons other rest ih =>
      rw [List.forall_mem_cons] at apart
      rw [mergeAll_cons, mergeAll_cons, ih apart.2 (.insert other (.inl asked)),
        insert_insert_comm apart.1 asked]

theorem insert_absorb {held incoming : Selection}
    (same : held.sameRequest incoming = true)
    (below : ∀ selections,
      mergeAll (mergeAll selections held.children) incoming.children =
        mergeAll selections (mergeAll held.children incoming.children))
    (into : List Selection) :
    insert (insert into held) incoming = insert into (absorb held incoming) := by
  have absorbedSame : (absorb held incoming).sameRequest held = true := by
    rw [sameRequest_absorb, sameRequest_congr same, sameRequest_comm, same]
  induction into with
  | nil => rw [insert_nil, insert_nil, insert_cons_of_same same]
  | cons first rest ih =>
      have firstAlike : first.sameRequest (absorb held incoming) =
          first.sameRequest held := sameRequest_congr_right absorbedSame first
      cases takes : first.sameRequest held with
      | true =>
          have absorbs : (absorb first held).sameRequest incoming = true := by
            rw [sameRequest_absorb, sameRequest_congr takes, same]
          rw [insert_cons_of_same takes, insert_cons_of_same absorbs,
            insert_cons_of_same (firstAlike.trans takes),
            absorb_absorb (below first.children)]
      | false =>
          have passes : first.sameRequest incoming = false := by
            rw [← sameRequest_congr_right same, takes]
          rw [insert_cons_of_other takes, insert_cons_of_other passes,
            insert_cons_of_other (firstAlike.trans takes), ih]

theorem insert_mergeAll {incoming : Selection} {selections : List Selection}
    (unrepeated : Unrepeated selections)
    (below : ∀ held ∈ selections, ∀ into,
      mergeAll (mergeAll into held.children) incoming.children =
        mergeAll into (mergeAll held.children incoming.children))
    (into : List Selection) :
    insert (mergeAll into selections) incoming =
      mergeAll into (insert selections incoming) := by
  induction selections generalizing into with
  | nil => rw [insert_nil, mergeAll_cons, mergeAll_nil, mergeAll_nil]
  | cons held rest ih =>
      rw [Unrepeated, List.pairwise_cons] at unrepeated
      rw [List.forall_mem_cons] at below
      cases same : held.sameRequest incoming with
      | true =>
          have apart (other : Selection) (member : other ∈ rest) :
              incoming.sameRequest other = false := by
            rw [← sameRequest_congr same]
            exact unrepeated.1 other member
          rw [insert_cons_of_same same, mergeAll_cons, mergeAll_cons,
            insert_mergeAll_comm apart (.insert held (.inr same)),
            insert_absorb same below.1]
      | false =>
          rw [insert_cons_of_other same, mergeAll_cons, mergeAll_cons,
            ih unrepeated.2 below.2]

mutual
theorem mergeAll_assoc_children : ∀ (incoming : Selection)
    (first : List Selection) {second : List Selection},
    DeeplyUnrepeated second → DeeplyUnrepeated incoming.children →
    mergeAll (mergeAll first second) incoming.children =
      mergeAll first (mergeAll second incoming.children)
  | .field _ _ _ selections, first, _, unrepeated, below =>
      mergeAll_assoc selections first unrepeated below.below
  | .fragment _ selections, first, _, unrepeated, below =>
      mergeAll_assoc selections first unrepeated below.below

theorem mergeAll_assoc : ∀ (third first : List Selection)
    {second : List Selection}, DeeplyUnrepeated second →
    (∀ entry ∈ third, DeeplyUnrepeated entry.children) →
    mergeAll (mergeAll first second) third =
      mergeAll first (mergeAll second third)
  | [], first, second, _, _ => by rw [mergeAll_nil, mergeAll_nil]
  | incoming :: rest, first, second, unrepeated, below => by
      rw [List.forall_mem_cons] at below
      -- The recursion is on the list merged last; the middle one grows, so
      -- it has to stay unrepeated.
      have inserted : DeeplyUnrepeated (insert second incoming) :=
        unrepeated.insert_of_below below.1 fun _ heldUnrepeated =>
          heldUnrepeated.mergeAll_children incoming below.1
      rw [mergeAll_cons, mergeAll_cons,
        insert_mergeAll unrepeated.unrepeated fun held member into =>
          mergeAll_assoc_children incoming into
            (unrepeated.below held member) below.1]
      exact mergeAll_assoc rest first inserted below.2
end

/-! All entries at once -/

/-- The requests nested in the first entry that asks for the same. -/
def nestedFor (entry : Selection) (selections : List Selection) :
    List Selection :=
  ((selections.find? entry.sameRequest).map children).getD []

theorem nestedFor_cons_of_same {entry first : Selection}
    (same : entry.sameRequest first = true) (rest : List Selection) :
    nestedFor entry (first :: rest) = first.children := by
  simp [nestedFor, same]

theorem nestedFor_cons_of_other {entry first : Selection}
    (other : entry.sameRequest first = false) (rest : List Selection) :
    nestedFor entry (first :: rest) = nestedFor entry rest := by
  simp [nestedFor, other]

theorem nestedFor_eq_nil {entry : Selection} {selections : List Selection}
    (apart : ∀ other ∈ selections, entry.sameRequest other = false) :
    nestedFor entry selections = [] := by
  have unfound : selections.find? entry.sameRequest = none := by
    simpa using apart
  rw [nestedFor, unfound]
  rfl

/-- An entry with what another list asks for below the same request. -/
def joined (selections : List Selection) (entry : Selection) : Selection :=
  entry.withChildren (mergeAll entry.children (nestedFor entry selections))

theorem joined_eq_self {entry : Selection} {selections : List Selection}
    (apart : ∀ other ∈ selections, entry.sameRequest other = false) :
    joined selections entry = entry := by
  rw [joined, nestedFor_eq_nil apart, mergeAll_nil, withChildren_children]

theorem joined_cons_of_same {entry first : Selection}
    (same : entry.sameRequest first = true) (rest : List Selection) :
    joined (first :: rest) entry = absorb entry first := by
  rw [joined, nestedFor_cons_of_same same, absorb_eq]

theorem joined_cons_of_other {entry first : Selection}
    (other : entry.sameRequest first = false) (rest : List Selection) :
    joined (first :: rest) entry = joined rest entry := by
  rw [joined, joined, nestedFor_cons_of_other other]

theorem joined_joined {incoming : Selection} {rest : List Selection}
    (apart : ∀ other ∈ rest, incoming.sameRequest other = false)
    (held : Selection) :
    joined rest (joined [incoming] held) = joined (incoming :: rest) held := by
  cases same : held.sameRequest incoming with
  | true =>
      rw [joined_cons_of_same same, joined_cons_of_same same]
      apply joined_eq_self
      intro other member
      rw [sameRequest_absorb, sameRequest_congr same]
      exact apart other member
  | false =>
      rw [joined_cons_of_other same, joined_cons_of_other same,
        joined_eq_self (List.forall_mem_nil _)]

/-- The entries that ask for nothing `into` asks for. -/
def unasked (into selections : List Selection) : List Selection :=
  selections.filter fun incoming =>
    into.all fun held => !held.sameRequest incoming

theorem unasked_cons (into : List Selection) (incoming : Selection)
    (rest : List Selection) :
    unasked into (incoming :: rest) =
      unasked into [incoming] ++ unasked into rest := by
  rw [unasked, ← List.singleton_append, List.filter_append]
  rfl

theorem unasked_cons_of_same {held incoming : Selection}
    (same : held.sameRequest incoming = true) (rest : List Selection) :
    unasked (held :: rest) [incoming] = [] := by
  simp [unasked, same]

theorem unasked_cons_of_other {held incoming : Selection}
    (other : held.sameRequest incoming = false) (rest : List Selection) :
    unasked (held :: rest) [incoming] = unasked rest [incoming] := by
  simp [unasked, List.filter_cons, other]

theorem unasked_congr {into other selections : List Selection}
    (alike : ∀ incoming ∈ selections, Asked incoming into ↔ Asked incoming other) :
    unasked into selections = unasked other selections := by
  apply List.filter_congr
  intro incoming member
  rw [Bool.eq_iff_iff]
  simpa [Asked] using not_congr (alike incoming member)

theorem unasked_insert {incoming : Selection} {rest : List Selection}
    (apart : ∀ other ∈ rest, incoming.sameRequest other = false)
    (into : List Selection) :
    unasked (insert into incoming) rest = unasked into rest := by
  apply unasked_congr
  intro other member
  constructor
  · intro asked
    have origin := exists_of_exists_insert
      (P := fun entry => entry.sameRequest other = true)
      (fun held _ same => .inl ((sameRequest_absorb _ _ _).symm.trans same)) asked
    refine origin.resolve_right fun same => ?_
    rw [apart other member] at same
    cases same
  · exact fun asked => .insert incoming (.inl asked)

theorem insert_eq_append {into : List Selection} (unrepeated : Unrepeated into)
    (incoming : Selection) :
    insert into incoming =
      into.map (joined [incoming]) ++ unasked into [incoming] := by
  induction into with
  | nil => rfl
  | cons held rest ih =>
      rw [Unrepeated, List.pairwise_cons] at unrepeated
      cases same : held.sameRequest incoming with
      | true =>
          have untouched : ∀ other ∈ rest, joined [incoming] other = other := by
            intro other member
            apply joined_eq_self
            rw [List.forall_mem_singleton, sameRequest_comm,
              ← sameRequest_congr same]
            exact unrepeated.1 other member
          rw [insert_cons_of_same same, unasked_cons_of_same same,
            List.append_nil, List.map_cons, joined_cons_of_same same,
            List.map_congr_left untouched, List.map_id']
      | false =>
          rw [insert_cons_of_other same, unasked_cons_of_other same,
            List.map_cons, joined_cons_of_other same,
            joined_eq_self (List.forall_mem_nil _), ih unrepeated.2,
            List.cons_append]

/--
The entries of the first list stay in their places, each with what the second
asks for below it; those that are new come after them, in their order.
-/
theorem mergeAll_eq_append {into selections : List Selection}
    (intoUnrepeated : Unrepeated into) (unrepeated : Unrepeated selections) :
    mergeAll into selections =
      into.map (joined selections) ++ unasked into selections := by
  induction selections generalizing into with
  | nil =>
      have untouched : ∀ held ∈ into, joined [] held = held :=
        fun held _ => joined_eq_self (List.forall_mem_nil _)
      rw [mergeAll_nil, List.map_congr_left untouched, List.map_id', unasked,
        List.filter_nil, List.append_nil]
  | cons incoming rest ih =>
      rw [Unrepeated, List.pairwise_cons] at unrepeated
      have new : ∀ entry ∈ unasked into [incoming], joined rest entry = entry := by
        intro entry member
        rw [List.mem_singleton.mp (List.mem_filter.mp member).1]
        exact joined_eq_self unrepeated.1
      have together : joined rest ∘ joined [incoming] =
          joined (incoming :: rest) := by
        funext held
        exact joined_joined unrepeated.1 held
      calc mergeAll into (incoming :: rest)
        _ = mergeAll (insert into incoming) rest := mergeAll_cons ..
        _ = (insert into incoming).map (joined rest) ++
            unasked (insert into incoming) rest :=
          ih (intoUnrepeated.insert incoming) unrepeated.2
        _ = (into.map (joined [incoming]) ++ unasked into [incoming]).map
            (joined rest) ++ unasked into rest := by
          rw [unasked_insert unrepeated.1, insert_eq_append intoUnrepeated]
        _ = into.map (joined (incoming :: rest)) ++
            (unasked into [incoming] ++ unasked into rest) := by
          rw [List.map_append, List.map_map, together,
            List.map_congr_left new, List.map_id', List.append_assoc]
        _ = into.map (joined (incoming :: rest)) ++
            unasked into (incoming :: rest) := by rw [← unasked_cons]

theorem nil_mergeAll {selections : List Selection}
    (unrepeated : Unrepeated selections) : mergeAll [] selections = selections := by
  rw [mergeAll_eq_append .nil unrepeated, List.map_nil, List.nil_append, unasked,
    List.filter_eq_self]
  intro incoming _
  rfl

end TypedGraphQL.Selection
