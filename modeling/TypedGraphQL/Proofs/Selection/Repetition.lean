import TypedGraphQL.Proofs.Selection.Monoid

namespace TypedGraphQL.Selection

/-- No NaN occurs in the arguments of any request, at any depth. -/
def NaNFree (selections : List Selection) : Prop :=
  Hereditary (fun entry => entry.holdsNaN = false) selections

theorem NaNFree.below {selections : List Selection} (free : NaNFree selections) :
    (∀ entry ∈ selections, entry.holdsNaN = false) ∧
      ∀ entry ∈ selections, NaNFree entry.children :=
  ⟨fun entry member => (hereditary_iff.mp free entry member).1,
    fun entry member => (hereditary_iff.mp free entry member).2⟩

theorem NaNFree.mergeAll {into selections : List Selection}
    (intoFree : NaNFree into) (free : NaNFree selections) :
    NaNFree (mergeAll into selections) := by
  refine Hereditary.mergeAll ?_ intoFree free
  intro entry nested entryFree
  rw [holdsNaN_withChildren, entryFree]

theorem nestedFor_of_mem {selections : List Selection}
    (unrepeated : Unrepeated selections) {entry : Selection}
    (member : entry ∈ selections) (free : entry.holdsNaN = false) :
    nestedFor entry selections = entry.children := by
  induction selections with
  | nil => cases member
  | cons first rest ih =>
      rw [Unrepeated, List.pairwise_cons] at unrepeated
      rcases List.mem_cons.mp member with rfl | inRest
      · apply nestedFor_cons_of_same
        rw [sameRequest_self, free, Bool.not_false]
      · rw [nestedFor_cons_of_other, ih unrepeated.2 inRest]
        rw [sameRequest_comm]
        exact unrepeated.1 entry inRest

theorem unasked_self {selections : List Selection}
    (free : ∀ entry ∈ selections, entry.holdsNaN = false) :
    unasked selections selections = [] := by
  rw [unasked, List.filter_eq_nil_iff]
  intro entry member unmatched
  rw [List.all_eq_true] at unmatched
  have itself := unmatched entry member
  rw [sameRequest_self, free entry member] at itself
  cases itself

theorem mergeAll_self_of_below {selections : List Selection}
    (unrepeated : Unrepeated selections)
    (free : ∀ entry ∈ selections, entry.holdsNaN = false)
    (below : ∀ entry ∈ selections,
      mergeAll entry.children entry.children = entry.children) :
    mergeAll selections selections = selections := by
  have untouched : ∀ entry ∈ selections, joined selections entry = entry := by
    intro entry member
    rw [joined, nestedFor_of_mem unrepeated member (free entry member),
      below entry member, withChildren_children]
  rw [mergeAll_eq_append unrepeated unrepeated, unasked_self free,
    List.map_congr_left untouched, List.map_id', List.append_nil]

mutual
theorem mergeAll_children_self : ∀ entry : Selection,
    DeeplyUnrepeated entry.children → NaNFree entry.children →
    mergeAll entry.children entry.children = entry.children
  | .field _ _ _ selections, unrepeated, free =>
      mergeAll_self_of_below unrepeated.unrepeated free.below.1
        (mergeAll_self_below selections unrepeated.below free.below.2)
  | .fragment _ selections, unrepeated, free =>
      mergeAll_self_of_below unrepeated.unrepeated free.below.1
        (mergeAll_self_below selections unrepeated.below free.below.2)

theorem mergeAll_self_below : ∀ selections : List Selection,
    (∀ entry ∈ selections, DeeplyUnrepeated entry.children) →
    (∀ entry ∈ selections, NaNFree entry.children) →
    ∀ entry ∈ selections,
      mergeAll entry.children entry.children = entry.children
  | [], _, _ => List.forall_mem_nil _
  | first :: rest, unrepeated, free => by
      rw [List.forall_mem_cons] at unrepeated free ⊢
      exact ⟨mergeAll_children_self first unrepeated.1 free.1,
        mergeAll_self_below rest unrepeated.2 free.2⟩
end

theorem mergeAll_self {selections : List Selection}
    (unrepeated : DeeplyUnrepeated selections) (free : NaNFree selections) :
    mergeAll selections selections = selections :=
  mergeAll_children_self (.fragment "" selections) unrepeated free

theorem mergeAll_ordered {selections : List Selection}
    (below : ∀ entry ∈ selections, DeeplyUnrepeated entry.children)
    (into : List Selection) :
    mergeAll into (mergeAll [] selections) = mergeAll into selections := by
  rw [← mergeAll_assoc selections into .nil below, mergeAll_nil]

theorem mergeAll_mergeAll_of_nanFree {selections : List Selection}
    (below : ∀ entry ∈ selections, DeeplyUnrepeated entry.children)
    (free : NaNFree selections) (into : List Selection) :
    mergeAll (mergeAll into selections) selections =
      mergeAll into selections := by
  have unrepeated : DeeplyUnrepeated (mergeAll [] selections) :=
    DeeplyUnrepeated.nil.mergeAll_of_below selections below
  -- The list itself may repeat requests at its top, as the cases of a call do.
  calc mergeAll (mergeAll into selections) selections
    _ = mergeAll (mergeAll into (mergeAll [] selections))
        (mergeAll [] selections) := by
      rw [mergeAll_ordered below, mergeAll_ordered below]
    _ = mergeAll into
        (mergeAll (mergeAll [] selections) (mergeAll [] selections)) :=
      mergeAll_assoc _ into unrepeated unrepeated.below
    _ = mergeAll into selections := by
      rw [mergeAll_self unrepeated (.mergeAll .nil free), mergeAll_ordered below]

/-! Requests with a NaN add up. -/

mutual
/-- The number of requests with a NaN in their arguments, at any depth. -/
def nanCount : Selection → Nat
  | field _ _ arguments selections =>
    (Literal.fieldsHoldNaN arguments.entries).toNat + nanCounts selections
  | fragment _ selections => nanCounts selections

def nanCounts : List Selection → Nat
  | [] => 0
  | entry :: rest => entry.nanCount + nanCounts rest
end

theorem nanCount_eq (entry : Selection) :
    entry.nanCount = entry.holdsNaN.toNat + nanCounts entry.children := by
  cases entry with
  | field => rfl
  | fragment => rw [nanCount, holdsNaN, Bool.toNat_false, Nat.zero_add, children]

theorem nanCount_absorb {held incoming : Selection}
    (same : held.sameRequest incoming = true)
    (below : nanCounts (mergeAll held.children incoming.children) =
      nanCounts held.children + nanCounts incoming.children) :
    (absorb held incoming).nanCount = held.nanCount + incoming.nanCount := by
  rw [nanCount_eq, children_absorb, below, nanCount_eq held, nanCount_eq incoming,
    holdsNaN_of_sameRequest same, absorb_eq, holdsNaN_withChildren,
    Bool.toNat_false]
  omega

theorem nanCounts_insert {incoming : Selection}
    (below : ∀ selections,
      nanCounts (mergeAll selections incoming.children) =
        nanCounts selections + nanCounts incoming.children)
    (into : List Selection) :
    nanCounts (insert into incoming) = nanCounts into + incoming.nanCount := by
  induction into with
  | nil => simp [nanCounts]
  | cons held rest ih =>
      cases same : held.sameRequest incoming with
      | true =>
          rw [insert_cons_of_same same, nanCounts, nanCounts,
            nanCount_absorb same (below held.children)]
          omega
      | false =>
          rw [insert_cons_of_other same, nanCounts, nanCounts, ih]
          omega

mutual
theorem nanCounts_mergeAll_children : ∀ (incoming : Selection)
    (into : List Selection),
    nanCounts (mergeAll into incoming.children) =
      nanCounts into + nanCounts incoming.children
  | .field _ _ _ selections, into => nanCounts_mergeAll selections into
  | .fragment _ selections, into => nanCounts_mergeAll selections into

theorem nanCounts_mergeAll : ∀ selections into : List Selection,
    nanCounts (mergeAll into selections) =
      nanCounts into + nanCounts selections
  | [], into => by rw [mergeAll_nil, nanCounts, Nat.add_zero]
  | incoming :: rest, into => by
      rw [mergeAll_cons, nanCounts_mergeAll rest,
        nanCounts_insert (nanCounts_mergeAll_children incoming), nanCounts,
        Nat.add_assoc]
end

mutual
theorem nanFree_children_of_nanCount : ∀ entry : Selection,
    nanCounts entry.children = 0 → NaNFree entry.children
  | .field _ _ _ selections, zero => nanFree_of_nanCounts selections zero
  | .fragment _ selections, zero => nanFree_of_nanCounts selections zero

theorem nanFree_of_nanCounts : ∀ selections : List Selection,
    nanCounts selections = 0 → NaNFree selections
  | [], _ => .nil
  | entry :: rest, zero => by
      rw [nanCounts, Nat.add_eq_zero_iff, nanCount_eq, Nat.add_eq_zero_iff,
        Bool.toNat_eq_zero] at zero
      exact hereditary_cons.mpr
        ⟨⟨zero.1.1, nanFree_children_of_nanCount entry zero.1.2⟩,
          nanFree_of_nanCounts rest zero.2⟩
end

/-- Requests are absorbed when they are merged in again exactly if none has a NaN. -/
theorem mergeAll_mergeAll_iff {selections : List Selection}
    (below : ∀ entry ∈ selections, DeeplyUnrepeated entry.children)
    (into : List Selection) :
    mergeAll (mergeAll into selections) selections = mergeAll into selections ↔
      NaNFree selections := by
  constructor
  · intro absorbed
    have counts := congrArg nanCounts absorbed
    rw [nanCounts_mergeAll selections] at counts
    exact nanFree_of_nanCounts selections (by omega)
  · exact fun free => mergeAll_mergeAll_of_nanFree below free into

end TypedGraphQL.Selection
