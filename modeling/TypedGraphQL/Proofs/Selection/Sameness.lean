import TypedGraphQL.Proofs.Selection.Unrepeated

namespace TypedGraphQL

namespace Binary64

theorem sameNumber_congr {x y : Binary64} (same : x.sameNumber y = true)
    (z : Binary64) : x.sameNumber z = y.sameNumber z := by
  simp only [sameNumber, Bool.and_eq_true, Bool.or_eq_true, beq_iff_eq,
    Bool.not_eq_true'] at same
  obtain ⟨⟨xNumber, yNumber⟩, rfl | ⟨xZero, yZero⟩⟩ := same
  · rfl
  · rw [Bool.eq_iff_iff]
    simp only [sameNumber, xNumber, yNumber, xZero, yZero, Bool.not_false,
      Bool.true_and, Bool.and_eq_true, Bool.or_eq_true, beq_iff_eq, true_and]
    refine and_congr_right fun _ => ?_
    constructor
    · rintro (rfl | zZero)
      · exact .inr xZero
      · exact .inr zZero
    · rintro (rfl | zZero)
      · exact .inr yZero
      · exact .inr zZero

theorem sameNumber_self (x : Binary64) : x.sameNumber x = !x.isNaN := by
  simp [sameNumber]

end Binary64

namespace Literal

mutual
theorem same_congr : ∀ first second : Literal, first.same second = true →
    ∀ third, first.same third = second.same third
  | null, second, equal, third => by
      cases second with
      | null => rfl
      | _ => simp [same] at equal
  | boolean x, second, equal, third => by
      cases second with
      | boolean y =>
          simp only [same, beq_iff_eq] at equal
          rw [equal]
      | _ => simp [same] at equal
  | int x, second, equal, third => by
      cases second with
      | int y =>
          simp only [same, beq_iff_eq] at equal
          rw [equal]
      | _ => simp [same] at equal
  | float x, second, equal, third => by
      cases second with
      | float y =>
          cases third with
          | float z => exact Binary64.sameNumber_congr equal z
          | _ => rfl
      | _ => simp [same] at equal
  | string x, second, equal, third => by
      cases second with
      | string y =>
          simp only [same, beq_iff_eq] at equal
          rw [equal]
      | _ => simp [same] at equal
  | enum x, second, equal, third => by
      cases second with
      | enum y =>
          simp only [same, beq_iff_eq] at equal
          rw [equal]
      | _ => simp [same] at equal
  | list xs, second, equal, third => by
      cases second with
      | list ys =>
          cases third with
          | list zs =>
              rw [same] at equal ⊢
              rw [same]
              exact sameItems_congr xs ys equal zs
          | _ => rfl
      | _ => simp [same] at equal
  | object xs, second, equal, third => by
      cases second with
      | object ys =>
          cases third with
          | object zs =>
              rw [same] at equal ⊢
              rw [same]
              exact sameFields_congr xs ys equal zs
          | _ => rfl
      | _ => simp [same] at equal

theorem sameItems_congr : ∀ first second : List Literal,
    sameItems first second = true →
    ∀ third, sameItems first third = sameItems second third
  | [], [], _, _ => rfl
  | [], _ :: _, equal, _ => by simp [sameItems] at equal
  | _ :: _, [], equal, _ => by simp [sameItems] at equal
  | x :: xs, y :: ys, equal, third => by
      rw [sameItems, Bool.and_eq_true] at equal
      cases third with
      | nil => rfl
      | cons z zs =>
          rw [sameItems, sameItems, same_congr x y equal.1 z,
            sameItems_congr xs ys equal.2 zs]

theorem sameFields_congr : ∀ first second : List (String × Literal),
    sameFields first second = true →
    ∀ third, sameFields first third = sameFields second third
  | [], [], _, _ => rfl
  | [], _ :: _, equal, _ => by simp [sameFields] at equal
  | _ :: _, [], equal, _ => by simp [sameFields] at equal
  | (name, x) :: xs, (other, y) :: ys, equal, third => by
      simp only [sameFields, Bool.and_eq_true, beq_iff_eq] at equal
      obtain ⟨⟨rfl, here⟩, below⟩ := equal
      cases third with
      | nil => rfl
      | cons entry zs =>
          rw [sameFields, sameFields, same_congr x y here entry.2,
            sameFields_congr xs ys below zs]
end

mutual
def holdsNaN : Literal → Bool
  | float value => value.isNaN
  | list items => itemsHoldNaN items
  | object fields => fieldsHoldNaN fields
  | null | boolean _ | int _ | string _ | enum _ => false

def itemsHoldNaN : List Literal → Bool
  | [] => false
  | item :: rest => item.holdsNaN || itemsHoldNaN rest

def fieldsHoldNaN : List (String × Literal) → Bool
  | [] => false
  | (_, value) :: rest => value.holdsNaN || fieldsHoldNaN rest
end

mutual
theorem same_self : ∀ value : Literal, value.same value = !value.holdsNaN
  | float x => x.sameNumber_self
  | list items => by
      rw [same, holdsNaN]
      exact sameItems_self items
  | object fields => by
      rw [same, holdsNaN]
      exact sameFields_self fields
  | null => rfl
  | boolean _ | int _ | string _ | enum _ => by simp [same, holdsNaN]

theorem sameItems_self :
    ∀ items : List Literal, sameItems items items = !itemsHoldNaN items
  | [] => rfl
  | item :: rest => by
      rw [sameItems, itemsHoldNaN, same_self item, sameItems_self rest,
        Bool.not_or]

theorem sameFields_self : ∀ fields : List (String × Literal),
    sameFields fields fields = !fieldsHoldNaN fields
  | [] => rfl
  | (name, value) :: rest => by
      rw [sameFields, fieldsHoldNaN, same_self value, sameFields_self rest,
        Bool.not_or, beq_self_eq_true, Bool.true_and]
end

end Literal

namespace Selection

def holdsNaN : Selection → Bool
  | field _ _ arguments _ => Literal.fieldsHoldNaN arguments.entries
  | fragment _ _ => false

theorem holdsNaN_withChildren (entry : Selection) (selections : List Selection) :
    (entry.withChildren selections).holdsNaN = entry.holdsNaN := by
  cases entry <;> rfl

theorem sameRequest_self (entry : Selection) :
    entry.sameRequest entry = !entry.holdsNaN := by
  cases entry with
  | field alias? name arguments selections =>
      rw [sameRequest, Arguments.same, Literal.sameFields_self, holdsNaN]
      simp
  | fragment typeCondition selections => simp [sameRequest, holdsNaN]

theorem sameRequest_congr {first second : Selection}
    (same : first.sameRequest second = true) (third : Selection) :
    first.sameRequest third = second.sameRequest third := by
  cases first with
  | field alias? name arguments selections =>
      cases second with
      | field otherAlias? other otherArguments others =>
          simp only [sameRequest, Bool.and_eq_true, beq_iff_eq] at same
          obtain ⟨⟨rfl, rfl⟩, sameArguments⟩ := same
          cases third with
          | field =>
              rw [sameRequest, sameRequest, Arguments.same, Arguments.same,
                Literal.sameFields_congr _ _ sameArguments]
          | fragment => rfl
      | fragment => simp [sameRequest] at same
  | fragment typeCondition selections =>
      cases second with
      | field => simp [sameRequest] at same
      | fragment otherCondition others =>
          simp only [sameRequest, beq_iff_eq] at same
          subst same
          cases third <;> rfl

theorem sameRequest_congr_right {first second : Selection}
    (same : first.sameRequest second = true) (third : Selection) :
    third.sameRequest first = third.sameRequest second := by
  rw [sameRequest_comm, sameRequest_congr same, sameRequest_comm]

/-- A request that matches any other matches itself. -/
theorem holdsNaN_of_sameRequest {first second : Selection}
    (same : first.sameRequest second = true) : second.holdsNaN = false := by
  have itself := sameRequest_congr same second
  rw [same, sameRequest_self] at itself
  simpa using itself

end Selection

end TypedGraphQL
