import TypedGraphQL.Proofs.Number.Value
import TypedGraphQL.Proofs.Syntax.ReadBack

namespace TypedGraphQL

namespace Json

def Number.value : Number → ℚ
  | .integer value => value
  | .float value => value.value

def Number.InRange : Number → Prop
  | .integer value => -2 ^ 63 ≤ value ∧ value < 2 ^ 64
  | .float value => value.isFinite = true

/-- Integers beyond the signed ones have no bits that a float would lose. -/
def Number.Unrounded : Number → Prop
  | .integer value => 2 ^ 63 ≤ value → 2 ^ 11 ∣ value
  | .float _ => True

mutual
def EveryNumber (P : Number → Prop) : Json → Prop
  | number value => P value
  | array items => EveryItemNumber P items
  | object entries => EveryEntryNumber P entries
  | null => True
  | bool _ => True
  | string _ => True

def EveryItemNumber (P : Number → Prop) : List Json → Prop
  | [] => True
  | item :: rest => item.EveryNumber P ∧ EveryItemNumber P rest

def EveryEntryNumber (P : Number → Prop) : List (String × Json) → Prop
  | [] => True
  | (_, value) :: rest => value.EveryNumber P ∧ EveryEntryNumber P rest
end

mutual
def KeysNamed : Json → Prop
  | array items => ItemKeysNamed items
  | object entries => EntryKeysNamed entries
  | null => True
  | bool _ => True
  | number _ => True
  | string _ => True

def ItemKeysNamed : List Json → Prop
  | [] => True
  | item :: rest => item.KeysNamed ∧ ItemKeysNamed rest

def EntryKeysNamed : List (String × Json) → Prop
  | [] => True
  | (key, value) :: rest =>
    Syntax.isName key = true ∧ value.KeysNamed ∧ EntryKeysNamed rest
end

end Json

namespace Literal

open Syntax
open Json (Number EveryItemNumber EveryEntryNumber ItemKeysNamed
  EntryKeysNamed)

mutual
/-- The literal stands for the value; numbers are compared by their values. -/
def Denotes : Literal → Json → Prop
  | null, .null => True
  | boolean read, .bool value => read = value
  | int read, .number number => (read : ℚ) = number.value
  | float read, .number number =>
    read.isFinite = true ∧ read.value = number.value
  | string read, .string text => read = text
  | list read, .array items => ItemsDenote read items
  | object read, .object entries => FieldsDenote read entries
  | _, _ => False

def ItemsDenote : List Literal → List Json → Prop
  | [], [] => True
  | read :: others, item :: rest => read.Denotes item ∧ ItemsDenote others rest
  | _, _ => False

def FieldsDenote : List (String × Literal) → List (String × Json) → Prop
  | [], [] => True
  | (name, read) :: others, (key, value) :: rest =>
    name = key ∧ read.Denotes value ∧ FieldsDenote others rest
  | _, _ => False
end

mutual
theorem legible_ofJson : ∀ value : Json, value.KeysNamed → (ofJson value).Legible
  | .null, _ => trivial
  | .bool _, _ => trivial
  | .number (.integer value), _ => by
      rw [ofJson]
      split <;> trivial
  | .number (.float _), _ => trivial
  | .string _, _ => trivial
  | .array items, keys => itemsLegible_ofJsonItems items keys
  | .object entries, keys => fieldsLegible_ofJsonEntries entries keys

theorem itemsLegible_ofJsonItems :
    ∀ items : List Json, ItemKeysNamed items → ItemsLegible (ofJsonItems items)
  | [], _ => trivial
  | item :: rest, keys =>
      ⟨legible_ofJson item keys.1, itemsLegible_ofJsonItems rest keys.2⟩

theorem fieldsLegible_ofJsonEntries :
    ∀ entries : List (String × Json), EntryKeysNamed entries →
      FieldsLegible (ofJsonEntries entries)
  | [], _ => trivial
  | (_, value) :: rest, keys =>
      ⟨keys.1, legible_ofJson value keys.2.1,
        fieldsLegible_ofJsonEntries rest keys.2.2⟩
end

theorem number_denotes_iff {number : Number} (ranged : number.InRange) :
    (ofJson (.number number)).asWritten.Denotes (.number number) ↔
      number.Unrounded := by
  cases number with
  | float value =>
      rw [Number.InRange] at ranged
      simp [ofJson, asWritten, ranged, Denotes, Number.value,
        Number.Unrounded]
  | integer value =>
      obtain ⟨least, greatest⟩ := ranged
      rw [ofJson]
      split
      next signed =>
        simp only [asWritten, Denotes, Number.value,
          Number.Unrounded, true_iff]
        omega
      next unsigned =>
        have large : 2 ^ 63 ≤ value := by omega
        have exact := Binary64.value_ofInt_iff large greatest
        rw [Number.Unrounded, imp_iff_right large, ← exact, asWritten]
        split
        next finite => simp [Denotes, Number.value, finite]
        next infinite => simp [Denotes, infinite]

mutual
theorem denotes_iff :
    ∀ value : Json, value.EveryNumber Number.InRange →
      ((ofJson value).asWritten.Denotes value ↔
        value.EveryNumber Number.Unrounded)
  | .null, _ => Iff.rfl
  | .bool _, _ => ⟨fun _ => trivial, fun _ => rfl⟩
  | .number _, ranged => number_denotes_iff ranged
  | .string _, _ => ⟨fun _ => trivial, fun _ => rfl⟩
  | .array items, ranged => itemsDenote_iff items ranged
  | .object entries, ranged => fieldsDenote_iff entries ranged

theorem itemsDenote_iff :
    ∀ items : List Json, EveryItemNumber Number.InRange items →
      (ItemsDenote (itemsAsWritten (ofJsonItems items)) items ↔
        EveryItemNumber Number.Unrounded items)
  | [], _ => Iff.rfl
  | item :: rest, ranged =>
      and_congr (denotes_iff item ranged.1) (itemsDenote_iff rest ranged.2)

theorem fieldsDenote_iff :
    ∀ entries : List (String × Json),
      EveryEntryNumber Number.InRange entries →
      (FieldsDenote (fieldsAsWritten (ofJsonEntries entries)) entries ↔
        EveryEntryNumber Number.Unrounded entries)
  | [], _ => Iff.rfl
  | (_, value) :: rest, ranged =>
      (and_iff_right rfl).trans (and_congr (denotes_iff value ranged.1)
        (fieldsDenote_iff rest ranged.2))
end

/--
The literal of a JSON value is always read back as a literal, in front of any
text that does not go on with it.  That literal denotes the value exactly if no
integer in it is rounded.
-/
theorem ofJson_readBack (value : Json) (keys : value.KeysNamed)
    (ranged : value.EveryNumber Number.InRange) {rest : List Char}
    (boundary : Boundary rest) :
    ∃ literal,
      value? ((ofJson value).text.toList ++ rest) = some (literal, rest) ∧
        (literal.Denotes value ↔ value.EveryNumber Number.Unrounded) :=
  ⟨_, value?_text (legible_ofJson value keys) boundary, denotes_iff value ranged⟩

def limits : Json :=
  .object
    [("note", .string "\"least\", \\ \n"),
      ("least", .number (.integer (-2 ^ 63))),
      ("greatest", .array
        [.number (.integer (2 ^ 63 - 1)), .number (.integer (2 ^ 64 - 2 ^ 11))]),
      ("half", .number (.float (Binary64.ofRatio true 1 2)))]

theorem limits_keysNamed : limits.KeysNamed :=
  ⟨by decide, trivial, by decide, trivial, by decide, ⟨trivial, trivial, trivial⟩,
    by decide, trivial, trivial⟩

theorem limits_inRange : limits.EveryNumber Number.InRange := by
  have half : (Binary64.ofRatio true 1 2).isFinite = true := by decide
  exact ⟨trivial, ⟨by decide, by decide⟩,
    ⟨⟨by decide, by decide⟩, ⟨by decide, by decide⟩, trivial⟩, half, trivial⟩

theorem limits_unrounded : limits.EveryNumber Number.Unrounded := by
  have signed : Number.Unrounded (.integer (2 ^ 63 - 1)) :=
    fun large => absurd large (by decide)
  exact ⟨trivial, fun _ => by decide, ⟨signed, fun _ => by decide, trivial⟩,
    trivial, trivial⟩

theorem ofJson_readBack_limits :
    limits.KeysNamed ∧ limits.EveryNumber Number.InRange ∧
      Boundary ") \x7b".toList ∧
      ∃ literal,
        value? ((ofJson limits).text.toList ++ ") \x7b".toList) =
          some (literal, ") \x7b".toList) ∧ literal.Denotes limits := by
  have boundary : Boundary ") \x7b".toList := .cons (by decide : ')' ∈ boundaries)
  obtain ⟨literal, read, denotes⟩ :=
    ofJson_readBack limits limits_keysNamed limits_inRange boundary
  exact ⟨limits_keysNamed, limits_inRange, boundary, literal, read,
    denotes.mpr limits_unrounded⟩

def greatestUnsigned : Json := .number (.integer (2 ^ 64 - 1))

theorem greatestUnsigned_not_denoted :
    greatestUnsigned.KeysNamed ∧ greatestUnsigned.EveryNumber Number.InRange ∧
      (ofJson greatestUnsigned).text = "1.8446744073709552e19" ∧
      ∃ literal, value? (ofJson greatestUnsigned).text.toList =
        some (literal, []) ∧ ¬ literal.Denotes greatestUnsigned := by
  have ranged : greatestUnsigned.EveryNumber Number.InRange :=
    ⟨by decide, by decide⟩
  have read := value?_text (legible_ofJson greatestUnsigned trivial) .nil
  rw [List.append_nil] at read
  refine ⟨trivial, ranged, by decide +kernel, _, read, ?_⟩
  rw [denotes_iff greatestUnsigned ranged]
  intro unrounded
  exact absurd (unrounded (by decide)) (by decide)

end Literal

end TypedGraphQL
