import TypedGraphQL.Argument.List

namespace TypedGraphQL

namespace Digest

@[simp] theorem length_bigEndian (count n : Nat) :
    (bigEndian count n).length = count := by
  induction count with
  | zero => rfl
  | succ count ih => simp [bigEndian, ih]

@[simp] theorem length_sha256 (message : List UInt8) :
    (sha256 message).length = 32 := by
  simp [sha256, HashState.toWords]

@[simp] theorem length_hexText (bytes : List UInt8) :
    (hexText bytes).length = 2 * bytes.length := by
  induction bytes with
  | nil => rfl
  | cons byte rest ih =>
      simp only [hexText, List.flatMap_cons, List.length_append] at ih ⊢
      rw [ih]
      simp only [Text.hexPair, List.length_cons, List.length_nil]
      omega

theorem mem_hexText {bytes : List UInt8} {c : Char} (member : c ∈ hexText bytes) :
    ∃ digit < 16, c = Nat.digitChar digit := by
  simp only [hexText, List.mem_flatMap, Text.hexPair, List.mem_cons,
    List.not_mem_nil, or_false] at member
  obtain ⟨byte, -, rfl | rfl⟩ := member
  · have := byte.toNat_lt
    exact ⟨byte.toNat / 16, by omega, rfl⟩
  · exact ⟨byte.toNat % 16, Nat.mod_lt _ (by omega), rfl⟩

end Digest

namespace Arguments

@[simp] theorem length_fingerprint (arguments : Arguments) :
    arguments.fingerprint.toList.length = 8 := by
  simp [fingerprint]

theorem mem_fingerprint {arguments : Arguments} {c : Char}
    (member : c ∈ arguments.fingerprint.toList) :
    ∃ digit < 16, c = Nat.digitChar digit := by
  rw [fingerprint, String.toList_ofList] at member
  exact Digest.mem_hexText (List.mem_of_mem_take member)

theorem text_eq_empty_of_isEmpty {arguments : Arguments}
    (empty : arguments.isEmpty = true) : arguments.text = "" := by
  simp [text, empty]

theorem responseKey_of_isEmpty {arguments : Arguments}
    (empty : arguments.isEmpty = true) (name : String) :
    arguments.responseKey name = name := by
  simp [responseKey, alias?, empty]

theorem responseKey_of_not_isEmpty {arguments : Arguments}
    (given : arguments.isEmpty = false) (name : String) :
    arguments.responseKey name = name ++ "__" ++ arguments.fingerprint := by
  simp [responseKey, alias?, given]

theorem append_fingerprint_inj {first second : Arguments} {name other : String} :
    name ++ "__" ++ first.fingerprint = other ++ "__" ++ second.fingerprint ↔
      name = other ∧ first.fingerprint = second.fingerprint := by
  constructor
  · intro equal
    have characters := congrArg String.toList equal
    simp only [String.toList_append] at characters
    obtain ⟨front, digits⟩ :=
      List.append_inj' characters (by rw [length_fingerprint, length_fingerprint])
    exact ⟨String.toList_inj.mp (List.append_cancel_right front),
      String.toList_inj.mp digits⟩
  · rintro ⟨rfl, equal⟩
    rw [equal]

/--
Two requests that differ and still have one response key: one field whose
arguments share a fingerprint, or a field without arguments whose name is the
alias of the other.
-/
def Clash (name : String) (arguments : Arguments) (other : String)
    (otherArguments : Arguments) : Prop :=
  (name = other ∧ arguments.isEmpty = false ∧ otherArguments.isEmpty = false ∧
      arguments.fingerprint = otherArguments.fingerprint) ∨
    (arguments.isEmpty = true ∧ otherArguments.isEmpty = false ∧
      name = other ++ "__" ++ otherArguments.fingerprint) ∨
    (arguments.isEmpty = false ∧ otherArguments.isEmpty = true ∧
      other = name ++ "__" ++ arguments.fingerprint)

instance (name : String) (arguments : Arguments) (other : String)
    (otherArguments : Arguments) :
    Decidable (Clash name arguments other otherArguments) :=
  inferInstanceAs (Decidable (_ ∨ _ ∨ _))

theorem responseKey_eq_iff_clash {name other : String}
    {arguments otherArguments : Arguments}
    (differ : name ≠ other ∨ arguments.text ≠ otherArguments.text) :
    arguments.responseKey name = otherArguments.responseKey other ↔
      Clash name arguments other otherArguments := by
  cases empty : arguments.isEmpty <;>
    cases otherEmpty : otherArguments.isEmpty
  · rw [responseKey_of_not_isEmpty empty, responseKey_of_not_isEmpty otherEmpty,
      append_fingerprint_inj]
    simp [Clash, empty, otherEmpty]
  · rw [responseKey_of_not_isEmpty empty, responseKey_of_isEmpty otherEmpty]
    simp [Clash, empty, otherEmpty, eq_comm]
  · rw [responseKey_of_isEmpty empty, responseKey_of_not_isEmpty otherEmpty]
    simp [Clash, empty, otherEmpty]
  · have namesDiffer : name ≠ other := by
      rcases differ with names | texts
      · exact names
      · exact absurd ((text_eq_empty_of_isEmpty empty).trans
          (text_eq_empty_of_isEmpty otherEmpty).symm) texts
    rw [responseKey_of_isEmpty empty, responseKey_of_isEmpty otherEmpty]
    simp [Clash, empty, otherEmpty, namesDiffer]

end Arguments

end TypedGraphQL
