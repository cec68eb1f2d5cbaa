import TypedGraphQL.Response.SelectionSet

namespace TypedGraphQL

/-- The error of a node that the scope rules out by its shape. -/
def Scope.misfit? : Scope → String → Json → Option DecodeError
  | .type _, _, .object _ => none
  | .type _, label, .null => some (.nullNonNullable label)
  | .type _, label, node => some (.mismatch label "object" node)
  | .list _, _, .array _ => none
  | .list _, label, .null => some (.nullNonNullable label)
  | .list _, label, node => some (.mismatch label "list" node)
  | .nullable _, _, .null => none
  | .nullable value, label, node => value.misfit? label node

theorem Scope.misfit?_nullable (scope : Scope) (label : String) {node : Json}
    (present : node ≠ .null) :
    (Scope.nullable scope).misfit? label node = scope.misfit? label node := by
  cases node with
  | null => exact absurd rfl present
  | _ => rfl

theorem Scope.exists_array {scope : Scope} {label : String} {node : Json}
    (fits : (Scope.list scope).misfit? label node = none) :
    ∃ items, node = .array items := by
  cases node with
  | array items => exact ⟨items, rfl⟩
  | _ => cases fits

namespace SelectionSet

theorem decode_nullable {scope : Scope} {α : Type}
    (selection : SelectionSet scope α) (label : String) {node : Json}
    (present : node ≠ .null) :
    (SelectionSet.nullable selection).decode label node =
      (selection.decode label node).map some := by
  cases node with
  | null => exact absurd rfl present
  | _ => rfl

theorem decode_of_misfit {label : String} {node : Json} {error : DecodeError} :
    ∀ {scope : Scope} {α : Type} (selection : SelectionSet scope α),
      scope.misfit? label node = some error →
      selection.decode label node = .error error
  | _, _, .build _, misfit => by
      cases node <;> cases misfit <;> rfl
  | _, _, .list _, misfit => by
      cases node <;> cases misfit <;> rfl
  | .nullable scope, _, .nullable value, misfit => by
      have present : node ≠ .null := by
        rintro rfl
        cases misfit
      rw [scope.misfit?_nullable label present] at misfit
      rw [decode_nullable value label present, decode_of_misfit value misfit]
      rfl
  | _, _, .map _ selection, misfit => by
      rw [SelectionSet.decode, decode_of_misfit selection misfit]
      rfl
  | _, _, .merge left _ _, misfit => by
      rw [SelectionSet.decode, decode_of_misfit left misfit]
      rfl

end SelectionSet

section Items

variable {α : Type} {decode : String → Json → Except DecodeError α}
  {label : String} {index : Nat} {item : Json} {rest : List Json}
  {error : DecodeError}

theorem decodeItems_cons_eq_ok_iff {values : List α} :
    decodeItems decode label index (item :: rest) = .ok values ↔
      ∃ value others, decode (itemLabel label index) item = .ok value ∧
        decodeItems decode label (index + 1) rest = .ok others ∧
        values = value :: others := by
  rw [decodeItems]
  cases decode (itemLabel label index) item with
  | error failed => exact ⟨nofun, nofun⟩
  | ok value =>
      cases decodeItems decode label (index + 1) rest with
      | error failed => exact ⟨nofun, nofun⟩
      | ok others =>
          constructor
          · rintro ⟨⟩
            exact ⟨value, others, rfl, rfl, rfl⟩
          · rintro ⟨_, _, ⟨⟩, ⟨⟩, rfl⟩
            rfl

theorem decodeItems_cons_eq_error_iff :
    decodeItems decode label index (item :: rest) = .error error ↔
      decode (itemLabel label index) item = .error error ∨
        ∃ value, decode (itemLabel label index) item = .ok value ∧
          decodeItems decode label (index + 1) rest = .error error := by
  rw [decodeItems]
  cases decode (itemLabel label index) item with
  | error failed =>
      constructor
      · rintro ⟨⟩
        exact .inl rfl
      · rintro (⟨⟨⟩⟩ | ⟨_, ⟨⟩, _⟩)
        rfl
  | ok value =>
      cases decodeItems decode label (index + 1) rest with
      | error failed =>
          constructor
          · rintro ⟨⟩
            exact .inr ⟨value, rfl, rfl⟩
          · rintro (⟨⟨⟩⟩ | ⟨_, _, ⟨⟩⟩)
            rfl
      | ok others =>
          constructor
          · nofun
          · rintro (⟨⟨⟩⟩ | ⟨_, _, ⟨⟩⟩)

theorem decodeItems_eq_ok_iff {items : List Json} {values : List α} :
    decodeItems decode label index items = .ok values ↔
      values.length = items.length ∧ ∀ i item value, items[i]? = some item →
        values[i]? = some value →
        decode (itemLabel label (index + i)) item = .ok value := by
  induction items generalizing index values with
  | nil =>
      rw [decodeItems, Except.ok.injEq]
      constructor
      · rintro rfl
        exact ⟨rfl, nofun⟩
      · rintro ⟨length, -⟩
        exact (List.length_eq_zero_iff.mp length).symm
  | cons item rest ih =>
      rw [decodeItems_cons_eq_ok_iff]
      constructor
      · rintro ⟨value, others, here, below, rfl⟩
        obtain ⟨length, each⟩ := ih.mp below
        refine ⟨congrArg (· + 1) length, ?_⟩
        rintro (_ | i) found result foundAt resultAt
        · cases foundAt
          cases resultAt
          exact here
        · rw [← Nat.succ_add_eq_add_succ]
          exact each i found result foundAt resultAt
      · rintro ⟨length, each⟩
        obtain ⟨value, others, rfl⟩ :=
          List.exists_cons_of_length_eq_add_one length
        refine ⟨value, others, each 0 item value rfl rfl, ih.mpr ⟨?_, ?_⟩, rfl⟩
        · exact Nat.succ.inj length
        · intro i found result foundAt resultAt
          rw [Nat.succ_add_eq_add_succ]
          exact each (i + 1) found result foundAt resultAt

theorem decodeItems_eq_error_iff {items : List Json} :
    decodeItems decode label index items = .error error ↔
      ∃ i item, items[i]? = some item ∧
        decode (itemLabel label (index + i)) item = .error error ∧
        ∀ j < i, ∀ other, items[j]? = some other →
          ∃ value, decode (itemLabel label (index + j)) other = .ok value := by
  induction items generalizing index with
  | nil => exact ⟨nofun, nofun⟩
  | cons item rest ih =>
      rw [decodeItems_cons_eq_error_iff]
      constructor
      · rintro (here | ⟨value, here, below⟩)
        · exact ⟨0, item, rfl, here, nofun⟩
        · obtain ⟨i, failed, failedAt, failure, before⟩ := ih.mp below
          rw [Nat.succ_add_eq_add_succ] at failure
          refine ⟨i + 1, failed, failedAt, failure, ?_⟩
          rintro (_ | j) earlier other otherAt
          · cases otherAt
            exact ⟨value, here⟩
          · rw [← Nat.succ_add_eq_add_succ]
            exact before j (Nat.lt_of_succ_lt_succ earlier) other otherAt
      · rintro ⟨_ | i, failed, failedAt, failure, before⟩
        · cases failedAt
          exact .inl failure
        · obtain ⟨value, here⟩ := before 0 (Nat.succ_pos i) item rfl
          rw [← Nat.succ_add_eq_add_succ] at failure
          refine .inr ⟨value, here, ih.mpr ⟨i, failed, failedAt, failure, ?_⟩⟩
          intro j earlier other otherAt
          rw [Nat.succ_add_eq_add_succ]
          exact before (j + 1) (Nat.succ_lt_succ earlier) other otherAt

end Items

/-! Wrappings -/

/-- What is done to a selection with results in `α` to get one in `β`. -/
inductive Wrapping (scope : Scope) (α : Type) : Scope → Type → Type 1 where
  | core : Wrapping scope α scope α
  | list {outer : Scope} {β : Type} (element : Wrapping scope α outer β) :
      Wrapping scope α (.list outer) (List β)
  | nullable {outer : Scope} {β : Type} (value : Wrapping scope α outer β) :
      Wrapping scope α (.nullable outer) (Option β)
  | map {outer : Scope} {β γ : Type} (change : β → γ)
      (inner : Wrapping scope α outer β) : Wrapping scope α outer γ

namespace Wrapping

variable {scope : Scope} {α : Type}

def wrap (core : SelectionSet scope α) : {outer : Scope} → {β : Type} →
    Wrapping scope α outer β → SelectionSet outer β
  | _, _, .core => core
  | _, _, .list element => .list (element.wrap core)
  | _, _, .nullable value => .nullable (value.wrap core)
  | _, _, .map change inner => .map change (inner.wrap core)

/--
The value has the shape of the node: lists have an element for each of its
elements, absent values are its nulls, and each change is made to what it is
given once.
-/
def Mirrors (core : SelectionSet scope α) : {outer : Scope} → {β : Type} →
    Wrapping scope α outer β → String → Json → β → Prop
  | _, _, .core, label, node, value => core.decode label node = .ok value
  | _, _, .list element, label, node, values =>
    ∃ items, node = .array items ∧ values.length = items.length ∧
      ∀ i item value, items[i]? = some item → values[i]? = some value →
        element.Mirrors core (itemLabel label i) item value
  | _, _, .nullable value, label, node, result =>
    (node = .null ∧ result = none) ∨
      ∃ present, node ≠ .null ∧ result = some present ∧
        value.Mirrors core label node present
  | _, _, .map change inner, label, node, result =>
    ∃ value, inner.Mirrors core label node value ∧ result = change value

/--
The element at the path fails by itself: it is in the place of a list and is
none, or the innermost selection does not decode it.
-/
def FailsAt (core : SelectionSet scope α) : {outer : Scope} → {β : Type} →
    Wrapping scope α outer β → String → Json → List Nat → DecodeError → Prop
  | _, _, .core, label, node, path, error =>
    path = [] ∧ core.decode label node = .error error
  | .list outer, _, .list element, label, node, path, error =>
    (path = [] ∧ (Scope.list outer).misfit? label node = some error) ∨
      ∃ items i item rest, node = .array items ∧ items[i]? = some item ∧
        path = i :: rest ∧
        element.FailsAt core (itemLabel label i) item rest error
  | _, _, .nullable value, label, node, path, error =>
    node ≠ .null ∧ value.FailsAt core label node path error
  | _, _, .map _ inner, label, node, path, error =>
    inner.FailsAt core label node path error

theorem selections_wrap (core : SelectionSet scope α) {outer : Scope} {β : Type}
    (wrapping : Wrapping scope α outer β) :
    (wrapping.wrap core).selections = core.selections := by
  induction wrapping with
  | core => rfl
  | list element ih => exact ih
  | nullable value ih => exact ih
  | map change inner ih => exact ih

theorem decode_wrap_eq_ok_iff (core : SelectionSet scope α) {outer : Scope}
    {β : Type} (wrapping : Wrapping scope α outer β) {label : String}
    {node : Json} {value : β} :
    (wrapping.wrap core).decode label node = .ok value ↔
      wrapping.Mirrors core label node value := by
  induction wrapping generalizing label node with
  | core => exact Iff.rfl
  | @list outer β element ih =>
      rw [Mirrors, wrap]
      cases misfit : (Scope.list outer).misfit? label node with
      | some failed =>
          rw [SelectionSet.decode_of_misfit _ misfit]
          refine ⟨nofun, ?_⟩
          rintro ⟨items, rfl, -⟩
          cases misfit
      | none =>
          obtain ⟨items, rfl⟩ := Scope.exists_array misfit
          rw [SelectionSet.decode, decodeItems_eq_ok_iff]
          simp only [Nat.zero_add, ih, Json.array.injEq, exists_eq_left']
  | nullable inner ih =>
      rw [Mirrors, wrap]
      by_cases absent : node = .null
      · subst absent
        simp [SelectionSet.decode, eq_comm]
      · rw [SelectionSet.decode_nullable _ label absent]
        simp only [← ih]
        cases (inner.wrap core).decode label node <;>
          simp [Except.map, absent, eq_comm]
  | map change inner ih =>
      rw [Mirrors, wrap, SelectionSet.decode]
      simp only [← ih]
      cases (inner.wrap core).decode label node <;>
        simp [Except.map, eq_comm]

/-! The first failure -/

/-- The path stands no later in the document than the other one. -/
def NotAfter (path other : List Nat) : Prop :=
  path = other ∨ List.Lex (· < ·) path other

theorem notAfter_cons_iff {i j : Nat} {path other : List Nat} :
    NotAfter (i :: path) (j :: other) ↔ i < j ∨ i = j ∧ NotAfter path other := by
  constructor
  · rintro (same | before)
    · cases same
      exact .inr ⟨rfl, .inl rfl⟩
    · cases before with
      | rel earlier => exact .inl earlier
      | cons below => exact .inr ⟨rfl, .inr below⟩
  · rintro (earlier | ⟨rfl, rfl | below⟩)
    · exact .inr (.rel earlier)
    · exact .inl rfl
    · exact .inr (.cons below)

/-- The error is that of the first element in the document that fails. -/
def FailsFirst (core : SelectionSet scope α) {outer : Scope} {β : Type}
    (wrapping : Wrapping scope α outer β) (label : String) (node : Json)
    (error : DecodeError) : Prop :=
  ∃ path, wrapping.FailsAt core label node path error ∧
    ∀ other otherError, wrapping.FailsAt core label node other otherError →
      NotAfter path other

theorem failsAt_array_iff (core : SelectionSet scope α) {outer : Scope}
    {β : Type} (element : Wrapping scope α outer β) {label : String}
    {items : List Json} {path : List Nat} {error : DecodeError} :
    (list element).FailsAt core label (.array items) path error ↔
      ∃ i item rest, items[i]? = some item ∧ path = i :: rest ∧
        element.FailsAt core (itemLabel label i) item rest error := by
  constructor
  · rintro (⟨-, ⟨⟩⟩ | ⟨_, i, item, rest, ⟨⟩, itemAt, rfl, fails⟩)
    exact ⟨i, item, rest, itemAt, rfl, fails⟩
  · rintro ⟨i, item, rest, itemAt, rfl, fails⟩
    exact .inr ⟨items, i, item, rest, rfl, itemAt, rfl, fails⟩

theorem failsAt_list_of_misfit (core : SelectionSet scope α) {outer : Scope}
    {β : Type} (element : Wrapping scope α outer β) {label : String}
    {node : Json} {failed : DecodeError}
    (misfit : (Scope.list outer).misfit? label node = some failed)
    {path : List Nat} {error : DecodeError} :
    (list element).FailsAt core label node path error ↔
      path = [] ∧ failed = error := by
  rw [FailsAt, misfit, Option.some.injEq]
  constructor
  · rintro (here | ⟨items, _, _, _, rfl, -⟩)
    · exact here
    · cases misfit
  · exact .inl

theorem not_failsAt_of_mirrors {core : SelectionSet scope α} {outer : Scope}
    {β : Type} {wrapping : Wrapping scope α outer β} {label : String}
    {node : Json} {value : β} {path : List Nat} {error : DecodeError}
    (mirrors : wrapping.Mirrors core label node value) :
    ¬ wrapping.FailsAt core label node path error := by
  intro fails
  induction wrapping generalizing label node path with
  | core =>
      have failed := fails.2
      rw [mirrors] at failed
      cases failed
  | list element ih =>
      obtain ⟨items, rfl, length, each⟩ := mirrors
      obtain ⟨i, item, rest, itemAt, rfl, below⟩ :=
        (failsAt_array_iff core element).mp fails
      obtain ⟨inItems, -⟩ := List.getElem?_eq_some_iff.mp itemAt
      have valueAt := List.getElem?_eq_getElem (length ▸ inItems)
      exact ih (each i item _ itemAt valueAt) below
  | nullable inner ih =>
      obtain ⟨present, below⟩ := fails
      rcases mirrors with ⟨absent, -⟩ | ⟨value, -, -, mirrors⟩
      · exact present absent
      · exact ih mirrors below
  | map change inner ih =>
      obtain ⟨_, mirrors, -⟩ := mirrors
      exact ih mirrors fails

theorem failsFirst_array_iff (core : SelectionSet scope α) {outer : Scope}
    {β : Type} (element : Wrapping scope α outer β) {label : String}
    {items : List Json} {error : DecodeError} :
    (list element).FailsFirst core label (.array items) error ↔
      ∃ i item, items[i]? = some item ∧
        element.FailsFirst core (itemLabel label i) item error ∧
        ∀ j < i, ∀ other, items[j]? = some other → ∀ path otherError,
          ¬ element.FailsAt core (itemLabel label j) other path otherError := by
  simp only [FailsFirst, failsAt_array_iff]
  constructor
  · rintro ⟨_, ⟨i, item, rest, itemAt, rfl, fails⟩, first⟩
    refine ⟨i, item, itemAt, ⟨rest, fails, ?_⟩, ?_⟩
    · intro below otherError otherFails
      have order := first (i :: below) otherError
        ⟨i, item, below, itemAt, rfl, otherFails⟩
      rw [notAfter_cons_iff] at order
      exact (order.resolve_left (Nat.lt_irrefl i)).2
    · intro j earlier other otherAt below otherError otherFails
      have order := first (j :: below) otherError
        ⟨j, other, below, otherAt, rfl, otherFails⟩
      rw [notAfter_cons_iff] at order
      omega
  · rintro ⟨i, item, itemAt, ⟨rest, fails, first⟩, before⟩
    refine ⟨i :: rest, ⟨i, item, rest, itemAt, rfl, fails⟩, ?_⟩
    rintro _ otherError ⟨j, other, below, otherAt, rfl, otherFails⟩
    rw [notAfter_cons_iff]
    rcases Nat.lt_trichotomy i j with later | rfl | earlier
    · exact .inl later
    · rw [itemAt] at otherAt
      cases otherAt
      exact .inr ⟨rfl, first below otherError otherFails⟩
    · exact absurd otherFails (before j earlier other otherAt below otherError)

theorem exists_value_iff {core : SelectionSet scope α} {outer : Scope} {β : Type}
    (wrapping : Wrapping scope α outer β) {label : String} {node : Json}
    (blames : ∀ {label node error},
      (wrapping.wrap core).decode label node = .error error →
        wrapping.FailsFirst core label node error) :
    (∃ value, (wrapping.wrap core).decode label node = .ok value) ↔
      ∀ path error, ¬ wrapping.FailsAt core label node path error := by
  constructor
  · rintro ⟨value, decoded⟩ path error
    rw [decode_wrap_eq_ok_iff] at decoded
    exact not_failsAt_of_mirrors decoded
  · intro sound
    cases decoded : (wrapping.wrap core).decode label node with
    | error error =>
        obtain ⟨path, fails, -⟩ := blames decoded
        exact absurd fails (sound path error)
    | ok value => exact ⟨value, rfl⟩

theorem decode_wrap_eq_error_iff (core : SelectionSet scope α) {outer : Scope}
    {β : Type} (wrapping : Wrapping scope α outer β) {label : String}
    {node : Json} {error : DecodeError} :
    (wrapping.wrap core).decode label node = .error error ↔
      wrapping.FailsFirst core label node error := by
  induction wrapping generalizing label node error with
  | core =>
      constructor
      · intro failed
        exact ⟨[], ⟨rfl, failed⟩, fun _ _ fails => .inl fails.1.symm⟩
      · rintro ⟨_, fails, -⟩
        exact fails.2
  | @list outer β element ih =>
      cases misfit : (Scope.list outer).misfit? label node with
      | some failed =>
          rw [SelectionSet.decode_of_misfit _ misfit, Except.error.injEq]
          simp only [FailsFirst, failsAt_list_of_misfit core element misfit]
          constructor
          · rintro rfl
            exact ⟨[], ⟨rfl, rfl⟩, fun _ _ other => .inl other.1.symm⟩
          · rintro ⟨_, ⟨-, same⟩, -⟩
            exact same
      | none =>
          obtain ⟨items, rfl⟩ := Scope.exists_array misfit
          rw [wrap, SelectionSet.decode, decodeItems_eq_error_iff,
            failsFirst_array_iff]
          simp only [Nat.zero_add, ih, exists_value_iff element ih.mp]
  | nullable inner ih =>
      by_cases absent : node = .null
      · subst absent
        constructor
        · intro failed
          rw [wrap, SelectionSet.decode] at failed
          cases failed
        · rintro ⟨_, fails, -⟩
          exact absurd rfl fails.1
      · have below := @ih label node error
        simp only [FailsFirst, FailsAt, ne_eq, absent, not_false_eq_true,
          true_and] at below ⊢
        rw [← below, wrap, SelectionSet.decode_nullable _ label absent]
        cases (inner.wrap core).decode label node <;> simp [Except.map]
  | map change inner ih =>
      have below := @ih label node error
      simp only [FailsFirst, FailsAt] at below ⊢
      rw [← below, wrap, SelectionSet.decode]
      cases (inner.wrap core).decode label node <;> simp [Except.map]

end Wrapping

/-! Where errors say that they are -/

def pathLabel (label : String) (path : List Nat) : String :=
  label ++ String.join (path.map fun i => "[" ++ toString i ++ "]")

theorem pathLabel_nil (label : String) : pathLabel label [] = label := by
  simp [pathLabel]

theorem pathLabel_cons (label : String) (i : Nat) (path : List Nat) :
    pathLabel label (i :: path) = pathLabel (itemLabel label i) path := by
  simp [pathLabel, itemLabel, String.append_assoc]

def Json.at? : Json → List Nat → Option Json
  | node, [] => some node
  | .array items, i :: path => items[i]?.bind (·.at? path)
  | _, _ :: _ => none

def Scope.at? : Scope → List Nat → Option Scope
  | scope, [] => some scope
  | .type _, _ :: _ => none
  | .list element, _ :: path => element.at? path
  | .nullable value, i :: path => value.at? (i :: path)

namespace Wrapping

/--
The element at the path gives the error: a misfit by its shape, and the error of
the innermost selection otherwise, both with the indices on the way to it.
-/
def Blames (core : SelectionSet scope α) (outer : Scope) (label : String)
    (node : Json) (path : List Nat) (error : DecodeError) : Prop :=
  ∃ place element, outer.at? path = some place ∧ node.at? path = some element ∧
    match place.misfit? (pathLabel label path) element with
    | some misfit => error = misfit
    | none => core.decode (pathLabel label path) element = .error error

theorem FailsAt.blames {core : SelectionSet scope α} {outer : Scope} {β : Type}
    {wrapping : Wrapping scope α outer β} {label : String} {node : Json}
    {path : List Nat} {error : DecodeError}
    (fails : wrapping.FailsAt core label node path error) :
    Blames core outer label node path error := by
  induction wrapping generalizing label node path with
  | core =>
      obtain ⟨rfl, failed⟩ := fails
      refine ⟨scope, node, by rw [Scope.at?], by rw [Json.at?], ?_⟩
      rw [pathLabel_nil]
      split
      next misfit found =>
        rw [SelectionSet.decode_of_misfit core found, Except.error.injEq]
          at failed
        exact failed.symm
      next => exact failed
  | @list outer β element ih =>
      rcases fails with
        ⟨rfl, misfit⟩ | ⟨items, i, item, rest, rfl, itemAt, rfl, below⟩
      · refine ⟨.list outer, node, by rw [Scope.at?], by rw [Json.at?], ?_⟩
        rw [pathLabel_nil, misfit]
      · obtain ⟨place, found, placeAt, foundAt, blamed⟩ := ih below
        refine ⟨place, found, ?_, ?_, ?_⟩
        · rw [Scope.at?, placeAt]
        · rw [Json.at?, itemAt, Option.bind_some, foundAt]
        · rw [pathLabel_cons]
          exact blamed
  | @nullable outer β inner ih =>
      obtain ⟨present, below⟩ := fails
      obtain ⟨place, found, placeAt, foundAt, blamed⟩ := ih below
      cases path with
      | nil =>
          rw [Scope.at?, Option.some.injEq] at placeAt
          rw [Json.at?, Option.some.injEq] at foundAt
          subst placeAt foundAt
          refine ⟨.nullable outer, node, by rw [Scope.at?], by rw [Json.at?], ?_⟩
          rw [Scope.misfit?_nullable _ _ present]
          exact blamed
      | cons i rest => exact ⟨place, found, placeAt, foundAt, blamed⟩
  | map change inner ih => exact ih fails

/--
Decoding a wrapped selection.  It succeeds with just the values that have the
shape of the node, and fails with the error of the first element in the document
that fails, which is blamed by its path.  The requests are those of the
innermost selection.
-/
theorem decode_wrap (core : SelectionSet scope α) {outer : Scope} {β : Type}
    (wrapping : Wrapping scope α outer β) (label : String) (node : Json) :
    (∀ value, (wrapping.wrap core).decode label node = .ok value ↔
      wrapping.Mirrors core label node value) ∧
    (∀ error, (wrapping.wrap core).decode label node = .error error ↔
      wrapping.FailsFirst core label node error) ∧
    (∀ path error, wrapping.FailsAt core label node path error →
      Blames core outer label node path error) ∧
    (wrapping.wrap core).selections = core.selections :=
  ⟨fun _ => wrapping.decode_wrap_eq_ok_iff core,
    fun _ => wrapping.decode_wrap_eq_error_iff core,
    fun _ _ fails => fails.blames, wrapping.selections_wrap core⟩

example :
    ((Wrapping.list (.list .core)).wrap
      (.build (.leaf "name" .empty .string .done) :
        SelectionSet (.type "Character") String)).decode "heroes"
      (.array [.array [.object [("name", .string "Luke")]], .array [.null]]) =
      .error (.nullNonNullable "heroes[1][0]") := by
  cbv

end Wrapping

end TypedGraphQL
